import ServiceCli.Cli.Run

/-!
# The command line program

The outer layer: it gathers the files that a command may read into a `Disk`, runs the command on
it, and prints and writes what is left. The same program is the plugin when it is called by the
name of the plugin.
-/

namespace ServiceCli.Main

open Cli Load

/-- The name by which the protocol compiler calls the plugin. -/
def pluginName : String := "protoc-gen-cobra"

/-- How the program is called. -/
def usageText : String :=
  "usage: cobra-gen codegen -f FILE... [-i DIR]... [-o DIR] [-c FILE] [--paths LAYOUT] [-v]\n"
    ++ "       cobra-gen analyze -f FILE... [-i DIR]... [-c FILE] [--format FORMAT]"
    ++ " [--method SERVICE.METHOD]"

/-- The location of a path, whether or not something stands there. -/
def locationOf (d : Disk) (path : String) : Location :=
  (Disk.names path).foldl (fun l name => if name = ".." then l.dropLast else l ++ [name])
    (d.start path)

/-- What stands at a path of the real disk. -/
def realNode (path : String) : IO (Option Node) := do
  try
    let real ← IO.FS.realPath path
    if ← real.isDir then return some .directory
    return some (.file (← IO.FS.readBinFile real).toList)
  catch _ => return none

/-- Puts what stands at paths of the real disk on the shelf. -/
def gather (s : Shelf) (paths : List String) : IO Shelf :=
  paths.foldlM (fun s path => do
    match ← realNode path with
    | some n => return { s with disk := s.disk.put (locationOf s.disk path) n }
    | none => return s) s

/-- Puts the schemas at paths of the real disk on the shelf, with everything they import. -/
partial def gatherSchemas (s : Shelf) : List String → IO Shelf
  | [] => return s
  | path :: paths => do
    if s.disk.holds path then gatherSchemas s paths
    else
      let s ← gather s [path]
      match s.read path with
      | .ok (schema, _) =>
        gatherSchemas s (schema.imports.flatMap (s.candidates path) ++ paths)
      | .error _ => gatherSchemas s paths

/-- The part of the real disk that a command may read. -/
def diskFor (i : Invocation) : IO Disk := do
  let current := Disk.names (← IO.currentDir).toString
  let (files, includes, config) := match i with
    | .generate a => (a.files, a.includes, a.config)
    | .analyze a => (a.files, a.includes, a.config)
  let s ← gather { disk := { current := current }, includes := includes } includes
  let s ← gatherSchemas s files
  return (← gather s config.toList).disk

/-- Writes the files that a run has made or changed. -/
def writeChanges (before after : Disk) : IO Unit := do
  for (l, n) in after.entries do
    match n with
    | .file bytes =>
      if before.entries.lookup l != some n then
        IO.FS.createDirAll (Location.path l.dropLast)
        IO.FS.writeBinFile l.path ⟨bytes.toArray⟩
    | .directory => pure ()

/-- Runs a command. -/
def runCommand (args : List String) : IO UInt32 := do
  let disk ← match Invocation.ofArguments args with
    | .ok i => diskFor i
    | .error _ => pure {}
  let r := run disk args
  IO.print r.session.printed
  writeChanges disk r.session.disk
  match r.ending with
  | .usage .help => IO.println usageText
  | .usage .wrong => IO.eprintln usageText
  | ending => ending.report?.forM IO.eprintln
  return UInt32.ofNat r.ending.code

/-- All bytes of a stream, after those that have been read. -/
partial def readAll (input : IO.FS.Stream) (done : ByteArray) : IO ByteArray := do
  let bytes ← input.read 65536
  if bytes.isEmpty then return done else readAll input (done ++ bytes)

/-- Answers a request of the protocol compiler. -/
def answerRequest : IO UInt32 := do
  let input ← readAll (← IO.getStdin) .empty
  match runPlugin input.toList with
  | .ok bytes =>
    let output ← IO.getStdout
    output.write ⟨bytes.toArray⟩
    output.flush
    return UInt32.ofNat Ending.done.code
  | .error f =>
    (Ending.failed f).report?.forM IO.eprintln
    return UInt32.ofNat (Ending.failed f).code

end ServiceCli.Main

/-- Runs the program as the plugin or as the command line tool. -/
def main (args : List String) : IO UInt32 := do
  if (← IO.appPath).fileStem = some ServiceCli.Main.pluginName then
    ServiceCli.Main.answerRequest
  else ServiceCli.Main.runCommand args
