import ServiceCli.Options.Basic
import ServiceCli.Text.Pieces

/-!
# Arguments on the command line

The first argument names a command, and the others are its options (`Invocation.ofArguments`). An
option is given by a long name after two hyphens or by a letter after one. Its value follows
behind an equals sign or as the next argument, and behind a letter also without a sign. Letters of
options without a value may be written together.

What cannot be understood is a `Usage.wrong`; a question for help is a `Usage.help`.
-/

namespace ServiceCli.Cli

open Text

/-- Why a command is not run. -/
inductive Usage where
  | help
  | wrong
  deriving DecidableEq, Repr

/-- An option. -/
inductive Opt where
  | files | includeDir | output | config | paths | verbose | format | method
  deriving DecidableEq, Repr

namespace Opt

/-- The name of an option after two hyphens. -/
def long : Opt → String
  | files => "files"
  | includeDir => "include-dir"
  | output => "output"
  | config => "config"
  | paths => "paths"
  | verbose => "verbose"
  | format => "format"
  | method => "method"

/-- The letter of an option after one hyphen. -/
def letter? : Opt → Option Char
  | files => some 'f'
  | includeDir => some 'i'
  | output => some 'o'
  | config => some 'c'
  | verbose => some 'v'
  | _ => none

/-- Whether an option has a value. -/
def takesValue (o : Opt) : Bool :=
  o != verbose

/-- Whether an option may be given more than once. -/
def mayRepeat (o : Opt) : Bool :=
  o == files || o == includeDir

/-- Whether `value` can be the value of an option. Paths are not empty. -/
def accepts (o : Opt) (value : String) : Bool :=
  match o with
  | files | includeDir | output | config => value != ""
  | paths => (Layout.ofName? value).isSome
  | format => ["json", "yaml"].contains value
  | _ => true

end Opt

/-- Options with their values, in the order in which they are given, and whether help is asked for
after them. -/
structure Given where
  options : List (Opt × String) := []
  help : Bool := false
  deriving DecidableEq, Repr

/-- What is given when an option comes first. -/
def Given.cons (o : Opt) (value : String) (g : Given) : Given :=
  { g with options := (o, value) :: g.options }

/-- What one argument that starts with a hyphen holds. -/
inductive Argument where
  /-- Options with their values. -/
  | whole (options : List (Opt × String)) (help : Bool)
  /-- Options, the last of which has its value in the next argument. -/
  | awaiting (options : List (Opt × String)) (last : Opt)
  deriving Repr

/-- Puts an option in front. -/
def Argument.cons (o : Opt) : Argument → Argument
  | whole os help => whole ((o, "") :: os) help
  | awaiting os last => awaiting ((o, "") :: os) last

/-- The argument that starts with two hyphens. -/
def longArgument? (allowed : List Opt) (name : String) : Option Argument :=
  let (name, value) := match cutFirst '=' name with
    | some (name, value) => (name, some value)
    | none => (name, none)
  if name = "help" then if value.isNone then some (.whole [] true) else none
  else match allowed.find? (·.long == name), value with
    | some o, some v => if o.takesValue then some (.whole [(o, v)] false) else none
    | some o, none => some (if o.takesValue then .awaiting [] o else .whole [(o, "")] false)
    | none, _ => none

/-- The argument that starts with one hyphen. -/
def letters? (allowed : List Opt) : List Char → Option Argument
  | [] => some (.whole [] false)
  | c :: cs =>
    if c = 'h' then some (.whole [] true)
    else match allowed.find? (·.letter? == some c) with
      | none => none
      | some o =>
        if !o.takesValue then (letters? allowed cs).map (Argument.cons o)
        else match cs with
          | [] => some (.awaiting [] o)
          | '=' :: value => some (.whole [(o, String.ofList value)] false)
          | value => some (.whole [(o, String.ofList value)] false)

/-- Whether an argument can only be a value. A single hyphen can. -/
def isValue (arg : String) : Bool :=
  arg == "-" || (afterLead "-" arg).isNone

/-- The options in the arguments after the name of a command. -/
def given? (allowed : List Opt) : List String → Option Given
  | [] => some {}
  | arg :: args =>
    if arg = "--" then if args.isEmpty then some {} else none
    else if isValue arg then none
    else
      let argument := match afterLead "--" arg with
        | some name => longArgument? allowed name
        | none => letters? allowed (arg.toList.drop 1)
      match argument with
      | none => none
      | some (.whole os help) =>
        if help then some ⟨os, true⟩
        else (given? allowed args).map fun g => { g with options := os ++ g.options }
      | some (.awaiting os last) =>
        match args with
        | [] => none
        | value :: rest =>
          if isValue value then
            (given? allowed rest).map fun g =>
              { g with options := os ++ (last, value) :: g.options }
          else none

/-- Whether every option has a value it accepts and is given no more often than it may be. -/
def areAccepted : List (Opt × String) → Bool
  | [] => true
  | (o, value) :: rest =>
    o.accepts value && (o.mayRepeat || !(rest.map Prod.fst).contains o) && areAccepted rest

/-- The values of an option. -/
def valuesOf (o : Opt) (options : List (Opt × String)) : List String :=
  (options.filter (·.1 == o)).map Prod.snd

/-- The value of an option that is given at most once. -/
def valueOf (o : Opt) (options : List (Opt × String)) : Option String :=
  (valuesOf o options).head?

/-- How an outline is printed. -/
inductive OutlineFormat where
  | json | yaml
  deriving DecidableEq, Repr

/-- What is to be generated, and where it is written. -/
structure GenerateArguments where
  files : List String
  includes : List String
  output : String
  config : Option String
  paths : Option Layout
  verbose : Bool
  deriving DecidableEq, Repr

/-- What is to be printed. -/
structure AnalyzeArguments where
  files : List String
  includes : List String
  config : Option String
  format : OutlineFormat
  /-- The only method to print, as the names of its service and of itself with a dot between
  them. -/
  method : Option String
  deriving DecidableEq, Repr

/-- A command with its options. -/
inductive Invocation where
  | generate (arguments : GenerateArguments)
  | analyze (arguments : AnalyzeArguments)
  deriving DecidableEq, Repr

/-- The options of the command that generates. -/
def generateOptions : List Opt :=
  [.files, .includeDir, .output, .config, .paths, .verbose]

/-- The options of the command that prints. -/
def analyzeOptions : List Opt :=
  [.files, .includeDir, .config, .format, .method]

/-- The command that generates, with its options. -/
def GenerateArguments.ofOptions (os : List (Opt × String)) : GenerateArguments where
  files := valuesOf .files os
  includes := valuesOf .includeDir os
  output := (valueOf .output os).getD "generated"
  config := valueOf .config os
  paths := (valueOf .paths os).bind Layout.ofName?
  verbose := (valueOf .verbose os).isSome

/-- The command that prints, with its options. -/
def AnalyzeArguments.ofOptions (os : List (Opt × String)) : AnalyzeArguments where
  files := valuesOf .files os
  includes := valuesOf .includeDir os
  config := valueOf .config os
  format := if valueOf .format os = some "yaml" then .yaml else .json
  method := valueOf .method os

/-- The options of a command. Some file has to be among them. -/
def optionsOf (allowed : List Opt) (args : List String) : Except Usage (List (Opt × String)) :=
  match given? allowed args with
  | none => .error .wrong
  | some g =>
    if !areAccepted g.options then .error .wrong
    else if g.help then .error .help
    else if (valuesOf .files g.options).isEmpty then .error .wrong
    else .ok g.options

/-- Whether an argument in place of a command asks for help. -/
def asksForHelp (arg : String) : Bool :=
  arg == "--help" || (afterLead "-h" arg).isSome

/-- The command that arguments ask for. -/
def Invocation.ofArguments : List String → Except Usage Invocation
  | [] => throw .wrong
  | "codegen" :: args => do
    return .generate (.ofOptions (← optionsOf generateOptions args))
  | "analyze" :: args => do
    return .analyze (.ofOptions (← optionsOf analyzeOptions args))
  | ["help"] => throw .help
  | ["help", command] =>
    throw (if ["codegen", "analyze", "help"].contains command then .help else .wrong)
  | arg :: _ => throw (if asksForHelp arg then .help else .wrong)

end ServiceCli.Cli
