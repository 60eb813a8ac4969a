import ServiceCli.Options.Parameter
import ServiceCli.Reading.Model
import ServiceCli.Yaml.Reading

/-!
# Options in a file

An options file is a YAML record. What it leaves out keeps its default.
-/

namespace ServiceCli.Options

/-- The options in the file that a path leads to. -/
def ofFile (d : Disk) (path : String) : Except OptionsError Options :=
  match d.readText path with
  | .error f => .error (.unreadable path f)
  | .ok s =>
    match Yaml.read? (fun F => F.options) s with
    | some o => .ok o
    | none => .error (.malformed path)

end ServiceCli.Options
