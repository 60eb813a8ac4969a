import ServiceCli.Disk.Basic
import ServiceCli.Options.Basic
import ServiceCli.Text.Blank
import ServiceCli.Text.Decimal

/-!
# Options in one parameter

The protocol compiler hands all options to a plugin in one text: `key=value` settings between
commas. `Options.ofParameter` reads them from left to right, so the last setting of a key
counts, and stops at the first one that it cannot use. A key that starts with `M` is followed by
the name of a `.proto` file and sets its import path.
-/

namespace ServiceCli

open Text

/-- Why the options cannot be used. -/
inductive OptionsError where
  | unknownParameter (key : String)
  | invalidValue (key value : String)
  /-- The options file cannot be read. -/
  | unreadable (path : String) (fault : Fault)
  /-- The options file does not hold options. -/
  | malformed (path : String)
  deriving DecidableEq, Repr

/-- The text of an error. -/
def OptionsError.message : OptionsError → String
  | unknownParameter key => "unknown generator parameter '" ++ key ++ "'"
  | invalidValue key value =>
    "invalid value '" ++ value ++ "' for parameter '" ++ key ++ "'"
  | unreadable path fault =>
    "failed to read config file '" ++ path ++ "': " ++ fault.message
  | malformed path => "failed to parse config file '" ++ path ++ "'"

/-- A whole number of 64 bits in decimal digits, with or without a plus sign. -/
def seconds? (s : String) : Option Nat :=
  let digits := match s.toList with
    | '+' :: cs => cs
    | cs => cs
  (decimal? digits).filter (· < UInt64.size)

namespace Options

/-- The key and the value of a setting. Without an equals sign all of it is the key. -/
def settingParts (setting : String) : String × String :=
  (cutFirst '=' setting).getD (setting, "")

/-- Applies the setting of a key that does not start with `M`. -/
def setKey (o : Options) (key value : String) : Except OptionsError Options :=
  if key = "plugins" then .ok o
  else if key = "paths" then
    match Layout.ofName? value with
    | some l => .ok { o with paths := l }
    | none => .error (.invalidValue key value)
  else if key = "import_prefix" then .ok { o with importPrefix := value }
  else if key = "server_addr" then .ok { o with serverAddr := value }
  else if key = "response_format" then .ok { o with responseFormat := value }
  else if key = "timeout" then
    match seconds? (dropTail "s" value) with
    | some n => .ok { o with timeoutSecs := n }
    | none => .error (.invalidValue key value)
  else if key = "auth_token_type" then .ok { o with authTokenType := value }
  else if key = "help" then .ok { o with helpText := value }
  else .error (.unknownParameter key)

/-- Applies one setting. -/
def apply (o : Options) (setting : String) : Except OptionsError Options :=
  let (key, value) := settingParts setting
  match afterLead "M" key with
  | some file => .ok { o with importOverrides := o.importOverrides.set file value }
  | none => o.setKey key value

/-- The settings in a parameter: its pieces between commas without blanks at their ends, and
without the empty ones. -/
def settings (parameter : String) : List String :=
  ((pieces ',' parameter).map trimmed).filter (· != "")

/-- The options that a parameter sets, over the defaults. -/
def ofParameter (parameter : String) : Except OptionsError Options :=
  (settings parameter).foldlM apply {}

end Options

end ServiceCli
