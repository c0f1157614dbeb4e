import GoUnion.CommandLine.Parser

/-!
# Usage

What a user is told about the options of the command line, and about arguments
that do not make sense.
-/

namespace GoUnion.CommandLine

/-- What an option with a value is for. -/
def Setting.summary : Setting → String
  | .type => "Struct to generate the union from"
  | .outType =>
    "Name of the union type [default: the input name capitalized, suffixed with Union]"
  | .source => "File declaring the struct [default: $GOFILE]"
  | .outFile => "Output file [default: <src>_gunion.go]"
  | .outPackage => "Package clause of the output file [default: $GOPACKAGE]"
  | .outPackagePath =>
    "Import path of the output package [default: the struct's package]"

/-- What an option without a value is for. -/
def Switch.summary : Switch → String
  | .publicValue => "Store the value in a single any field and add a Value() accessor"
  | .noGetters => "Omit getters for union members"
  | .noSetters => "Omit setters for union members"
  | .noMatch => "Omit the Match function"
  | .noDefault => "Don't assume the first field is the default; the zero value is invalid"

/-- The text that is shown to a user who asks for help. -/
def usage : String :=
  let settings := Setting.all.map fun setting =>
    s!"  --{setting.name} <VALUE>\n        {setting.summary}\n"
  let switches := Switch.all.map fun switch => s!"  --{switch.name}\n        {switch.summary}\n"
  "Generates tagged unions based on a struct definition\n\n" ++
    "Usage: gunion [OPTIONS] --type <VALUE>\n\nOptions:\n" ++
    String.join settings ++ String.join switches ++
    "  --help\n        Print help\n"

/-- The wording of what is wrong with the arguments. -/
def Refusal.message : Refusal → String
  | .help => usage
  | .unknownArgument argument => s!"error: unexpected argument '{argument}' found\n"
  | .missingValue setting | .emptyFile setting =>
    s!"error: a value is required for '--{setting.name} <VALUE>' but none was supplied\n"
  | .repeatedSetting setting =>
    s!"error: the argument '--{setting.name} <VALUE>' cannot be used multiple times\n"
  | .repeatedSwitch switch =>
    s!"error: the argument '--{switch.name}' cannot be used multiple times\n"
  | .unwantedValue (some switch) => s!"error: unexpected value for '--{switch.name}' found\n"
  | .unwantedValue none => "error: unexpected value for '--help' found\n"
  | .missingType => "error: the required argument '--type <VALUE>' was not provided\n"

/-- The exit status where reading ends without a result.  To ask for help is no fault. -/
def Refusal.status : Refusal → Nat
  | .help => 0
  | _ => 2

/-- The parser of the program. -/
def parse : Parser := fun texts =>
  (Arguments.ofTexts texts).mapError fun refusal => ⟨refusal.status, refusal.message⟩

end GoUnion.CommandLine
