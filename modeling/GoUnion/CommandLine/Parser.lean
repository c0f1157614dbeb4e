import GoUnion.CommandLine
import GoUnion.CommandLine.Argument

/-!
# Parsing

Reading the arguments of a command line from left to right.  The value of an
option may be the argument after it; such an option is checked only once the next
option or the end is reached, so an argument that is unknown comes before what is
wrong with the option that waits.
-/

namespace GoUnion.CommandLine

/-- Why reading the arguments ends without a result. -/
inductive Refusal where
  | help
  | unknownArgument (argument : String)
  | missingValue (setting : Setting)
  | emptyFile (setting : Setting)
  | repeatedSetting (setting : Setting)
  | repeatedSwitch (switch : Switch)
  | unwantedValue (switch : Option Switch)
  | missingType
  deriving DecidableEq, Repr

/-- The settings and switches of a command line. -/
structure Options where
  settings : List (Setting × String)
  switches : List Switch
  deriving DecidableEq, Repr

namespace Options

/-- No settings and no switches. -/
def empty : Options := ⟨[], []⟩

/-- The value of a setting. -/
def setting? (options : Options) (setting : Setting) : Option String :=
  options.settings.lookup setting

/-- Add a setting that was not given before. -/
def set (options : Options) (setting : Setting) (value : String) : Except Refusal Options :=
  if (options.setting? setting).isSome then .error (.repeatedSetting setting)
  else if setting.isFile && value = "" then .error (.emptyFile setting)
  else .ok { options with settings := (setting, value) :: options.settings }

/-- Turn on a switch that was not turned on before. -/
def turnOn (options : Options) (switch : Switch) : Except Refusal Options :=
  if options.switches.contains switch then .error (.repeatedSwitch switch)
  else .ok { options with switches := switch :: options.switches }

end Options

/-- A setting that was met last, and its value if that was met too. -/
structure Waiting where
  setting : Setting
  value : Option String
  deriving DecidableEq, Repr

namespace Options

/-- Add the setting that waits. -/
def settle (options : Options) : Option Waiting → Except Refusal Options
  | none => .ok options
  | some ⟨setting, none⟩ => .error (.missingValue setting)
  | some ⟨setting, some value⟩ => options.set setting value

/-- Add what an option says, given the setting that waits. -/
def addOption (options : Options) (waiting : Option Waiting) :
    Role → Option String → Except Refusal (Options × Option Waiting)
  | .setting setting, some value => do
    return (← (← options.settle waiting).set setting value, none)
  | .setting setting, none => do
    return (← options.settle waiting, some ⟨setting, none⟩)
  | .switch switch, some _ => .error (.unwantedValue (some switch))
  | .switch switch, none => do
    return (← (← options.settle waiting).turnOn switch, none)
  | .help, some _ => .error (.unwantedValue none)
  | .help, none => do
    let _ ← options.settle waiting
    throw .help

/-- Read arguments, given what was read before them and the setting that waits. -/
def read (options : Options) (waiting : Option Waiting) :
    List String → Except Refusal Options
  | [] => options.settle waiting
  | text :: rest =>
    match Argument.ofText text with
    | .terminator =>
      match rest with
      | [] => options.settle waiting
      | next :: _ => .error (.unknownArgument next)
    | .option none _ => .error (.unknownArgument text)
    | .option (some role) value =>
      match options.addOption waiting role value with
      | .error refusal => .error refusal
      | .ok (options, waiting) => read options waiting rest
    | .plain value =>
      match waiting with
      | some ⟨setting, none⟩ => read options (some ⟨setting, some value⟩) rest
      | _ => .error (.unknownArgument text)

/-- What the settings and switches say; the type is never left out. -/
def arguments (options : Options) : Except Refusal Arguments := do
  let some type := options.setting? .type | throw .missingType
  return {
    type
    outType := options.setting? .outType
    source := options.setting? .source
    outFile := options.setting? .outFile
    outPackage := options.setting? .outPackage
    outPackagePath := options.setting? .outPackagePath
    publicValue := options.switches.contains .publicValue
    noGetters := options.switches.contains .noGetters
    noSetters := options.switches.contains .noSetters
    noMatch := options.switches.contains .noMatch
    noDefault := options.switches.contains .noDefault }

end Options

/-- Read the arguments of a command line. -/
def Arguments.ofTexts (texts : List String) : Except Refusal Arguments := do
  (← Options.empty.read none texts).arguments

end GoUnion.CommandLine
