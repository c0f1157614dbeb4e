import GoUnion.Name
import GoUnion.Path
import GoUnion.Request

/-!
# Command lines

The request and the configuration that the arguments of a command line stand
for.  What they leave out is taken from the environment or derived from what they
give; an empty value counts as left out.

How the texts of a command line are read is left to a parser, which may also end
the run, as it does when help is asked for.
-/

namespace GoUnion.CommandLine

/-- The arguments of a command line. -/
structure Arguments where
  /-- The struct to generate the union from. -/
  type : String
  outType : Option String
  source : Option String
  outFile : Option String
  outPackage : Option String
  outPackagePath : Option String
  publicValue : Bool
  noGetters : Bool
  noSetters : Bool
  noMatch : Bool
  noDefault : Bool
  deriving DecidableEq, Repr

/-- The end of a run at its arguments: the exit status, and what the user is told. -/
structure Stop where
  status : Nat
  message : String
  deriving DecidableEq, Repr

/-- What reads the texts of a command line. -/
abbrev Parser : Type := List String → Except Stop Arguments

/-- What a command line lacks. -/
inductive Lack where
  | type
  | source
  | package
  deriving DecidableEq, Repr

/-- The wording of a lack. -/
def Lack.message : Lack → String
  | .type => "received empty input type"
  | .source => "one of --src or GOFILE must be set"
  | .package => "one of --out-pkg or GOPACKAGE must be set"

/-- The file that the union of a struct is written to: the file that declares the struct, with a
suffix before its extension. -/
def defaultOutFile (source : String) : String :=
  let (stem, extension) :=
    match Path.fileName? source with
    | some name => Path.stemAndExtension name
    | none => (source, none)
  let ending := (extension.map ("." ++ ·)).getD ""
  Path.withFileName source (stem ++ "_gunion" ++ ending)

/-- The name that the union of a struct has. -/
def defaultOutType (type : String) : String := Name.capitalize type ++ "Union"

/-- A value that is given and not empty. -/
def given? (value : Option String) : Option String := value.filter (· ≠ "")

namespace Arguments

/-- The features that the arguments leave. -/
def features (arguments : Arguments) : Features where
  publicValue := arguments.publicValue
  getters := !arguments.noGetters
  setters := !arguments.noSetters
  matching := !arguments.noMatch
  defaulting := !arguments.noDefault

/-- The request and the configuration that arguments stand for, given the environment, the path of
the working directory, and the command that is recorded in the header. -/
def resolve (arguments : Arguments) (environment : String → Option String)
    (workingDirectory : String) (command : Option String) :
    Except Lack (Request × OutputConfig) := do
  let inherited? := Build.Context.setting? environment
  let some type := given? (some arguments.type) | throw .type
  let some source := (given? arguments.source).or (inherited? "GOFILE") | throw .source
  let some package := (given? arguments.outPackage).or (inherited? "GOPACKAGE") | throw .package
  return (⟨Path.absolute workingDirectory source, type⟩,
    { typeName := (given? arguments.outType).getD (defaultOutType type)
      file := (given? arguments.outFile).getD (defaultOutFile source)
      package
      packagePath := given? arguments.outPackagePath
      command
      features := arguments.features })

end Arguments

end GoUnion.CommandLine
