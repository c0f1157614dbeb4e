/-!
# Arguments of the command line

How one argument is read: as the name of an option, as a cluster of one-letter
names, as the mark that ends all options, or as a plain word.
-/

namespace GoUnion.CommandLine

/-- An option that takes a value. -/
inductive Setting where
  | type
  | outType
  | source
  | outFile
  | outPackage
  | outPackagePath
  deriving DecidableEq, Repr

/-- Whether the value of an option is the path of a file. -/
def Setting.isFile : Setting → Bool
  | .source | .outFile => true
  | _ => false

/-- The long name of an option that takes a value. -/
def Setting.name : Setting → String
  | .type => "type"
  | .outType => "out-type"
  | .source => "src"
  | .outFile => "out-file"
  | .outPackage => "out-pkg"
  | .outPackagePath => "out-pkg-path"

/-- All options that take a value. -/
def Setting.all : List Setting :=
  [.type, .outType, .source, .outFile, .outPackage, .outPackagePath]

/-- An option that takes no value. -/
inductive Switch where
  | publicValue
  | noGetters
  | noSetters
  | noMatch
  | noDefault
  deriving DecidableEq, Repr

/-- The long name of an option that takes no value. -/
def Switch.name : Switch → String
  | .publicValue => "public-value"
  | .noGetters => "no-getters"
  | .noSetters => "no-setters"
  | .noMatch => "no-match"
  | .noDefault => "no-default"

/-- All options that take no value. -/
def Switch.all : List Switch :=
  [.publicValue, .noGetters, .noSetters, .noMatch, .noDefault]

/-- What an option is. -/
inductive Role where
  | setting (setting : Setting)
  | switch (switch : Switch)
  | help
  deriving DecidableEq, Repr

/-- The options by their long names; matching has a second one. -/
def longNames : List (String × Role) :=
  Setting.all.map (fun setting => (setting.name, .setting setting)) ++
    Switch.all.map (fun switch => (switch.name, .switch switch)) ++
    [("no-switch", .switch .noMatch), ("help", .help)]

/-- The options by their one-letter names.  None of them is a switch, so that whatever follows the
first letter of a cluster is a value or is not looked at. -/
def shortNames : List (Char × Role) :=
  [('t', .setting .type), ('o', .setting .outFile), ('h', .help)]

/-- The form of an argument. -/
inductive Argument where
  /-- The mark after which no option follows. -/
  | terminator
  /-- An option and the value that is attached to it. -/
  | option (role : Option Role) (value : Option String)
  | plain (text : String)
  deriving DecidableEq, Repr

namespace Argument

/-- What stands before and after the first equals sign, if there is one. -/
def cutAtEquals : List Char → List Char × Option (List Char)
  | [] => ([], none)
  | c :: rest =>
    if c = '=' then ([], some rest)
    else
      let (name, value) := cutAtEquals rest
      (c :: name, value)

/-- The value that a cluster attaches to its first letter. -/
def clusterValue : List Char → Option String
  | [] => none
  | '=' :: value => some (String.ofList value)
  | value => some (String.ofList value)

/-- Read an argument. -/
def ofText (text : String) : Argument :=
  match text.toList with
  | ['-', '-'] => .terminator
  | '-' :: '-' :: rest =>
    let (name, value) := cutAtEquals rest
    .option (longNames.lookup (String.ofList name)) (value.map String.ofList)
  | '-' :: letter :: rest =>
    match shortNames.lookup letter with
    | some .help => .option (some .help) none
    | role => .option role (clusterValue rest)
  | _ => .plain text

end Argument

end GoUnion.CommandLine
