import GoUnion.LoadError
import GoUnion.Name
import GoUnion.SourceFile.Reader

/-!
# Packages

The files of one package and what their declarations bind.  Types and
constants have the scope of the whole package; the local names of imports have
that of their file.  A package declares no type name twice; of several
constants, or several imports, with one name the last one counts.
-/

namespace GoUnion

open Text (Location Span)

/-- A source file with its path and its text. -/
structure PackageFile where
  path : String
  text : List Char
  syntaxTree : SourceFile

/-- A package with its import path. -/
structure Package where
  name : String
  path : String
  files : List PackageFile

/-- A type declaration and the file it stands in. -/
structure Declared where
  file : PackageFile
  declaration : TypeDeclaration

namespace PackageFile

/-- Parse the text of a file. -/
def ofText (path : String) (text : List Char) : Except LoadError PackageFile :=
  match SourceFile.ofSource text with
  | .ok file => .ok ⟨path, text, file⟩
  | .error error => .error (.malformed (.ofSpan path text error.span) error.fault)

/-- The location of a span of the file. -/
def locate (file : PackageFile) (span : Span) : Location :=
  .ofSpan file.path file.text span

/-- The local name and the path that an import binds; blank and dot imports bind none. -/
def binding? (spec : ImportSpec) : Option (String × String) :=
  match spec.identifier with
  | none => some (Name.ofImportPath spec.path, spec.path)
  | some identifier =>
    if identifier.name = "_" ∨ identifier.name = "." then none
    else some (identifier.name, spec.path)

/-- The import path that a name is bound to in the file. -/
def importPath? (file : PackageFile) (name : String) : Option String :=
  (file.syntaxTree.imports.filterMap binding?).reverse.lookup name

/-- Whether the file imports all names of some package. -/
def hasDotImport (file : PackageFile) : Bool :=
  file.syntaxTree.imports.any fun spec => (spec.identifier.map (·.name)) = some "."

/-- The type declarations of the file that have a name. -/
def declared (file : PackageFile) : List Declared :=
  (file.syntaxTree.types.filter (·.identifier.name ≠ "_")).map fun declaration =>
    ⟨file, declaration⟩

/-- The constants of the file that have a name. -/
def constants (file : PackageFile) : List ConstantDeclaration :=
  file.syntaxTree.constants.filter (·.identifier.name ≠ "_")

end PackageFile

namespace Declared

/-- The name of a declared type. -/
def name (declared : Declared) : String :=
  declared.declaration.identifier.name

/-- The first declaration whose name occurs before it, given the names before the list. -/
def firstRepeated? (seen : List String) : List Declared → Option Declared
  | [] => none
  | declared :: rest =>
    if seen.contains declared.name then some declared
    else firstRepeated? (declared.name :: seen) rest

end Declared

namespace Package

/-- The types that the package declares, in the order of its files. -/
def declared (package : Package) : List Declared :=
  package.files.flatMap (·.declared)

/-- The declaration of a type. -/
def type? (package : Package) (name : String) : Option Declared :=
  package.declared.find? (·.name = name)

/-- The value of a constant; a later declaration replaces an earlier one. -/
def constant? (package : Package) (name : String) : Option ConstantValue :=
  ((package.files.flatMap (·.constants)).reverse.find? (·.identifier.name = name)).map (·.value)

/-- The number of declared types. -/
def typeCount (package : Package) : Nat :=
  package.declared.length

/-- Check that all files name the same package, and name it. -/
def commonName (directory : String) (first : PackageFile) (files : List PackageFile) :
    Except LoadError String :=
  let name := first.syntaxTree.package.name
  match files.find? (·.syntaxTree.package.name ≠ name) with
  | none => .ok name
  | some other =>
    .error (.packageMismatch directory name first.path other.syntaxTree.package.name other.path)

/-- The package of some files, given its directory and import path. -/
def ofFiles (directory path : String) (files : List PackageFile) : Except LoadError Package := do
  match files with
  | [] => throw (.emptyPackage directory)
  | first :: _ =>
    let name ← commonName directory first files
    let package : Package := ⟨name, path, files⟩
    match Declared.firstRepeated? [] package.declared with
    | none => return package
    | some repeated =>
      throw (.redeclared repeated.name
        (repeated.file.locate repeated.declaration.identifier.span))

/-- The package of some paths and texts, given its directory and import path. -/
def ofTexts (directory path : String) (texts : List (String × List Char)) :
    Except LoadError Package := do
  ofFiles directory path (← texts.mapM fun (path, text) => PackageFile.ofText path text)

end Package

end GoUnion
