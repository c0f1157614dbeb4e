import GoUnion.Token
import GoUnion.Text.Alphabetic
import GoUnion.Text.Uppercase

/-!
# Names

The rules for names that do not come from the scanner: what makes a text a
usable identifier, which names a package exports, and which name a package is
taken to have when only its import path is known.
-/

namespace GoUnion.Name

/-- Whether a text is a reserved word. -/
def isKeyword (name : String) : Bool :=
  (Keyword.ofString? name).isSome

/-- Whether a name is visible outside its package: it starts with an upper-case letter. -/
def isExported (name : String) : Bool :=
  (name.toList.head?).any Text.isUppercase

/-- Whether a character may start a name. -/
def startsName (c : Char) : Bool :=
  c = '_' || Text.isAlphabetic c

/-- Whether a character may continue a name. -/
def continuesName (c : Char) : Bool :=
  c = '_' || Text.isAlphanumeric c

/-- Whether a text is a name and no reserved word. -/
def isIdentifier (name : String) : Bool :=
  match name.toList with
  | [] => false
  | first :: rest => startsName first && rest.all continuesName && !isKeyword name

/-- A name with its first character in upper case. -/
def capitalize (name : String) : String :=
  match name.toList with
  | [] => ""
  | first :: rest => String.ofList (Text.uppercaseForm first ++ rest)

/-- Whether a path element marks a major version from the second on. -/
def isMajorVersion : List Char → Bool
  | 'v' :: digits =>
    !digits.isEmpty && digits ≠ ['1'] && digits.all fun c => '0' ≤ c && c ≤ '9'
  | _ => false

/-- The element of an import path that names the package: the last one, or the one before a major
version. -/
def namingElement (path : List Char) : List Char :=
  match (path.splitOn '/').reverse with
  | last :: previous :: _ => if isMajorVersion last then previous else last
  | [last] => last
  | [] => path

/-- A path element without a leading `go-` and without its first point and what follows. -/
def stem (element : List Char) : List Char :=
  let bare := (['g', 'o', '-'].isPrefixOf? element).getD element
  bare.takeWhile (· ≠ '.')

/-- A text as a name: other characters become underscores, and one is put in front of a digit and
after a reserved word. -/
def ofStem (text : List Char) : String :=
  let letters := text.map fun c => if continuesName c then c else '_'
  let opened :=
    match letters with
    | [] => ['_']
    | c :: _ => if Text.isNumeric c then '_' :: letters else letters
  let name := String.ofList opened
  if isKeyword name then name ++ "_" else name

/-- The name that the package at an import path is taken to declare. -/
def ofImportPath (path : String) : String :=
  ofStem (stem (namingElement path.toList))

end GoUnion.Name
