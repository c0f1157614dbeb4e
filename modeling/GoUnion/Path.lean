/-!
# Paths

Paths as texts: which parts a path has, what names it ends in, and how paths are
joined.  Nothing here looks at files, so `..` stays where it stands, and a part
that goes nowhere, which is an empty one or a single point, is dropped only
where a definition says so.
-/

namespace GoUnion.Path

/-- The texts between the separators of a path. -/
def pieces (path : String) : List String :=
  (path.toList.splitOn '/').map String.ofList

/-- Where a path starts. -/
inductive Anchor where
  /-- At the root directory. -/
  | root
  /-- At the working directory, said by a leading point. -/
  | here
  /-- At the working directory, left unsaid. -/
  | unsaid
  deriving DecidableEq, Repr

/-- The start of a path and the parts that follow it. -/
def split (path : String) : Anchor × List String :=
  match pieces path with
  | "" :: next :: parts => (.root, next :: parts)
  | "." :: parts => (.here, parts)
  | parts => (.unsaid, parts)

/-- The path with a given start and given parts. -/
def assemble : Anchor → List String → String
  | .root, parts => "/" ++ "/".intercalate parts
  | .here, parts => "/".intercalate ("." :: parts)
  | .unsaid, parts => "/".intercalate parts

/-- Whether a path starts at the root directory. -/
def isAbsolute (path : String) : Bool :=
  (split path).1 = .root

/-- Whether a part of a path goes nowhere. -/
def isIdle (part : String) : Bool :=
  part = "" || part = "."

/-- Parts without those at their end that go nowhere. -/
def settled (parts : List String) : List String :=
  (parts.reverse.dropWhile isIdle).reverse

/-- The parts of a path that lead somewhere; a start that is said comes first. -/
def components (path : String) : List String :=
  let (anchor, parts) := split path
  let names := parts.filter (!isIdle ·)
  match anchor with
  | .root => "/" :: names
  | .here => "." :: names
  | .unsaid => names

/-- The path of the directory that a path stands in, as far as its text tells. -/
def parent? (path : String) : Option String :=
  let (anchor, parts) := split path
  match (settled parts).reverse with
  | [] => if anchor = .here then some "" else none
  | _ :: front => some (assemble anchor (settled front.reverse))

/-- The name that a path ends in. -/
def fileName? (path : String) : Option String :=
  ((settled (split path).2).getLast?).filter (· ≠ "..")

/-- Whether a path ends in a separator. -/
def endsInSeparator (path : String) : Bool :=
  path.toList.getLast? = some '/'

/-- A path taken as seen from another one. -/
def join (base path : String) : String :=
  if isAbsolute path then path
  else if base = "" || endsInSeparator base then base ++ path
  else base ++ "/" ++ path

/-- A path that ends in another name; where it ends in none, the name is appended. -/
def withFileName (path name : String) : String :=
  join (if (fileName? path).isSome then (parent? path).getD "" else path) name

/-- What stands before and after the last point of a name.  A point that opens the name does not
count. -/
def stemAndExtension (name : String) : String × Option String :=
  match name.toList.reverse.span (· ≠ '.') with
  | (extension, _ :: c :: stem) =>
    if name = ".." then (name, none)
    else (String.ofList (c :: stem).reverse, some (String.ofList extension.reverse))
  | _ => (name, none)

/-- Where a path starts as seen from the root: two separators stay if they are exactly two. -/
def startOf (workingDirectory path : String) : String :=
  match path.toList with
  | '/' :: '/' :: '/' :: _ => "/"
  | '/' :: '/' :: _ => "//"
  | '/' :: _ => "/"
  | _ => workingDirectory

/-- A path as seen from the root, given the working directory.  Parts that go nowhere are dropped,
but a separator at the end stays. -/
def absolute (workingDirectory path : String) : String :=
  let names := (split path).2.filter (!isIdle ·)
  let whole := names.foldl join (startOf workingDirectory path)
  if endsInSeparator path then join whole "" else whole

/-- The directory of a file: the parent of its path, or the working directory if its path names
none. -/
def directoryOf (path : String) : String :=
  ((parent? path).filter (· ≠ "")).getD "."

end GoUnion.Path
