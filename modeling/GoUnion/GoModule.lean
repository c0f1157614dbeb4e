import GoUnion.Literal.Quoted
import GoUnion.Path
import GoUnion.Text.Blank

/-!
# Modules

A module is a directory with a module file, which names the module in a
directive.  The import path of a package is the path of its module, followed by
the way from the directory of the module to that of the package.
-/

namespace GoUnion.GoModule

/-- The name of the module file. -/
def fileName : String := "go.mod"

/-- The path that a line of a module file gives to the module, if it is a module directive. -/
def directive? (line : List Char) : Option String :=
  let code := ((Text.cutAt ['/', '/'] line).map (·.1)).getD line
  match "module".toList.isPrefixOf? (Text.trim code) with
  | none => none
  | some [] => none
  | some (c :: rest) =>
    if Text.isBlank c then
      let argument := Text.trim rest
      let unquoted? := (Literal.between? '"' argument).or (Literal.between? '\x60' argument)
      let path := unquoted?.getD argument
      if path.isEmpty then none else some (String.ofList path)
    else none

/-- The path of a module, from the first module directive of its module file. -/
def path? (contents : String) : Option String :=
  (contents.toList.splitOn '\n').findSome? directive?

/-- The import path of the package in a directory, given the directory and the path of its
module. -/
def importPath (root modulePath directory : String) : String :=
  let inside := ((Path.components root).isPrefixOf? (Path.components directory)).getD []
  String.join (modulePath :: inside.map ("/" ++ ·))

end GoUnion.GoModule
