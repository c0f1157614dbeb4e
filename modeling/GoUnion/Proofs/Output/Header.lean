import GoUnion.Proofs.Output.Declarations

/-!
# The header of a generated file

In front of its declarations, a generated file has a comment, the package clause
and the imports.  The command in the comment stands on one line whatever it is,
and an import names its path as a literal that stands for it.
-/

namespace GoUnion

open Lexeme (IsName)
open Reader (Declaration Grouped ReadsDeclarations ReadsImport ReadsImports
  identifierOf)
open Token
open Text (byteLength)

/-! ## The package clause -/

namespace UnionSource

/-- A command stands on one line. -/
theorem oneLine_of_command (command : String) :
    '\n' ∉ (oneLine command).toList := by
  rw [oneLine, String.toList_ofList]
  intro isIn
  rcases List.mem_map.mp isIn with ⟨c, -, isLine⟩
  split at isLine
  case isTrue => cases isLine
  case isFalse other => exact other (by simp [isLine])

/-- The marker is a comment. -/
theorem marker_eq (source : UnionSource) :
    ∃ comment, '\n' ∉ comment ∧
      source.marker.toList = '/' :: '/' :: comment := by
  rw [marker]
  split
  case h_1 command _ =>
    refine ⟨(" Code generated by gunion via \x60" ++ oneLine command ++
      "\x60. DO NOT EDIT.").toList, ?_, by simp⟩
    simp [oneLine_of_command]
  case h_2 =>
    exact ⟨" Code generated by gunion. DO NOT EDIT.".toList, by decide,
      by simp⟩

namespace Legible

variable {source : UnionSource} (legible : source.Legible)

include legible

/-- The package clause is scanned behind the marker. -/
theorem scans_clause (offset : Nat) (rest : List Char) :
    ∃ word name stop,
      Scans rest offset false
          (linesText
            [source.marker, "", s!"package {source.config.package}"]).toList
          [word, name, lineEnd stop] false ∧
        word.kind = .keyword .package ∧ name.kind = .identifier ∧
          name.text = source.config.package := by
  rcases source.marker_eq with ⟨comment, oneLine, isComment⟩
  have isName := legible.packageName
  have same :
      (linesText
          [source.marker, "", s!"package {source.config.package}"]).toList =
        Part.render [.comment comment oneLine, .newline, .newline,
          .word .package, .space, .name _ isName, .newline] := by
    simp [isComment, Keyword.spelling]
  rcases Part.scans_lines same rfl rfl offset false rest with
    ⟨tokens, scans, leave⟩
  rcases leave with _ | ⟨⟨rfl⟩, _ | ⟨⟨_, rfl⟩, _ | ⟨⟨_, rfl⟩,
    _ | ⟨⟨word, rfl⟩, _ | ⟨⟨rfl⟩, _ | ⟨⟨start, rfl⟩,
      _ | ⟨⟨stop, rfl⟩, ⟨⟩⟩⟩⟩⟩⟩⟩⟩
  exact ⟨wordToken Keyword.package.spelling word,
    wordToken source.config.package start, stop, scans,
    wordToken_keyword .package word, wordToken_kind isName start, rfl⟩

end Legible

end UnionSource

/-! ## The imports -/

/-- Tokens that import a path. -/
def Imports (path : String) (tokens : List Token) : Prop :=
  ∃ spec : ImportSpec, spec.path = path ∧
    ∀ last, ReadsImport last tokens spec

namespace ImportPlan

theorem literalToken_quoted (path : String) (offset : Nat) :
    (literalToken .string (Text.quoted path).toList offset).text =
      Text.quoted path :=
  String.ofList_toList

/-- A path as a literal is tagged with itself, if it is what the literal stands for. -/
theorem tagged_quoted
    {path : String}
    (value : Literal.unquote? (Text.quoted path) = some path)
    (offset : Nat) :
    Reader.Tagged
      [literalToken .string (Text.quoted path).toList offset]
      (some path) := by
  refine .present (.inl rfl) ?_
  rw [literalToken_quoted]
  exact value

/-- A path of printable characters of the first 128 as a literal stands for itself. -/
theorem tagged_path
    {path : String}
    (isPlain : ∀ c ∈ path.toList, Literal.isPlainText c = true)
    (offset : Nat) :
    Reader.Tagged
      [literalToken .string (Text.quoted path).toList offset]
      (some path) :=
  tagged_quoted (Literal.unquote?_quotedText isPlain) offset

theorem forms_spec
    {path name : String} (isName : IsName name)
    (isPlain : ∀ c ∈ path.toList, Literal.isPlainText c = true) :
    Forms (spec path name).toList (Imports path) := by
  rw [spec]
  split
  · have same :
        (Text.quoted path).toList = Part.render [.quoted path] := by
      simp
    have solid : Solid (Part.render [.quoted path]) := by
      rw [← same, Text.quoted, String.toList_ofList]
      exact ⟨_, _, rfl, by decide, by decide⟩
    rw [same]
    apply (Part.forms_render solid rfl rfl rfl).imp
    rintro tokens ⟨pending, leave⟩
    rcases leave with _ | ⟨⟨start, rfl⟩, ⟨⟩⟩
    exact ⟨_, rfl, fun last => .plain (tagged_path isPlain start)⟩
  · have same :
        (name ++ " " ++ Text.quoted path).toList =
          Part.render [.name name isName, .space, .quoted path] := by
      simp
    rw [same]
    apply (Part.forms_render ((solid_name isName).append _) rfl rfl
      rfl).imp
    rintro tokens ⟨pending, leave⟩
    rcases leave with _ | ⟨⟨start, rfl⟩, _ | ⟨⟨rfl⟩,
      _ | ⟨⟨middle, rfl⟩, ⟨⟩⟩⟩⟩
    exact ⟨_, rfl, fun last => .named (.inl (wordToken_kind isName start))
      (tagged_path isPlain middle)⟩

end ImportPlan

/-- A single import is told apart from a group. -/
theorem Reader.ReadsImport.noParens
    {last : Bool} {tokens : List Token} {spec : ImportSpec}
    (reads : ReadsImport last tokens spec) :
    kind tokens ≠ .symbol .leftParen := by
  cases reads with
  | plain isPath =>
      cases isPath with
      | present isLiteral _ =>
          rcases isLiteral with isString | isRaw
          · simp [isString]
          · simp [isRaw]
  | named isName _ =>
      rcases isName with isName | isDot
      · simp [isName]
      · simp [isDot]

/-- Lines that import some paths, in front of any declarations. -/
def ImportsAll (lines : List String) (paths : List String) : Prop :=
  ∀ text offset rest, ∃ tokens imports,
    Scans rest offset false (linesText lines).toList tokens false ∧
      imports.map (·.path) = paths ∧
        ∀ next declarations, ReadsDeclarations text next declarations →
          ReadsImports text (tokens ++ next) imports declarations

namespace ImportsAll

theorem nil : ImportsAll [] [] := by
  intro text offset rest
  exact ⟨[], [], .stop, rfl, fun _ _ reads => .none reads⟩

/-- Lines that are scanned to one import declaration. -/
theorem one
    {lines paths : List String}
    (reads : ∀ offset rest, ∃ word tokens stop imports,
      Scans rest offset false (linesText lines).toList
          (word :: (tokens ++ [lineEnd stop])) false ∧
        word.kind = .keyword .import ∧
          Grouped ReadsImport false tokens imports ∧
            imports.map (·.path) = paths) :
    ImportsAll lines paths := by
  intro text offset rest
  rcases reads offset rest with
    ⟨word, tokens, stop, imports, scans, isImport, grouped, arePaths⟩
  refine ⟨_, imports, scans, arePaths, ?_⟩
  intro next declarations later
  have noSemicolons : Reader.Semicolons [] := by simp [Reader.Semicolons]
  have isEnd : (lineEnd stop).kind = .symbol .semicolon := rfl
  have grouped' :
      Grouped ReadsImport (Reader.atEnd [lineEnd stop]) tokens imports :=
    grouped
  have more := ReadsImports.more noSemicolons isImport grouped'
    (.semicolon isEnd) (.none later)
  simpa using more

/-- A single import stands on the line of its keyword. -/
theorem single
    {path text : String} (forms : Forms text.toList (Imports path)) :
    ImportsAll ["", "import " ++ text] [path] := by
  refine .one ?_
  intro offset rest
  have same :
      (linesText ["", "import " ++ text]).toList =
        Part.render [.newline, .word .import, .space] ++
          (text.toList ++ Part.render [.newline]) := by
    simp [Keyword.spelling]
  rcases Part.scans_around forms same rfl rfl rfl rfl rfl rfl offset false
    rest with
    ⟨opening, tokens, closing, scans, leave, ⟨spec, isPath, reads⟩,
      leaveBack⟩
  rcases leave with _ | ⟨⟨_, rfl⟩, _ | ⟨⟨word, rfl⟩, _ | ⟨⟨rfl⟩, ⟨⟩⟩⟩⟩
  rcases leaveBack with _ | ⟨⟨stop, rfl⟩, ⟨⟩⟩
  exact ⟨wordToken Keyword.import.spelling word, tokens, stop, [spec], scans,
    wordToken_keyword .import word,
    .single (reads false).noParens (reads false), by simp [isPath]⟩

/-- Several imports stand in a group. -/
theorem group
    {entries : List (String × String)} (text : String × String → String)
    (forms : ∀ entry ∈ entries,
      Forms (text entry).toList (Imports entry.1)) :
    ImportsAll (["", "import ("] ++
        (entries.map (fun entry => "\t" ++ text entry) ++ [")"]))
      (entries.map (·.1)) := by
  refine .one ?_
  intro offset rest
  have same :
      (linesText ["", "import ("]).toList =
        Part.render [.newline, .word .import, .space, .leftParen,
          .newline] := by
    simp [Keyword.spelling, Symbol.spelling]
  rw [toList_linesText_append]
  rcases Part.scans_lines same rfl rfl offset false
    ((linesText (entries.map (fun entry => "\t" ++ text entry) ++
      [")"])).toList ++ rest) with ⟨tokens, scans, leave⟩
  rcases leave with _ | ⟨⟨_, rfl⟩, _ | ⟨⟨word, rfl⟩, _ | ⟨⟨rfl⟩,
    _ | ⟨⟨start, rfl⟩, _ | ⟨⟨_, rfl⟩, ⟨⟩⟩⟩⟩⟩⟩
  rcases Groups.map closing_rightParen text forms
    (offset + byteLength (linesText ["", "import ("]).toList) rest with
    ⟨inner, pieces, stop, scans', enclosed, found⟩
  rcases exists_parts found with ⟨parts, rfl, each⟩
  refine ⟨wordToken Keyword.import.spelling word,
    markToken .leftParen start :: inner, stop, parts.map (·.2),
    scans.append scans', wordToken_keyword .import word,
    .several rfl enclosed ?_, ?_⟩
  · exact forall_mem_of_forall₂ each fun _ _ holds => holds.2 false
  · rw [List.map_map]
    exact (map_eq_of_forall₂ each fun _ _ holds => holds.1.symm).symm

end ImportsAll

/-- The imports of a source are those of its plan. -/
theorem UnionSource.Legible.importsAll
    {source : UnionSource} (legible : source.Legible) :
    ImportsAll
      (if source.imports.isEmpty then [] else "" :: source.imports.lines)
      (source.imports.names.map (·.1)) := by
  have specs : ∀ entry ∈ source.imports.names,
      Forms (ImportPlan.spec entry.1 entry.2).toList (Imports entry.1) := by
    intro entry isIn
    rcases legible.imports entry isIn with ⟨isName, isPlain⟩
    exact ImportPlan.forms_spec isName isPlain
  rw [ImportPlan.isEmpty, ImportPlan.lines]
  generalize source.imports.names = names at specs ⊢
  rcases names with _ | ⟨first, _ | ⟨second, others⟩⟩
  · exact .nil
  · exact .single (specs first List.mem_cons_self)
  · have several := ImportsAll.group
      (fun entry => ImportPlan.spec entry.1 entry.2) specs
    simpa [Function.comp_def] using several

end GoUnion
