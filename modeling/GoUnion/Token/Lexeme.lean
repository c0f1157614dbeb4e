import GoUnion.Token
import GoUnion.Token.Numeral
import GoUnion.Text.Letter

/-!
# Lexemes

What stands at the head of a text that is not empty: a gap, a comment or a
token, and how many characters it has beyond its first.  The longest match
wins, and a reserved word is not an identifier.  Where nothing matches, the
count covers the longest piece that could still have become a token.
-/

namespace GoUnion

/-- What stands at the head of a text. -/
inductive Lexeme where
  | gap
  | newline
  | lineComment
  | blockComment
  | token (kind : TokenKind)
  | openComment
  | unknown
  deriving DecidableEq, Repr

namespace Lexeme

/-- A character that separates tokens within a line. -/
def isGap (c : Char) : Bool :=
  c = ' ' || c = '\t' || c = '\x0c' || c = '\r'

/-- A character that may start an identifier. -/
def startsName (c : Char) : Bool :=
  c = '_' || Text.isLetter c

/-- A character that may continue an identifier. -/
def continuesName (c : Char) : Bool :=
  startsName c || Text.isDecimalDigit c

/-- The rest of an interpreted literal: whether its closing quote was found, and the number of
characters up to and including that quote, or up to where the literal breaks off.  A backslash
counts only together with the character after it. -/
def quotedTail (quote : Char) : List Char → Bool × Nat
  | [] => (false, 0)
  | ['\\'] => (false, 0)
  | '\\' :: c :: rest =>
    if c = '\n' then (false, 0)
    else
      let (closed, count) := quotedTail quote rest
      (closed, count + 2)
  | c :: rest =>
    if c = quote then (true, 1)
    else if c = '\n' then (false, 0)
    else
      let (closed, count) := quotedTail quote rest
      (closed, count + 1)

/-- The rest of a raw literal, in the same form. -/
def rawTail : List Char → Bool × Nat
  | [] => (false, 0)
  | c :: rest =>
    if c = '\x60' then (true, 1)
    else
      let (closed, count) := rawTail rest
      (closed, count + 1)

/-- The rest of a block comment after its opening, in the same form. -/
def commentTail : List Char → Bool × Nat
  | [] => (false, 0)
  | '*' :: '/' :: _ => (true, 2)
  | _ :: rest =>
    let (closed, count) := commentTail rest
    (closed, count + 1)

/-- The literal of a kind if it was closed, and nothing known otherwise. -/
def literal (kind : TokenKind) : Bool × Nat → Lexeme × Nat
  | (true, count) => (.token kind, count)
  | (false, count) => (.unknown, count)

/-- The spellings of the compound assignments. -/
def assignments : List String :=
  ["+=", "-=", "*=", "/=", "%=", "&=", "|=", "^=", "<<=", ">>=", "&^="]

/-- All delimiters and operators with their kinds. -/
def fixed : List (List Char × TokenKind) :=
  Symbol.all.map (fun mark => (mark.spelling.toList, .symbol mark)) ++
    assignments.map (fun text => (text.toList, .assignment))

/-- The longest entry of a table that opens a text. -/
def longest (table : List (List Char × TokenKind)) (text : List Char) :
    Option (List Char × TokenKind) :=
  table.foldl
    (fun best entry =>
      if entry.1.isPrefixOf text && (best.map (·.1.length)).getD 0 < entry.1.length then some entry
      else best)
    none

/-- The delimiter or operator at the head of a text. -/
def fixedAtHead (c : Char) (rest : List Char) : Lexeme × Nat :=
  match longest fixed (c :: rest) with
  | some (text, kind) => (.token kind, text.length - 1)
  | none => (.unknown, 0)

/-- The identifier or reserved word that starts with a character. -/
def nameAtHead (c : Char) (rest : List Char) : Lexeme × Nat :=
  let tail := rest.takeWhile continuesName
  match Keyword.ofString? (String.ofList (c :: tail)) with
  | some word => (.token (.keyword word), tail.length)
  | none => (.token .identifier, tail.length)

/-- What follows a slash: a comment, or an operator. -/
def slashAtHead (rest : List Char) : Lexeme × Nat :=
  match rest with
  | '/' :: line => (.lineComment, 1 + (line.takeWhile (· ≠ '\n')).length)
  | '*' :: body =>
    match commentTail body with
    | (true, count) => (.blockComment, 1 + count)
    | (false, count) => (.openComment, 1 + count)
  | _ => fixedAtHead '/' rest

/-- The rune literal after an opening quote; it holds at least one character. -/
def runeAtHead (rest : List Char) : Lexeme × Nat :=
  match rest with
  | '\'' :: _ => (.unknown, 0)
  | _ => literal .rune (quotedTail '\'' rest)

/-- What follows a point: a numeral if a digit does, else an operator. -/
def pointAtHead (rest : List Char) : Lexeme × Nat :=
  match rest with
  | c :: tail =>
    if Numeral.isDigit c then (.token .number, 1 + Numeral.fractionTail tail)
    else fixedAtHead '.' rest
  | [] => fixedAtHead '.' rest

/-- What starts with a character, and how many of the characters after it belong to it. -/
def atHead (c : Char) (rest : List Char) : Lexeme × Nat :=
  if c = '\n' then (.newline, 0)
  else if isGap c then (.gap, (rest.takeWhile isGap).length)
  else if c = '/' then slashAtHead rest
  else if startsName c then nameAtHead c rest
  else if Numeral.isDigit c then (.token .number, Numeral.tail c rest)
  else if c = '.' then pointAtHead rest
  else if c = '"' then literal .string (quotedTail '"' rest)
  else if c = '\x60' then literal .rawString (rawTail rest)
  else if c = '\'' then runeAtHead rest
  else fixedAtHead c rest

end Lexeme

end GoUnion
