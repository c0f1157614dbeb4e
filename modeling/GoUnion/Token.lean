import GoUnion.Text.Span

/-!
# Tokens

The kinds of token of a source text.  Keywords and symbols have one spelling
each and describe themselves by it; the eleven compound assignments form one
kind.  A token carries its text and its span; the semicolon that stands for the
end of a line and the token for the end of the file have an empty text.
-/

namespace GoUnion

open Text (Span)

/-- The reserved words. -/
inductive Keyword where
  | break | case | chan | const | continue | default | defer | else | fallthrough | for
  | func | go | goto | if | import | interface | map | package | range | return
  | select | struct | switch | type | var
  deriving DecidableEq, Repr

namespace Keyword

/-- Every reserved word. -/
def all : List Keyword :=
  [.break, .case, .chan, .const, .continue, .default, .defer, .else, .fallthrough, .for,
   .func, .go, .goto, .if, .import, .interface, .map, .package, .range, .return,
   .select, .struct, .switch, .type, .var]

/-- The text of a reserved word. -/
def spelling : Keyword → String
  | .break => "break"
  | .case => "case"
  | .chan => "chan"
  | .const => "const"
  | .continue => "continue"
  | .default => "default"
  | .defer => "defer"
  | .else => "else"
  | .fallthrough => "fallthrough"
  | .for => "for"
  | .func => "func"
  | .go => "go"
  | .goto => "goto"
  | .if => "if"
  | .import => "import"
  | .interface => "interface"
  | .map => "map"
  | .package => "package"
  | .range => "range"
  | .return => "return"
  | .select => "select"
  | .struct => "struct"
  | .switch => "switch"
  | .type => "type"
  | .var => "var"

/-- The reserved word of a text, if it is one. -/
def ofString? (text : String) : Option Keyword :=
  all.find? (·.spelling == text)

/-- Reading a spelling gives the word back. -/
@[simp]
theorem ofString?_spelling (word : Keyword) : ofString? word.spelling = some word := by
  cases word <;> decide

end Keyword

/-- The delimiters and operators with a kind of their own. -/
inductive Symbol where
  | leftParen | rightParen | leftBracket | rightBracket | leftBrace | rightBrace
  | comma | semicolon | dot | ellipsis | colon
  | plus | minus | star | slash | percent | ampersand | pipe | caret
  | shiftLeft | shiftRight | andNot | andAnd | orOr | arrow | increment | decrement
  | equal | less | greater | assign | not | tilde | notEqual | lessEqual | greaterEqual
  | define
  deriving DecidableEq, Repr

namespace Symbol

/-- Every delimiter and operator. -/
def all : List Symbol :=
  [.leftParen, .rightParen, .leftBracket, .rightBracket, .leftBrace, .rightBrace,
   .comma, .semicolon, .dot, .ellipsis, .colon,
   .plus, .minus, .star, .slash, .percent, .ampersand, .pipe, .caret,
   .shiftLeft, .shiftRight, .andNot, .andAnd, .orOr, .arrow, .increment, .decrement,
   .equal, .less, .greater, .assign, .not, .tilde, .notEqual, .lessEqual, .greaterEqual,
   .define]

/-- The text of a delimiter or operator. -/
def spelling : Symbol → String
  | .leftParen => "("
  | .rightParen => ")"
  | .leftBracket => "["
  | .rightBracket => "]"
  | .leftBrace => "\x7b"
  | .rightBrace => "\x7d"
  | .comma => ","
  | .semicolon => ";"
  | .dot => "."
  | .ellipsis => "..."
  | .colon => ":"
  | .plus => "+"
  | .minus => "-"
  | .star => "*"
  | .slash => "/"
  | .percent => "%"
  | .ampersand => "&"
  | .pipe => "|"
  | .caret => "^"
  | .shiftLeft => "<<"
  | .shiftRight => ">>"
  | .andNot => "&^"
  | .andAnd => "&&"
  | .orOr => "||"
  | .arrow => "<-"
  | .increment => "++"
  | .decrement => "--"
  | .equal => "=="
  | .less => "<"
  | .greater => ">"
  | .assign => "="
  | .not => "!"
  | .tilde => "~"
  | .notEqual => "!="
  | .lessEqual => "<="
  | .greaterEqual => ">="
  | .define => ":="

/-- Whether the symbol opens a bracketed group. -/
def opens : Symbol → Bool
  | .leftParen | .leftBracket | .leftBrace => true
  | _ => false

/-- Whether the symbol closes a bracketed group. -/
def closes : Symbol → Bool
  | .rightParen | .rightBracket | .rightBrace => true
  | _ => false

end Symbol

/-- The kinds of token. -/
inductive TokenKind where
  | identifier
  | number
  | string
  | rawString
  | rune
  | keyword (word : Keyword)
  | symbol (mark : Symbol)
  | assignment
  | endOfFile
  deriving DecidableEq, Repr

namespace TokenKind

/-- Whether a newline right after a token of this kind ends the statement. -/
def endsStatement : TokenKind → Bool
  | .identifier | .number | .string | .rawString | .rune => true
  | .keyword word =>
    match word with
    | .break | .continue | .fallthrough | .return => true
    | _ => false
  | .symbol mark =>
    match mark with
    | .increment | .decrement | .rightParen | .rightBracket | .rightBrace => true
    | _ => false
  | .assignment | .endOfFile => false

/-- The name of a kind in messages. -/
def describe : TokenKind → String
  | .identifier => "identifier"
  | .number => "number"
  | .string | .rawString => "string literal"
  | .rune => "rune literal"
  | .keyword word => "`" ++ word.spelling ++ "`"
  | .symbol mark => "`" ++ mark.spelling ++ "`"
  | .assignment => "assignment operator"
  | .endOfFile => "end of file"

end TokenKind

/-- A token with its text and its place in the source. -/
structure Token where
  kind : TokenKind
  text : String
  span : Span
  deriving DecidableEq, Repr

namespace Token

/-- The semicolon that stands for the end of a line. -/
def lineEnd (offset : Nat) : Token :=
  ⟨.symbol .semicolon, "", .point offset⟩

/-- The last token of a text of the given length. -/
def endOfFile (offset : Nat) : Token :=
  ⟨.endOfFile, "", .point offset⟩

/-- What a message says was found where this token stands. -/
def found (token : Token) : String :=
  if token.kind = .symbol .semicolon ∧ token.text = "" then "newline"
  else token.kind.describe

end Token

end GoUnion
