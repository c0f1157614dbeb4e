import GoUnion.Literal.Integer

/-!
# String literals

The text that a raw or an interpreted string literal stands for.  An
interpreted literal is decoded into bytes, since an escape may name a single
byte of a longer character, and has a value only if the bytes are UTF-8.
-/

namespace GoUnion.Literal

/-- The character of an escape that is one letter or sign. -/
def simpleEscape? : Char → Option Char
  | 'a' => some '\x07'
  | 'b' => some '\x08'
  | 'f' => some '\x0c'
  | 'n' => some '\n'
  | 'r' => some '\r'
  | 't' => some '\t'
  | 'v' => some '\x0b'
  | '\\' => some '\\'
  | '"' => some '"'
  | _ => none

/-- The byte written by some digits. -/
def byte? (base : Nat) (digits : List Char) : Option UInt8 :=
  match unsigned? base digits with
  | some value => if value < UInt8.size then some (UInt8.ofNat value) else none
  | none => none

/-- The character whose code point is written by some hexadecimal digits. -/
def scalar? (digits : List Char) : Option Char :=
  match unsigned? 16 digits with
  | some value => if value.isValidChar then some (Char.ofNat value) else none
  | none => none

/-- The bytes that an escape sequence after its backslash stands for, and the text after it. -/
def escape? : List Char → Option (List UInt8 × List Char)
  | [] => none
  | c :: rest =>
    match simpleEscape? c with
    | some plain => some (String.utf8EncodeChar plain, rest)
    | none =>
      if c = 'x' then
        (byte? 16 (rest.take 2)).map fun byte => ([byte], rest.drop 2)
      else if '0' ≤ c ∧ c ≤ '7' then
        (byte? 8 (c :: rest.take 2)).map fun byte => ([byte], rest.drop 2)
      else if c = 'u' then
        (scalar? (rest.take 4)).map fun c => (String.utf8EncodeChar c, rest.drop 4)
      else if c = 'U' then
        (scalar? (rest.take 8)).map fun c => (String.utf8EncodeChar c, rest.drop 8)
      else none

/-- What follows an escape sequence is shorter than what follows its backslash. -/
theorem length_lt_of_escape? {text rest : List Char} {bytes : List UInt8}
    (decoded : escape? text = some (bytes, rest)) : rest.length < text.length := by
  cases text with
  | nil => simp [escape?] at decoded
  | cons c tail =>
    simp only [escape?] at decoded
    split at decoded
    · simp only [Option.some.injEq, Prod.mk.injEq] at decoded
      simp [← decoded.2]
    · repeat' split at decoded
      all_goals
        simp only [Option.map_eq_some_iff, Prod.mk.injEq, reduceCtorEq] at decoded
        try
          obtain ⟨_, _, _, rfl⟩ := decoded
          simp only [List.length_drop, List.length_cons]
          omega

/-- The bytes of the body of an interpreted literal. -/
def bodyBytes? : List Char → Option (List UInt8)
  | [] => some []
  | '\\' :: rest =>
    match _decoded : escape? rest with
    | none => none
    | some (bytes, rest') => (bodyBytes? rest').map (bytes ++ ·)
  | c :: rest => (bodyBytes? rest).map (String.utf8EncodeChar c ++ ·)
  termination_by text => text.length
  decreasing_by
    · have := length_lt_of_escape? _decoded
      simp only [List.length_cons]
      omega
    · simp

/-- The text between a quote at the start and the same quote at the end. -/
def between? (quote : Char) : List Char → Option (List Char)
  | [] => none
  | first :: rest =>
    if first = quote && rest.getLast? = some quote then some rest.dropLast else none

/-- The text that a string literal stands for.  Carriage returns vanish from a raw literal. -/
def unquote? (text : String) : Option String :=
  match between? '\x60' text.toList with
  | some raw => some (String.ofList (raw.filter (· ≠ '\r')))
  | none => do
    let body ← between? '"' text.toList
    let bytes ← bodyBytes? body
    String.fromUTF8? ⟨bytes.toArray⟩

end GoUnion.Literal
