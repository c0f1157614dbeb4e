/-!
# The extent of a numeral

A numeral is recognised by its shape alone; whether it denotes a number that
fits is a matter of its value.  Each function here gives the number of
characters at the head of a text that have a certain shape, and zero when the
text does not open with it.  Since the parts of a shape start with different
characters, taking as much as possible of each part in turn gives the longest
match of the whole.
-/

namespace GoUnion.Numeral

/-- The length of the run of characters of a class at the head of a text. -/
def run (inClass : Char → Bool) (text : List Char) : Nat :=
  (text.takeWhile inClass).length

/-- Measure one shape, then another on what is left. -/
def andThen (first second : List Char → Nat) (text : List Char) : Nat :=
  let taken := first text
  taken + second (text.drop taken)

/-- The length of one optional character. -/
def optional (inClass : Char → Bool) : List Char → Nat
  | [] => 0
  | c :: _ => if inClass c then 1 else 0

/-- A digit below the base, or the underscore that groups digits. -/
def isGroupedDigit (base : Nat) (c : Char) : Bool :=
  c = '_' ||
    ('0' ≤ c && c ≤ '9' && c.toNat - '0'.toNat < base) ||
    (10 < base && (('a' ≤ c && c ≤ 'f') || ('A' ≤ c && c ≤ 'F')))

/-- A decimal digit, without the underscore. -/
def isDigit (c : Char) : Bool := '0' ≤ c && c ≤ '9'

/-- A point and the digits after it, which may be missing. -/
def fraction (base : Nat) : List Char → Nat
  | '.' :: rest => 1 + run (isGroupedDigit base) rest
  | _ => 0

/-- An exponent mark, an optional sign, and at least one digit. -/
def exponent (isMark : Char → Bool) : List Char → Nat
  | [] => 0
  | c :: rest =>
    let sign := optional (fun c => c = '+' || c = '-') rest
    let digits := run (isGroupedDigit 10) (rest.drop sign)
    if isMark c && digits ≠ 0 then 1 + sign + digits else 0

/-- The mark of an imaginary numeral. -/
def imaginary : List Char → Nat :=
  optional (· = 'i')

/-- An exponent of a decimal numeral. -/
def decimalExponent : List Char → Nat :=
  exponent fun c => c = 'e' || c = 'E'

/-- An exponent of a hexadecimal numeral. -/
def binaryExponent : List Char → Nat :=
  exponent fun c => c = 'p' || c = 'P'

/-- Digits, an optional fraction, an optional exponent and an optional imaginary mark,
after a first digit that is not counted. -/
def decimalTail : List Char → Nat :=
  andThen (run (isGroupedDigit 10))
    (andThen (fraction 10) (andThen decimalExponent imaginary))

/-- What follows a point and a first digit. -/
def fractionTail : List Char → Nat :=
  andThen (run (isGroupedDigit 10)) (andThen decimalExponent imaginary)

/-- What follows the mark of a hexadecimal numeral; all of it may be missing. -/
def hexadecimalTail : List Char → Nat :=
  andThen (run (isGroupedDigit 16))
    (andThen (fraction 16) (andThen binaryExponent imaginary))

/-- What follows the mark of a binary or octal numeral, which needs at least one digit. -/
def radixTail (base : Nat) (text : List Char) : Nat :=
  if run (isGroupedDigit base) text = 0 then 0
  else andThen (run (isGroupedDigit base)) imaginary text

/-- The number of characters after the first one of a numeral that opens with a digit. -/
def tail (first : Char) (rest : List Char) : Nat :=
  match first, rest with
  | '0', mark :: digits =>
    if mark = 'x' || mark = 'X' then 1 + hexadecimalTail digits
    else if (mark = 'b' || mark = 'B') && radixTail 2 digits ≠ 0 then 1 + radixTail 2 digits
    else if (mark = 'o' || mark = 'O') && radixTail 8 digits ≠ 0 then 1 + radixTail 8 digits
    else decimalTail rest
  | _, _ => decimalTail rest

end GoUnion.Numeral
