/-!
# Integer constants

The values of numerals that denote an unsigned 64-bit integer: integer literals
in four bases, and decimal floating-point literals whose value is a whole
number.  A literal whose value does not fit has none.
-/

namespace GoUnion.Literal

/-- The value of a digit in a base up to thirty-six. -/
def digitValue? (base : Nat) (c : Char) : Option Nat :=
  let value :=
    if '0' ≤ c && c ≤ '9' then c.toNat - '0'.toNat
    else if 'a' ≤ c && c ≤ 'z' then c.toNat - 'a'.toNat + 10
    else if 'A' ≤ c && c ≤ 'Z' then c.toNat - 'A'.toNat + 10
    else base
  if value < base then some value else none

/-- The value of a list of digits, the most significant first. -/
def digitsValue? (base : Nat) (digits : List Char) : Option Nat :=
  digits.foldlM (fun value c => (digitValue? base c).map (value * base + ·)) 0

/-- The number written by at least one digit after an optional plus sign. -/
def unsigned? (base : Nat) (text : List Char) : Option Nat :=
  let digits := if text.head? = some '+' then text.tail else text
  if digits.isEmpty then none else digitsValue? base digits

/-- The number written by at least one decimal digit after an optional sign. -/
def signed? (text : List Char) : Option Int :=
  if text.head? = some '-' then
    if text.tail.isEmpty then none else (digitsValue? 10 text.tail).map (fun n => -(n : Int))
  else
    (unsigned? 10 text).map (↑·)

/-- A number as a 64-bit word, if it fits. -/
def word? (value : Nat) : Option UInt64 :=
  if value < UInt64.size then some (UInt64.ofNat value) else none

/-- The base that the opening of an integer literal names, and the digits after it.  A zero in
front of further digits is the older mark of base eight. -/
def baseOf : List Char → Nat × List Char
  | '0' :: 'x' :: digits | '0' :: 'X' :: digits => (16, digits)
  | '0' :: 'b' :: digits | '0' :: 'B' :: digits => (2, digits)
  | '0' :: 'o' :: digits | '0' :: 'O' :: digits => (8, digits)
  | '0' :: c :: digits => (8, c :: digits)
  | digits => (10, digits)

/-- A numeral without the underscores that group its digits. -/
def ungrouped (text : String) : List Char :=
  text.toList.filter (· ≠ '_')

/-- The value of an integer literal. -/
def integer? (text : String) : Option UInt64 :=
  let (base, digits) := baseOf (ungrouped text)
  (unsigned? base digits).bind word?

/-- Move the point of a reversed digit string to the left while its last digit is zero and the
exponent is negative. -/
def absorbZeros : List Char → Int → List Char × Int
  | '0' :: digits, exponent =>
    if exponent < 0 then absorbZeros digits (exponent + 1) else ('0' :: digits, exponent)
  | digits, exponent => (digits, exponent)

/-- An integer that fits a signed 32-bit word. -/
def narrow? (value : Int) : Option Int :=
  if -2147483648 ≤ value ∧ value < 2147483648 then some value else none

/-- A word times a power of ten, if the power and the product are words. -/
def scaled? (value exponent : Nat) : Option UInt64 :=
  if exponent < 20 then word? (value * Nat.pow 10 exponent) else none

/-- The mantissa and the exponent of a decimal floating-point literal. -/
def exponentForm? (text : List Char) : Option (List Char × Int) :=
  let isMark := fun c => c = 'e' || c = 'E'
  let mantissa := text.takeWhile (!isMark ·)
  match text.dropWhile (!isMark ·) with
  | [] => some (mantissa, 0)
  | _ :: exponent => ((signed? exponent).bind narrow?).map (mantissa, ·)

/-- The value of some digits with further zeros behind them. -/
def extended? (digits : List Char) (zeros : Nat) : Option UInt64 :=
  let digits := digits.dropWhile (· = '0')
  if digits.isEmpty then some 0
  else do
    let value ← (unsigned? 10 digits).bind word?
    scaled? value.toNat zeros

/-- The value of some digits scaled by a power of ten, if it is a whole number. -/
def scaledDigits? (digits : List Char) (exponent : Int) : Option UInt64 :=
  let (reversed, exponent) := absorbZeros digits.reverse exponent
  if exponent < 0 then none else extended? reversed.reverse exponent.toNat

/-- The value of a mantissa and an exponent, if it is a whole number. -/
def wholeNumber? (mantissa : List Char) (exponent : Int) : Option UInt64 := do
  let whole := mantissa.takeWhile (· ≠ '.')
  let fraction := (mantissa.dropWhile (· ≠ '.')).drop 1
  let places ← narrow? fraction.length
  let exponent ← narrow? (exponent - places)
  scaledDigits? (whole ++ fraction) exponent

/-- The value of a decimal floating-point literal that is a whole number. -/
def wholeFloat? (text : String) : Option UInt64 :=
  let text := ungrouped text
  let isFloat := text.any fun c => c = '.' || c = 'e' || c = 'E'
  let isHex := ['0', 'x'].isPrefixOf text || ['0', 'X'].isPrefixOf text
  if !isFloat || text.getLast? = some 'i' || isHex then none
  else do
    let (mantissa, exponent) ← exponentForm? text
    wholeNumber? mantissa exponent

/-- The value of a numeral that denotes a whole number. -/
def constant? (text : String) : Option UInt64 :=
  (integer? text).or (wholeFloat? text)

end GoUnion.Literal
