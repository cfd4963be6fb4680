import Mathlib.Algebra.Group.Int.Defs

/-!
# Numbers written as text

`str::parse` of Rust's standard library, at the two types the assertions use. `parseF64` reads the
grammar of `f64::from_str` (a sign; `inf`, `infinity` and `nan` in any case; digits with an optional
point and exponent) and rounds to the nearest double, ties to even. `parseI64` reads a sign and
decimal digits, and reports the first thing that goes wrong, a digit that is none before the
overflow it would have taken part in.

An error is its `Display` text, which is all that the callers keep of it.
-/

namespace UptimeChecker

/-- The decimal value of a digit. -/
def decimalDigit? (c : Char) : Option Nat :=
  if c.isDigit then some (c.toNat - '0'.toNat) else none

/-- A leading sign: whether it is a minus, and what follows. -/
def takeSign : List Char → Bool × List Char
  | '-' :: rest => (true, rest)
  | '+' :: rest => (false, rest)
  | text => (false, text)

/-- The decimal value of a string of digits. -/
def digitsValue (digits : List Char) : Nat :=
  digits.foldl (fun acc c => 10 * acc + (c.toNat - '0'.toNat)) 0

/-- The exponent of a number, if what is left of the text is one. No exponent is zero. -/
def parseExponent : List Char → Option Int
  | [] => some 0
  | c :: rest =>
    if c = 'e' ∨ c = 'E' then
      let (negative, digits) := takeSign rest
      if digits ≠ [] ∧ digits.all Char.isDigit then
        some (if negative then -(digitsValue digits : Int) else digitsValue digits)
      else none
    else none

/-- An unsigned decimal number: a mantissa and a power of ten. -/
def parseNumber (text : List Char) : Option (Nat × Int) :=
  let whole := text.takeWhile Char.isDigit
  let afterWhole := text.dropWhile Char.isDigit
  let (fraction, rest) := match afterWhole with
    | '.' :: tail => (tail.takeWhile Char.isDigit, tail.dropWhile Char.isDigit)
    | other => ([], other)
  if whole = [] ∧ fraction = [] then none
  else (parseExponent rest).map fun exponent =>
    (digitsValue (whole ++ fraction), exponent - fraction.length)

/-- `str::parse::<f64>`. -/
def parseF64 (text : String) : Except String Float :=
  if text.isEmpty then .error "cannot parse float from empty string"
  else
    let (negative, unsigned) := takeSign text.toList
    let magnitude :=
      if unsigned.map Char.toLower = ['n', 'a', 'n'] then
        some (Float.ofBits 0x7ff8000000000000)
      else if unsigned.map Char.toLower = ['i', 'n', 'f'] ∨
          unsigned.map Char.toLower = ['i', 'n', 'f', 'i', 'n', 'i', 't', 'y'] then
        some (Float.ofBits 0x7ff0000000000000)
      else (parseNumber unsigned).map fun (mantissa, exponent) =>
        Float.ofModel (Float.Model.ofScientific mantissa exponent)
    match magnitude with
    | none => .error "invalid float literal"
    | some x => .ok (if negative then -x else x)

/-- The digits of an `i64` after its sign: each is checked before the step it takes part in. -/
def parseI64Digits (negative : Bool) (acc : Int) : List Char → Except String Int
  | [] => .ok acc
  | c :: rest =>
    match decimalDigit? c with
    | none => .error "invalid digit found in string"
    | some d =>
      let next := if negative then 10 * acc - d else 10 * acc + d
      if next < -2 ^ 63 then .error "number too small to fit in target type"
      else if 2 ^ 63 ≤ next then .error "number too large to fit in target type"
      else parseI64Digits negative next rest

/-- `str::parse::<i64>`. -/
def parseI64 (text : String) : Except String Int64 :=
  match text.toList with
  | [] => .error "cannot parse integer from empty string"
  | ['+'] => .error "invalid digit found in string"
  | ['-'] => .error "invalid digit found in string"
  | chars =>
    let (negative, digits) := takeSign chars
    (parseI64Digits negative 0 digits).map Int64.ofInt

end UptimeChecker
