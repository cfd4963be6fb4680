import Mathlib.Data.List.Basic

/-!
# Base64

The standard alphabet with padding: three bytes make four characters, and a last group of one or two
bytes is filled up with `=`. Different byte strings have different texts (`encode_injective`).
-/

namespace Base64

/-- The character of a sextet. -/
def letter (n : Nat) : Char :=
  if n < 26 then Char.ofNat (65 + n)
  else if n < 52 then Char.ofNat (97 + (n - 26))
  else if n < 62 then Char.ofNat (48 + (n - 52))
  else if n = 62 then '+'
  else '/'

/-- The characters of a byte string. -/
def encodeChars : List UInt8 → List Char
  | [] => []
  | [a] => [letter (a.toNat / 4), letter (a.toNat % 4 * 16), '=', '=']
  | [a, b] =>
    [letter (a.toNat / 4), letter (a.toNat % 4 * 16 + b.toNat / 16), letter (b.toNat % 16 * 4), '=']
  | a :: b :: c :: rest =>
    letter (a.toNat / 4) :: letter (a.toNat % 4 * 16 + b.toNat / 16) ::
      letter (b.toNat % 16 * 4 + c.toNat / 64) :: letter (c.toNat % 64) :: encodeChars rest

/-- The text of a byte string. -/
def encode (bytes : List UInt8) : String := String.ofList (encodeChars bytes)

/-- The sextet of a character. -/
def value (c : Char) : Nat :=
  if c.isUpper then c.toNat - 65
  else if c.isLower then c.toNat - 97 + 26
  else if c.isDigit then c.toNat - 48 + 52
  else if c = '+' then 62
  else 63

/-- The bytes of a text. -/
def decodeChars : List Char → List UInt8
  | w :: x :: y :: z :: rest =>
    let a := UInt8.ofNat (value w * 4 + value x / 16)
    let b := UInt8.ofNat (value x % 16 * 16 + value y / 4)
    let c := UInt8.ofNat (value y % 4 * 64 + value z)
    if y = '=' then [a] else if z = '=' then [a, b] else a :: b :: c :: decodeChars rest
  | _ => []

private theorem value_letter : ∀ n < 64, value (letter n) = n := by
  decide +kernel

private theorem letter_ne_pad : ∀ n < 64, letter n ≠ '=' := by
  decide +kernel

private theorem byte_eq {n : Nat} {a : UInt8} (h : n = a.toNat) : UInt8.ofNat n = a := by
  rw [h, UInt8.ofNat_toNat]

/-- Decoding undoes encoding. -/
theorem decodeChars_encodeChars (bytes : List UInt8) : decodeChars (encodeChars bytes) = bytes := by
  induction bytes using encodeChars.induct with
  | case1 => rfl
  | case2 a =>
    have ha := a.toNat_lt
    rw [encodeChars, decodeChars, if_pos rfl, value_letter _ (by omega), value_letter _ (by omega),
      byte_eq (a := a) (by omega)]
  | case3 a b =>
    have ha := a.toNat_lt
    have hb := b.toNat_lt
    rw [encodeChars, decodeChars, if_neg (letter_ne_pad _ (by omega)), if_pos rfl,
      value_letter _ (by omega), value_letter _ (by omega), value_letter _ (by omega),
      byte_eq (a := a) (by omega), byte_eq (a := b) (by omega)]
  | case4 a b c rest ih =>
    have ha := a.toNat_lt
    have hb := b.toNat_lt
    have hc := c.toNat_lt
    rw [encodeChars, decodeChars, if_neg (letter_ne_pad _ (by omega)),
      if_neg (letter_ne_pad _ (by omega)), value_letter _ (by omega), value_letter _ (by omega),
      value_letter _ (by omega), value_letter _ (by omega), byte_eq (a := a) (by omega),
      byte_eq (a := b) (by omega), byte_eq (a := c) (by omega), ih]

/-- Different byte strings have different texts. -/
theorem encode_injective {xs ys : List UInt8} (h : encode xs = encode ys) : xs = ys := by
  have hchars : encodeChars xs = encodeChars ys := by
    rw [← String.toList_ofList (l := encodeChars xs), ← String.toList_ofList (l := encodeChars ys)]
    exact congrArg String.toList h
  rw [← decodeChars_encodeChars xs, hchars, decodeChars_encodeChars]

example : encode [77, 97, 110] = "TWFu" := by decide

example : encode [77, 97] = "TWE=" := by decide

end Base64
