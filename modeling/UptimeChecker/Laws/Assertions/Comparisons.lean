import Mathlib.Data.List.TakeWhile
import UptimeChecker.Lib.FloatModel
import UptimeChecker.Laws.Assertions.Eval

/-!
# Comparing integers

A literal is read as a double before it is tried as an integer, and so is the value it is compared
with, on both paths. Every text of an integer is also one of a double, so no literal is ever
compared as an integer (`Value.ofString_ne_i64`): two integers are compared after each has been
rounded to the 53 bits of a double. They compare as themselves exactly when they are equal or
their roundings differ (`comparison_exact_iff`).
-/

namespace UptimeChecker.Assertions.Compiled

open Metered

/-! ## The text of an integer -/

/-- Digits are not the letters of a special value. -/
private theorem toLower_eq_of_isDigit {c : Char} (hc : c.isDigit) : c.toLower = c := by
  have hle : c.val ≤ '9'.val := by
    simp only [Char.isDigit, Bool.and_eq_true, decide_eq_true_eq] at hc
    exact hc.2
  unfold Char.toLower
  rw [dif_neg]
  intro h
  exact absurd (Nat.le_trans h.1 hle) (by decide)

private theorem map_toLower_ne {digits word : List Char} (hne : digits ≠ [])
    (hdigits : ∀ c ∈ digits, c.isDigit) (hword : word.any Char.isDigit = false) :
    digits.map Char.toLower ≠ word := by
  obtain ⟨c, hc⟩ := List.exists_mem_of_ne_nil digits hne
  intro h
  have hmem : c ∈ word := by
    rw [← h, ← toLower_eq_of_isDigit (hdigits c hc)]
    exact List.mem_map_of_mem hc
  exact List.any_eq_false.mp hword c hmem (hdigits c hc)

/-- Digits alone are a number without a fraction or an exponent. -/
private theorem parseNumber_digits {digits : List Char} (hne : digits ≠ [])
    (hdigits : ∀ c ∈ digits, c.isDigit) : parseNumber digits = some (digitsValue digits, 0) := by
  have htake : digits.takeWhile Char.isDigit = digits := List.takeWhile_eq_self_iff.mpr hdigits
  have hdrop : digits.dropWhile Char.isDigit = [] := List.dropWhile_eq_nil_iff.mpr hdigits
  unfold parseNumber
  simp [htake, hdrop, hne, parseExponent]

/-- A sign and digits are a double. -/
private theorem parseF64_digits {text : String} {negative : Bool} {digits : List Char}
    (hsign : takeSign text.toList = (negative, digits)) (hne : digits ≠ [])
    (hdigits : ∀ c ∈ digits, c.isDigit) :
    parseF64 text = .ok (if negative then -.ofModel (.ofScientific (digitsValue digits) 0)
      else .ofModel (.ofScientific (digitsValue digits) 0)) := by
  have hempty : ¬ text.isEmpty = true := by
    intro h
    rw [String.isEmpty_iff.mp h] at hsign
    cases hsign
    exact hne rfl
  have hnan := @map_toLower_ne _ ['n', 'a', 'n'] hne hdigits rfl
  have hinf := @map_toLower_ne _ ['i', 'n', 'f'] hne hdigits rfl
  have hinfinity := @map_toLower_ne _ ['i', 'n', 'f', 'i', 'n', 'i', 't', 'y'] hne hdigits rfl
  unfold parseF64
  rw [if_neg hempty, hsign]
  simp [hnan, hinf, hinfinity, parseNumber_digits hne hdigits]

private theorem digitsValue_toDigits (m : Nat) : digitsValue (Nat.toDigits 10 m) = m :=
  Nat.ofDigitChars_ten_toDigits

private theorem takeSign_digits {digits : List Char} (hdigits : ∀ c ∈ digits, c.isDigit) :
    takeSign digits = (false, digits) := by
  unfold takeSign
  split
  · exact absurd (hdigits '-' (by simp)) (by decide)
  · exact absurd (hdigits '+' (by simp)) (by decide)
  · rfl

/-- An integer is read as the double of its rounding. -/
theorem parseF64_toString {n : Int} (hn : n.natAbs < 2 ^ 64) :
    ∃ x, parseF64 (toString n) = .ok x ∧ FloatModel.DenotesInt x (HalfEven.roundInt 53 n) := by
  have hdigits : ∀ m, ∀ c ∈ Nat.toDigits 10 m, c.isDigit := by
    intro m c hc
    exact Nat.isDigit_of_mem_toDigits (by decide) (by decide) hc
  cases n with
  | ofNat m =>
    have hden := FloatModel.denotesInt_ofScientific hn
    have hsign : takeSign (toString (Int.ofNat m)).toList = (false, Nat.toDigits 10 m) := by
      rw [show toString (Int.ofNat m) = m.repr from rfl, Nat.toList_repr]
      exact takeSign_digits (hdigits m)
    refine ⟨_, parseF64_digits hsign Nat.toDigits_ne_nil (hdigits m), ?_⟩
    rw [digitsValue_toDigits, if_neg Bool.false_ne_true]
    rwa [← HalfEven.roundInt_natCast] at hden
  | negSucc m =>
    have hden := FloatModel.denotesInt_ofScientific hn
    have hsign : takeSign (toString (Int.negSucc m)).toList =
        (true, Nat.toDigits 10 (m + 1)) := by
      rw [show toString (Int.negSucc m) = "-" ++ (m + 1).repr from rfl, String.toList_append,
        Nat.toList_repr]
      rfl
    refine ⟨_, parseF64_digits hsign Nat.toDigits_ne_nil (hdigits (m + 1)), ?_⟩
    rw [digitsValue_toDigits, if_pos rfl]
    exact FloatModel.denotesInt_neg_round hn hden

/-- Only digits are read as an integer. -/
private theorem isDigit_of_parseI64Digits {negative : Bool} {acc n : Int} {digits : List Char}
    (h : parseI64Digits negative acc digits = .ok n) : ∀ c ∈ digits, c.isDigit := by
  induction digits generalizing acc with
  | nil => exact fun c hc => absurd hc List.not_mem_nil
  | cons c rest ih =>
    rw [parseI64Digits, decimalDigit?] at h
    by_cases hc : c.isDigit
    · simp only [hc, if_true] at h
      generalize (if negative then 10 * acc - ((c.toNat - '0'.toNat : Nat) : Int)
        else 10 * acc + ((c.toNat - '0'.toNat : Nat) : Int)) = next at h
      split at h
      · cases h
      · split at h
        · cases h
        · exact List.forall_mem_cons.mpr ⟨hc, ih h⟩
    · simp [hc] at h

/-- Only a lone sign leaves nothing. -/
private theorem takeSign_eq_nil {chars : List Char} {negative : Bool}
    (h : takeSign chars = (negative, [])) : chars = [] ∨ chars = ['+'] ∨ chars = ['-'] := by
  unfold takeSign at h
  split at h
  · cases h
    exact .inr (.inr rfl)
  · cases h
    exact .inr (.inl rfl)
  · cases h
    exact .inl rfl

/-- A text of an `i64` is a sign and digits. -/
private theorem takeSign_of_parseI64 {text : String} {n : Int64} (h : parseI64 text = .ok n) :
    ∃ negative digits, takeSign text.toList = (negative, digits) ∧ digits ≠ [] ∧
      ∀ c ∈ digits, c.isDigit := by
  unfold parseI64 at h
  split at h
  · cases h
  · cases h
  · cases h
  next chars hnil hplus hminus =>
    cases hsign : takeSign text.toList with
    | mk negative digits =>
      rw [hsign] at h
      refine ⟨negative, digits, rfl, ?_, ?_⟩
      · intro hempty
        obtain h | h | h := takeSign_eq_nil (hempty ▸ hsign)
        · exact hnil h
        · exact hplus h
        · exact hminus h
      · cases hvalue : parseI64Digits negative 0 digits with
        | ok value => exact isDigit_of_parseI64Digits hvalue
        | error e =>
          simp only [hvalue] at h
          cases h

/-- Every text of an integer is one of a double, so no literal is an integer. -/
theorem Value.ofString_ne_i64 (text : String) (n : Int64) : Value.ofString text ≠ .i64 n := by
  unfold Value.ofString
  cases hf : parseF64 text with
  | ok x => exact nofun
  | error e =>
    cases hi : parseI64 text with
    | ok i =>
      obtain ⟨negative, digits, hsign, hne, hdigits⟩ := takeSign_of_parseI64 hi
      rw [parseF64_digits hsign hne hdigits] at hf
      cases hf
    | error e' => exact nofun

/-! ## One comparison -/

/-- `Number::from(i64)`, which is what the text of the integer is read as. -/
def Json.ofI64 (v : Int64) : Json := .number (if v < 0 then .negInt v else .posInt v.toUInt64)

/-- What a comparison of two numbers decides. -/
def Comparison.decides {T : Type} [Cmp T] (op : Comparison) (a b : T) : Bool :=
  match op with
  | .always => true
  | .never => false
  | .lessThan => Cmp.lt a b
  | .greaterThan => Cmp.lt b a
  | .equal => Cmp.eq a b
  | .notEqual => !Cmp.eq a b

/-- With gas for a comparison the test answers `b`. -/
def Decides (m : Meter RuntimeError Bool) (b : Bool) : Prop :=
  ∀ gas, ∃ left, m (gas + 1) = .ok (b, left)

/-- A test has one answer. -/
private theorem Decides.unique {m : Meter RuntimeError Bool} {b b' : Bool} (h : Decides m b)
    (h' : Decides m b') : b = b' := by
  obtain ⟨left, h⟩ := h 0
  obtain ⟨left', h'⟩ := h' 0
  rw [h] at h'
  cases h'
  rfl

/-- A query result and a literal that are doubles are compared as doubles. -/
private theorem decides_json (lib : Externals) {json : Json} {text : String} {x y : Float}
    (hjson : json.asF64 = some x) (htext : parseF64 text = .ok y) (op : Comparison) :
    Decides ((JSONPathOperand.literal text : JSONPathOperand lib).eval op [json])
      (op.decides x y) := by
  have hcoerce : ∀ f g h, cmpCoerceJson lib json text f g h = f x y := by
    intro f g h
    unfold cmpCoerceJson
    rw [hjson, htext]
  have hone : Decides ((JSONPathOperand.literal text : JSONPathOperand lib).evalOne op json)
      (op.decides x y) := by
    intro gas
    cases op with
    | always => exact ⟨_, rfl⟩
    | never => exact ⟨_, rfl⟩
    | lessThan =>
      refine ⟨gas, ?_⟩
      show cmpLtJson lib json text (gas + 1) = _
      rw [cmpLtJson, hcoerce]
      rfl
    | greaterThan =>
      refine ⟨gas, ?_⟩
      show cmpGtJson lib json text (gas + 1) = _
      rw [cmpGtJson, hcoerce]
      rfl
    | equal =>
      refine ⟨gas, ?_⟩
      show cmpEqJson lib json text (gas + 1) = _
      rw [cmpEqJson, hcoerce]
      rfl
    | notEqual =>
      have heq : cmpEqJson lib json text (gas + 1) = .ok (Cmp.eq x y, gas) := by
        rw [cmpEqJson, hcoerce]
        rfl
      exact ⟨gas, bind_ok heq rfl⟩
  intro gas
  obtain ⟨left, hrun⟩ := hone gas
  refine ⟨left, bind_ok hrun ?_⟩
  cases op.decides x y <;> rfl

/-- So are a header value and a literal. -/
private theorem decides_header (lib : Externals) {value text : String} {x y : Float}
    (hvalue : parseF64 value = .ok x) (htext : parseF64 text = .ok y) (op : Comparison) :
    Decides ((HeaderOperand.literal (.ofString text) : HeaderOperand lib).eval op value)
      (op.decides x y) := by
  have hliteral : Value.ofString text = .f64 y := by
    unfold Value.ofString
    rw [htext]
  intro gas
  rw [hliteral]
  cases op with
  | always => exact ⟨_, rfl⟩
  | never => exact ⟨_, rfl⟩
  | lessThan =>
    unfold HeaderOperand.eval
    simp only [hvalue]
    exact ⟨_, rfl⟩
  | greaterThan =>
    unfold HeaderOperand.eval
    simp only [hvalue]
    exact ⟨_, rfl⟩
  | equal =>
    unfold HeaderOperand.eval cmpEqHeader
    simp only [hvalue]
    exact ⟨_, rfl⟩
  | notEqual =>
    unfold HeaderOperand.eval cmpEqHeader
    simp only [hvalue]
    exact ⟨_, rfl⟩

/-! ## Two integers -/

private theorem natAbs_toInt_lt (v : Int64) : v.toInt.natAbs < 2 ^ 64 := by
  have hlow := v.le_toInt
  have hup := v.toInt_lt
  omega

/-- A JSON integer is converted to the double of its rounding. -/
theorem asF64_ofI64 (v : Int64) :
    ∃ x, (Json.ofI64 v).asF64 = some x ∧
      FloatModel.DenotesInt x (HalfEven.roundInt 53 v.toInt) := by
  unfold Json.ofI64
  by_cases hv : v < 0
  · rw [if_pos hv]
    exact ⟨_, rfl, FloatModel.denotesInt_ofInt (natAbs_toInt_lt v)⟩
  · rw [if_neg hv]
    refine ⟨_, rfl, ?_⟩
    have hnat : (v.toUInt64.toNat : Int) = v.toInt := by
      have hle : 0 ≤ v.toInt := by
        rw [Int64.lt_iff_toInt_lt] at hv
        exact Int.not_lt.mp hv
      rw [Int64.toNat_toUInt64_of_le (Int64.le_iff_toInt_le.mpr hle)]
      exact Int.toNat_of_nonneg hle
    have hden := FloatModel.denotesInt_toFloat v.toUInt64
    rwa [← HalfEven.roundInt_natCast, hnat] at hden

/-- The doubles of two integers compare as the integers do, unless they meet. -/
private theorem decides_doubles_iff {v n : Int64} {x y : Float}
    (hx : FloatModel.DenotesInt x (HalfEven.roundInt 53 v.toInt))
    (hy : FloatModel.DenotesInt y (HalfEven.roundInt 53 n.toInt)) :
    (∀ op : Comparison, op.decides x y = op.decides v n) ↔
      v = n ∨ HalfEven.roundInt 53 v.toInt ≠ HalfEven.roundInt 53 n.toInt := by
  have hlt : Cmp.lt x y =
      decide (HalfEven.roundInt 53 v.toInt < HalfEven.roundInt 53 n.toInt) :=
    FloatModel.lt_eq hx hy
  have hgt : Cmp.lt y x =
      decide (HalfEven.roundInt 53 n.toInt < HalfEven.roundInt 53 v.toInt) :=
    FloatModel.lt_eq hy hx
  have heq : Cmp.eq x y =
      decide (HalfEven.roundInt 53 v.toInt = HalfEven.roundInt 53 n.toInt) :=
    FloatModel.beq_eq hx hy
  constructor
  · intro h
    have hequal : Cmp.eq x y = (v == n) := h .equal
    rw [heq, Bool.eq_iff_iff, decide_eq_true_iff, beq_iff_eq] at hequal
    by_cases hvn : v = n
    · exact .inl hvn
    · exact .inr fun hround => hvn (hequal.mp hround)
  · intro h
    have hmono := @HalfEven.roundInt_mono 53 (by decide) v.toInt n.toInt
    have hmono' := @HalfEven.roundInt_mono 53 (by decide) n.toInt v.toInt
    rw [← Int64.toInt_inj] at h
    -- rounding keeps the order, so two roundings that differ are ordered as the integers are
    have hltInt : Cmp.lt x y = Cmp.lt v n := by
      rw [hlt, show Cmp.lt v n = decide (v < n) from rfl, decide_eq_decide,
        Int64.lt_iff_toInt_lt]
      omega
    have hgtInt : Cmp.lt y x = Cmp.lt n v := by
      rw [hgt, show Cmp.lt n v = decide (n < v) from rfl, decide_eq_decide,
        Int64.lt_iff_toInt_lt]
      omega
    have heqInt : Cmp.eq x y = Cmp.eq v n := by
      rw [heq, show Cmp.eq v n = (v == n) from rfl, Bool.eq_iff_iff, decide_eq_true_iff,
        beq_iff_eq, ← Int64.toInt_inj]
      constructor
      · intro hround
        exact h.resolve_right fun hne => hne hround
      · intro hvn
        rw [hvn]
    intro op
    cases op with
    | always => rfl
    | never => rfl
    | lessThan => exact hltInt
    | greaterThan => exact hgtInt
    | equal => exact heqInt
    | notEqual => exact congrArg Bool.not heqInt

/-- The same of any two tests that compare doubles. -/
private theorem exact_iff {m : Comparison → Meter RuntimeError Bool} {v n : Int64} {x y : Float}
    (hx : FloatModel.DenotesInt x (HalfEven.roundInt 53 v.toInt))
    (hy : FloatModel.DenotesInt y (HalfEven.roundInt 53 n.toInt))
    (hm : ∀ op, Decides (m op) (op.decides x y)) :
    (∀ op, Decides (m op) (op.decides v n)) ↔
      v = n ∨ HalfEven.roundInt 53 v.toInt ≠ HalfEven.roundInt 53 n.toInt := by
  rw [← decides_doubles_iff hx hy]
  constructor
  · intro h op
    exact (hm op).unique (h op)
  · intro h op
    rw [← h op]
    exact hm op

/-- On either path two integers are compared exactly when they are equal or are not rounded to the
same double. -/
theorem comparison_exact_iff (lib : Externals) (v n : Int64) :
    ((∀ op : Comparison,
        Decides ((JSONPathOperand.literal (toString n) : JSONPathOperand lib).eval op
          [Json.ofI64 v]) (op.decides v n)) ↔
      v = n ∨ HalfEven.roundInt 53 v.toInt ≠ HalfEven.roundInt 53 n.toInt) ∧
    ((∀ op : Comparison,
        Decides ((HeaderOperand.literal (.ofString (toString n)) : HeaderOperand lib).eval op
          (toString v)) (op.decides v n)) ↔
      v = n ∨ HalfEven.roundInt 53 v.toInt ≠ HalfEven.roundInt 53 n.toInt) := by
  obtain ⟨x, hvalue, hx⟩ := parseF64_toString (natAbs_toInt_lt v)
  obtain ⟨x', hjson, hx'⟩ := asF64_ofI64 v
  obtain ⟨y, htext, hy⟩ := parseF64_toString (natAbs_toInt_lt n)
  constructor
  · exact exact_iff hx' hy (decides_json lib hjson htext)
  · exact exact_iff hx hy (decides_header lib hvalue htext)

/-- On both paths the number after `2 ^ 53` equals it. -/
theorem comparison_rounds :
    (9007199254740993 : Int64) ≠ 9007199254740992 ∧
    Decides ((JSONPathOperand.literal "9007199254740992" :
      JSONPathOperand plainExternals).eval .equal [Json.ofI64 9007199254740993]) true ∧
    Decides ((HeaderOperand.literal (.ofString "9007199254740992") :
      HeaderOperand plainExternals).eval .equal "9007199254740993") true := by
  obtain ⟨x, hvalue, hx⟩ := parseF64_toString (natAbs_toInt_lt 9007199254740993)
  obtain ⟨x', hjson, hx'⟩ := asF64_ofI64 9007199254740993
  obtain ⟨y, htext, hy⟩ := parseF64_toString (natAbs_toInt_lt 9007199254740992)
  have hround : HalfEven.roundInt 53 (Int64.toInt 9007199254740993) =
      HalfEven.roundInt 53 (Int64.toInt 9007199254740992) := by decide
  have heq : Comparison.decides .equal x y = true :=
    (FloatModel.beq_eq hx hy).trans (decide_eq_true hround)
  have heq' : Comparison.decides .equal x' y = true :=
    (FloatModel.beq_eq hx' hy).trans (decide_eq_true hround)
  have hvalueText : toString (Int64.toInt 9007199254740993) = "9007199254740993" := rfl
  have hliteralText : toString (Int64.toInt 9007199254740992) = "9007199254740992" := rfl
  rw [hvalueText] at hvalue
  rw [hliteralText] at htext
  refine ⟨by decide, ?_, ?_⟩
  · rw [← heq']
    exact decides_json plainExternals hjson htext .equal
  · rw [← heq]
    exact decides_header plainExternals hvalue htext .equal

end UptimeChecker.Assertions.Compiled
