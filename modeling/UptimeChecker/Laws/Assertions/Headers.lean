import UptimeChecker.Laws.Assertions.Gas

/-!
# A header check and the order of the headers

The check scans the headers up to the first that passes both tests, or that a test raises an error
on: a number cannot be read from just any text. So the order decides between a header that passes
and one that raises (`header_order_matters`), and between nothing else (`headerCheck_order`).
-/

namespace UptimeChecker.Assertions.Compiled

open Metered

variable {lib : Externals}

/-! ## One test -/

/-- A test answers a value, given gas for it. -/
def Gives (m : Meter RuntimeError Bool) (b : Bool) : Prop := ∃ gas left, m gas = .ok (b, left)

/-- A test raises an error that is not the lack of gas. -/
def Raises (m : Meter RuntimeError Bool) : Prop :=
  ∃ gas e, m gas = .error e ∧ ¬ e.IsTookTooLong

/-- With gas for a glob match a test gives a value or raises an error. -/
private theorem IsTest.run {m : Meter RuntimeError Bool} (h : IsTest m) {gas : Nat}
    (hgas : globGas ≤ gas) :
    (∃ b left, m gas = .ok (b, left) ∧ gas - globGas ≤ left ∧ ¬ Raises m ∧
      ∀ b', Gives m b' → b' = b) ∨
    ∃ e, m gas = .error e ∧ ¬ e.IsTookTooLong ∧ ∀ b, ¬ Gives m b := by
  obtain ⟨cost, r, hle, hcost, hr⟩ := h
  have hrun := hcost gas
  rw [if_neg (Nat.not_lt.mpr (Nat.le_trans hle hgas))] at hrun
  cases r with
  | ok b =>
    refine .inl ⟨b, gas - cost, hrun, Nat.sub_le_sub_left hle gas, ?_, ?_⟩
    · intro ⟨gas', e, he, hnot⟩
      rw [hcost gas'] at he
      split at he
      · cases he
        exact hnot ⟨[], rfl⟩
      · cases he
    · intro b' ⟨gas', left, hb⟩
      obtain ⟨-, -, h⟩ := hcost.of_ok hb
      cases h
      rfl
  | error e =>
    refine .inr ⟨e, hrun, hr e rfl, ?_⟩
    intro b ⟨gas', left, hb⟩
    obtain ⟨-, -, h⟩ := hcost.of_ok hb
    cases h

/-! ## The scan -/

/-- A header passes both tests: the one of its name, and the one of its value, which is text. -/
def PassesBoth (keyOp : Comparison) (keyOperand : HeaderOperand lib) (valueOp : Comparison)
    (valueOperand : HeaderOperand lib) (header : String × HeaderValue) : Prop :=
  Gives (keyOperand.eval keyOp header.1) true ∧
    ∃ text, header.2.toStr = some text ∧ Gives (valueOperand.eval valueOp text) true

/-- A test of a header raises an error: the one of its name, or, when that passes, the one of its
value. -/
def RaisesOn (keyOp : Comparison) (keyOperand : HeaderOperand lib) (valueOp : Comparison)
    (valueOperand : HeaderOperand lib) (header : String × HeaderValue) : Prop :=
  Raises (keyOperand.eval keyOp header.1) ∨
    Gives (keyOperand.eval keyOp header.1) true ∧
      ∃ text, header.2.toStr = some text ∧ Raises (valueOperand.eval valueOp text)

variable {keyOp valueOp : Comparison} {keyOperand valueOperand : HeaderOperand lib}

/-- What a scan comes to: a header that passes, one that raises, or none of either kind. -/
inductive Scanned (keyOp : Comparison) (keyOperand : HeaderOperand lib) (valueOp : Comparison)
    (valueOperand : HeaderOperand lib) (headers : HeaderMap) :
    Except RuntimeError (Bool × Nat) → Prop where
  | passed {header : String × HeaderValue} {left : Nat} (mem : header ∈ headers)
      (passes : PassesBoth keyOp keyOperand valueOp valueOperand header) :
      Scanned keyOp keyOperand valueOp valueOperand headers (.ok (true, left))
  | raised {header : String × HeaderValue} {e : RuntimeError} (mem : header ∈ headers)
      (raises : RaisesOn keyOp keyOperand valueOp valueOperand header)
      (gas : ¬ e.IsTookTooLong) :
      Scanned keyOp keyOperand valueOp valueOperand headers (.error e)
  | none {left : Nat}
      (none : ∀ header ∈ headers, ¬ PassesBoth keyOp keyOperand valueOp valueOperand header ∧
        ¬ RaisesOn keyOp keyOperand valueOp valueOperand header) :
      Scanned keyOp keyOperand valueOp valueOperand headers (.ok (false, left))

/-- Going on behind a header that neither passes nor raises. -/
private theorem Scanned.cons {header : String × HeaderValue} {headers : HeaderMap}
    {r : Except RuntimeError (Bool × Nat)}
    (h : Scanned keyOp keyOperand valueOp valueOperand headers r)
    (hpasses : ¬ PassesBoth keyOp keyOperand valueOp valueOperand header)
    (hraises : ¬ RaisesOn keyOp keyOperand valueOp valueOperand header) :
    Scanned keyOp keyOperand valueOp valueOperand (header :: headers) r := by
  cases h with
  | passed mem passes => exact .passed (List.mem_cons_of_mem _ mem) passes
  | raised mem raises gas => exact .raised (List.mem_cons_of_mem _ mem) raises gas
  | none none => exact .none (List.forall_mem_cons.mpr ⟨⟨hpasses, hraises⟩, none⟩)

/-- With gas for two glob matches a header, a scan comes to its end. -/
theorem scanned_evalHeaderCheck (keyOp : Comparison) (keyOperand : HeaderOperand lib)
    (valueOp : Comparison) (valueOperand : HeaderOperand lib) (headers : HeaderMap) {gas : Nat}
    (hgas : 2 * globGas * headers.length ≤ gas) :
    Scanned keyOp keyOperand valueOp valueOperand headers
      (evalHeaderCheck keyOp keyOperand valueOp valueOperand headers gas) := by
  induction headers generalizing gas with
  | nil => exact .none fun header h => (List.not_mem_nil h).elim
  | cons header rest ih =>
    obtain ⟨k, v⟩ := header
    have hmem : (k, v) ∈ (k, v) :: rest := List.mem_cons_self
    have hcost : globGas = 5 := rfl
    rw [List.length_cons, hcost] at hgas
    rw [hcost] at ih
    rcases (keyOperand.isTest_eval keyOp k).run (by omega : globGas ≤ gas) with
      ⟨b, left, hkey, hleft, hnoRaise, hunique⟩ | ⟨e, hkey, he, hnone⟩
    · cases b with
      | false =>
        -- the name does not pass
        have hnot : ¬ Gives (keyOperand.eval keyOp k) true := fun h => nomatch hunique true h
        have hrest := ih (by omega : 2 * 5 * rest.length ≤ left)
        rw [evalHeaderCheck, bind_ok hkey rfl]
        apply hrest.cons
        · exact fun h => hnot h.1
        · rintro (h | h)
          · exact hnoRaise h
          · exact hnot h.1
      | true =>
        have hgives : Gives (keyOperand.eval keyOp k) true := ⟨gas, left, hkey⟩
        rw [evalHeaderCheck, bind_ok hkey rfl, if_pos rfl]
        cases htext : v.toStr with
        | none =>
          have hrest := ih (by omega : 2 * 5 * rest.length ≤ left)
          apply hrest.cons
          · rintro ⟨-, text, h, -⟩
            cases htext.symm.trans h
          · rintro (h | ⟨-, text, h, -⟩)
            · exact hnoRaise h
            · cases htext.symm.trans h
        | some text =>
          dsimp only
          rcases (valueOperand.isTest_eval valueOp text).run (by omega : globGas ≤ left) with
            ⟨b, left', hvalue, hleft', hnoRaise', hunique'⟩ | ⟨e, hvalue, he, hnone⟩
          · rw [bind_ok hvalue rfl]
            cases b with
            | true =>
              exact .passed hmem
                ⟨hgives, text, htext, left, left', hvalue⟩
            | false =>
              have hrest := ih (by omega : 2 * 5 * rest.length ≤ left')
              apply hrest.cons
              · rintro ⟨-, text', h, hpasses⟩
                cases htext.symm.trans h
                cases hunique' true hpasses
              · rintro (h | ⟨-, text', h, hraises⟩)
                · exact hnoRaise h
                · cases htext.symm.trans h
                  exact hnoRaise' hraises
          · rw [bind_eq_error_iff.mpr (.inl hvalue)]
            exact .raised hmem
              (.inr ⟨hgives, text, htext, left, e, hvalue, he⟩) he
    · rw [evalHeaderCheck, bind_eq_error_iff.mpr (.inl hkey)]
      exact .raised hmem (.inl ⟨gas, e, hkey, he⟩) he

/-! ## The law -/

/-- A header check as an assertion, on some headers. -/
def evalHeaders (keyOp : Comparison) (keyOperand : HeaderOperand lib) (valueOp : Comparison)
    (valueOperand : HeaderOperand lib) (status : UInt16) (body : List UInt8) (gas : Nat)
    (headers : HeaderMap) : Except RuntimeError EvalResult :=
  Assertion.eval ⟨.headerCheck keyOp keyOperand valueOp valueOperand⟩ ⟨status, headers, body⟩ gas

/-- It answers what the scan comes to. -/
private theorem evalHeaders_eq (status : UInt16) (body : List UInt8) (gas : Nat)
    (headers : HeaderMap) :
    evalHeaders keyOp keyOperand valueOp valueOperand status body gas headers =
      match evalHeaderCheck keyOp keyOperand valueOp valueOperand headers gas with
      | .ok (b, _) => .ok (.leaf b)
      | .error e => .error (e.setPath [0]) := by
  have hop : Op.eval ⟨status, headers, body⟩ 0
      (.headerCheck keyOp keyOperand valueOp valueOperand) ⟨gas, []⟩ =
        match evalHeaderCheck keyOp keyOperand valueOp valueOperand headers gas with
        | .ok (b, left) => .ok (.leaf b) ⟨left, []⟩
        | .error e => .error e ⟨gas, [0]⟩ := by
    rw [Op.eval]
    show EStateM.bind (charge _) _ ⟨gas, [0]⟩ = _
    unfold EStateM.bind charge
    dsimp only
    cases evalHeaderCheck keyOp keyOperand valueOp valueOperand headers gas <;> rfl
  unfold evalHeaders Assertion.eval
  rw [hop]
  cases evalHeaderCheck keyOp keyOperand valueOp valueOperand headers gas <;> rfl

/-- Where no header raises, a scan answers whether one passes. -/
private theorem Scanned.answers {headers : HeaderMap} {s : Except RuntimeError (Bool × Nat)}
    (h : Scanned keyOp keyOperand valueOp valueOperand headers s)
    (hnone : ∀ header ∈ headers, ¬ RaisesOn keyOp keyOperand valueOp valueOperand header) :
    ∃ b left, s = .ok (b, left) ∧
      (b = true ↔ ∃ header ∈ headers, PassesBoth keyOp keyOperand valueOp valueOperand header) := by
  cases h with
  | passed mem passes => exact ⟨true, _, rfl, iff_of_true rfl ⟨_, mem, passes⟩⟩
  | raised mem raises => exact (hnone _ mem raises).elim
  | none none =>
    refine ⟨false, _, rfl, iff_of_false Bool.false_ne_true ?_⟩
    intro ⟨header, mem, passes⟩
    exact (none header mem).1 passes

/-- Where no header passes and one raises, a scan raises an error. -/
private theorem Scanned.raises {headers : HeaderMap} {s : Except RuntimeError (Bool × Nat)}
    (h : Scanned keyOp keyOperand valueOp valueOperand headers s)
    {header : String × HeaderValue} (hmem : header ∈ headers)
    (hraises : RaisesOn keyOp keyOperand valueOp valueOperand header)
    (hnone : ∀ header ∈ headers, ¬ PassesBoth keyOp keyOperand valueOp valueOperand header) :
    ∃ e, s = .error e ∧ ¬ e.IsTookTooLong := by
  cases h with
  | passed mem passes => exact (hnone _ mem passes).elim
  | raised _ _ gas => exact ⟨_, rfl, gas⟩
  | none none => exact ((none header hmem).2 hraises).elim

/-- Where one header passes, a scan answers that, or raises an error. -/
private theorem Scanned.passes_or_raises {headers : HeaderMap}
    {s : Except RuntimeError (Bool × Nat)}
    (h : Scanned keyOp keyOperand valueOp valueOperand headers s)
    {header : String × HeaderValue} (hmem : header ∈ headers)
    (hpasses : PassesBoth keyOp keyOperand valueOp valueOperand header) :
    (∃ left, s = .ok (true, left)) ∨ ∃ e, s = .error e ∧ ¬ e.IsTookTooLong := by
  cases h with
  | @passed _ left _ _ => exact .inl ⟨left, rfl⟩
  | raised _ _ gas => exact .inr ⟨_, rfl, gas⟩
  | none none => exact ((none header hmem).1 hpasses).elim

/-- The order of the headers decides between a header that passes and one that raises, and between
nothing else. -/
theorem headerCheck_order (keyOp : Comparison) (keyOperand : HeaderOperand lib)
    (valueOp : Comparison) (valueOperand : HeaderOperand lib) {headers headers' : HeaderMap}
    (hperm : headers.Perm headers') (status : UInt16) (body : List UInt8) {gas : Nat}
    (hgas : 10 * headers.length ≤ gas) :
    let eval := evalHeaders keyOp keyOperand valueOp valueOperand status body gas
    let Passes := PassesBoth keyOp keyOperand valueOp valueOperand
    let Raises := RaisesOn keyOp keyOperand valueOp valueOperand
    ((∀ h ∈ headers, ¬ Raises h) →
      (∃ b, eval headers = .ok (.leaf b) ∧ eval headers' = .ok (.leaf b) ∧
        (b = true ↔ ∃ h ∈ headers, Passes h))) ∧
    ((∃ h ∈ headers, Raises h) → (∀ h ∈ headers, ¬ Passes h) →
      (∃ e, eval headers = .error e ∧ ¬ e.IsTookTooLong) ∧
        ∃ e, eval headers' = .error e ∧ ¬ e.IsTookTooLong) ∧
    ((∃ h ∈ headers, Passes h) →
      (eval headers = .ok (.leaf true) ∨ ∃ e, eval headers = .error e ∧ ¬ e.IsTookTooLong) ∧
        (eval headers' = .ok (.leaf true) ∨
          ∃ e, eval headers' = .error e ∧ ¬ e.IsTookTooLong)) ∧
    ∀ r r', eval headers = .ok r → eval headers' = .ok r' → r = r' := by
  have hscan := scanned_evalHeaderCheck keyOp keyOperand valueOp valueOperand headers hgas
  have hscan' := scanned_evalHeaderCheck keyOp keyOperand valueOp valueOperand headers'
    (hperm.length_eq ▸ hgas)
  dsimp only
  rw [evalHeaders_eq, evalHeaders_eq]
  generalize evalHeaderCheck keyOp keyOperand valueOp valueOperand headers gas = s at hscan
  generalize evalHeaderCheck keyOp keyOperand valueOp valueOperand headers' gas = s' at hscan'
  have hstamp : ∀ e : RuntimeError, ¬ e.IsTookTooLong → ¬ (e.setPath [0]).IsTookTooLong := by
    intro e he ⟨path, h⟩
    cases e <;> cases h
    exact he ⟨_, rfl⟩
  refine ⟨?_, ?_, ?_, ?_⟩
  · intro hnone
    have hscanned := @Scanned.answers lib keyOp valueOp keyOperand valueOperand
    obtain ⟨b, left, rfl, hb⟩ := hscanned hscan hnone
    obtain ⟨b', left', rfl, hb'⟩ :=
      hscanned hscan' fun h hh => hnone h (hperm.mem_iff.mpr hh)
    have hsame : b' = b := by
      rw [Bool.eq_iff_iff, hb, hb']
      simp only [hperm.mem_iff]
    exact ⟨b, rfl, by rw [hsame], hb⟩
  · intro ⟨header, hmem, hraises⟩ hnone
    have hscanned := @Scanned.raises lib keyOp valueOp keyOperand valueOperand
    obtain ⟨e, rfl, he⟩ := hscanned hscan hmem hraises hnone
    obtain ⟨e', rfl, he'⟩ := hscanned hscan' (hperm.mem_iff.mp hmem) hraises
      fun h hh => hnone h (hperm.mem_iff.mpr hh)
    exact ⟨⟨_, rfl, hstamp e he⟩, ⟨_, rfl, hstamp e' he'⟩⟩
  · intro ⟨header, hmem, hpasses⟩
    have hscanned := @Scanned.passes_or_raises lib keyOp valueOp keyOperand valueOperand
    constructor
    · rcases hscanned hscan hmem hpasses with ⟨left, rfl⟩ | ⟨e, rfl, he⟩
      · exact .inl rfl
      · exact .inr ⟨_, rfl, hstamp e he⟩
    · rcases hscanned hscan' (hperm.mem_iff.mp hmem) hpasses with ⟨left, rfl⟩ | ⟨e, rfl, he⟩
      · exact .inl rfl
      · exact .inr ⟨_, rfl, hstamp e he⟩
  · intro r r' hr hr'
    cases hscan with
    | raised => cases hr
    | passed mem passes =>
      cases hscan' with
      | raised => cases hr'
      | passed =>
        cases hr
        cases hr'
        rfl
      | none none => exact ((none _ (hperm.mem_iff.mp mem)).1 passes).elim
    | none none =>
      cases hscan' with
      | raised => cases hr'
      | passed mem passes => exact ((none _ (hperm.mem_iff.mpr mem)).1 passes).elim
      | none =>
        cases hr
        cases hr'
        rfl

/-- One of two tests against the number 5 is passed by the text 5, as the number equals itself or
does not. Both raise an error on a text that is no number. -/
private theorem exists_number_test : ∃ op : Comparison,
    (∀ gas, (HeaderOperand.literal (.ofString "5") : HeaderOperand plainExternals).eval op "5"
      (gas + 1) = .ok (true, gas)) ∧
    ∀ gas, (HeaderOperand.literal (.ofString "5") : HeaderOperand plainExternals).eval op "abc"
      gas = .error (.ofParseError "invalid float literal") := by
  obtain ⟨five, hfive⟩ : ∃ x, parseF64 "5" = .ok x := ⟨_, rfl⟩
  have hliteral : Value.ofString "5" = .f64 five := by
    unfold Value.ofString
    rw [hfive]
  rw [hliteral]
  have hnumber : ∀ gas, cmpEqHeader "5" (.literal (.f64 five) : HeaderOperand plainExternals)
      (gas + 1) = .ok (five == five, gas) := by
    intro gas
    unfold cmpEqHeader
    rw [hfive]
    rfl
  have htext : ∀ gas, cmpEqHeader "abc" (.literal (.f64 five) : HeaderOperand plainExternals) gas =
      .error (.ofParseError "invalid float literal") := fun _ => rfl
  by_cases heq : (five == five) = true
  · rw [heq] at hnumber
    exact ⟨.equal, hnumber, htext⟩
  · rw [Bool.eq_false_iff.mpr heq] at hnumber
    exact ⟨.notEqual, fun gas => bind_ok (hnumber gas) rfl,
      fun gas => bind_eq_error_iff.mpr (.inl (htext gas))⟩

/-- A header that is the number 5 and one that is no number, in either order. -/
theorem header_order_matters : ¬ ∀ (lib : Externals) (keyOp : Comparison)
    (keyOperand : HeaderOperand lib) (valueOp : Comparison) (valueOperand : HeaderOperand lib)
    (headers headers' : HeaderMap) (status : UInt16) (body : List UInt8) (gas : Nat),
    headers.Perm headers' → 10 * headers.length ≤ gas →
    evalHeaders keyOp keyOperand valueOp valueOperand status body gas headers =
        evalHeaders keyOp keyOperand valueOp valueOperand status body gas headers' ∧
      (evalHeaders keyOp keyOperand valueOp valueOperand status body gas headers =
          .ok (.leaf true) ↔
        ∃ h ∈ headers, PassesBoth keyOp keyOperand valueOp valueOperand h) := by
  intro h
  obtain ⟨op, hnumber, htext⟩ := exists_number_test
  have hsame := (h plainExternals .always .none op (.literal (.ofString "5"))
    [("content-length", [53]), ("server", [97, 98, 99])]
    [("server", [97, 98, 99]), ("content-length", [53])] 200 [] 20 (List.Perm.swap _ _ _)
    (Nat.le_refl 20)).1
  have hkey : ∀ name, (HeaderOperand.none : HeaderOperand plainExternals).eval .always name 20 =
      .ok (true, 20) := fun _ => rfl
  have hpassed : ∀ rest, @evalHeaderCheck plainExternals .always .none op
      (.literal (.ofString "5")) (("content-length", [53]) :: rest) 20 = .ok (true, 19) := by
    intro rest
    rw [evalHeaderCheck, show HeaderValue.toStr [53] = some "5" by decide]
    exact bind_ok (hkey _) (bind_ok (hnumber 19) rfl)
  have hraised : ∀ rest, @evalHeaderCheck plainExternals .always .none op
      (.literal (.ofString "5")) (("server", [97, 98, 99]) :: rest) 20 =
        .error (.ofParseError "invalid float literal") := by
    intro rest
    rw [evalHeaderCheck, show HeaderValue.toStr [97, 98, 99] = some "abc" by decide]
    exact bind_ok (hkey _) (bind_eq_error_iff.mpr (.inl (htext 20)))
  rw [evalHeaders_eq, evalHeaders_eq, hpassed, hraised] at hsame
  cases hsame

/-- A header found by its name, in either order. -/
theorem headerCheck_order_server :
    let eval := evalHeaders .equal (.literal (.string "server") : HeaderOperand plainExternals)
      .always .none 200 [] 20
    ∃ b, eval [("server", [97]), ("via", [98])] = .ok (.leaf b) ∧
      eval [("via", [98]), ("server", [97])] = .ok (.leaf b) ∧
      (b = true ↔ ∃ h ∈ [("server", [97]), ("via", [98])],
        PassesBoth .equal (.literal (.string "server") : HeaderOperand plainExternals) .always .none
          h) := by
  apply (headerCheck_order .equal (.literal (.string "server") : HeaderOperand plainExternals)
    .always .none (List.Perm.swap ("via", [98]) ("server", [97]) []) 200 [] (Nat.le_refl 20)).1
  rintro header - (⟨gas, e, he, hnot⟩ | ⟨-, text, -, gas, e, he, -⟩)
  · cases gas with
    | zero =>
      cases he
      exact hnot ⟨[], rfl⟩
    | succ gas => cases he
  · cases he

end UptimeChecker.Assertions.Compiled
