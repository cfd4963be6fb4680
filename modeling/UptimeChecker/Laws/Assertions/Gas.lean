import UptimeChecker.Laws.Assertions.Eval

/-!
# The price of a leaf

Every comparison draws a fixed amount of gas. So does a leaf, then, when the JSONPath library does:
whatever the gas it starts with, it runs out below one amount and answers the same from it on.

That answer is never the error of a run out of gas, with one exception: a glob set against a query
result that is no string answers that error whatever the gas (`Leaf.MeetsNonString`).
-/

namespace UptimeChecker.Assertions.Compiled

open Metered

variable {lib : Externals}

/-- A query costs a fixed amount of gas on a document, and its answer does not depend on the gas
left. -/
def FixedCost (lib : Externals) : Prop :=
  ∀ query doc, Priced .tookTooLong (lib.jsPathProcess query doc)

/-- A query costs a fixed amount of gas on a document, and fails for lack of gas with less. -/
def ExactCost (lib : Externals) : Prop :=
  ∀ query doc, Settles .tookTooLong (· = .tookTooLong) (lib.jsPathProcess query doc)

theorem ExactCost.fixedCost (exact : ExactCost lib) : FixedCost lib :=
  fun query doc => (exact query doc).priced

/-- The error of a run out of gas. -/
def RuntimeError.IsTookTooLong (e : RuntimeError) : Prop := ∃ path, e = .tookTooLong path

/-- Given gas for it, a leaf or a part of one answers something else than the lack of gas. -/
abbrev Answers {α : Type} (m : Meter RuntimeError α) : Prop :=
  Settles (.tookTooLong []) RuntimeError.IsTookTooLong m

theorem costs_gas (amount : Nat) :
    Costs (.tookTooLong []) (Gas.consume amount) amount (.ok ()) := costs_consume amount

/-- What answers given gas for it runs out of gas without a path. -/
theorem tookTooLong_path {m : Meter RuntimeError Bool} {gas : Nat} {path : List UInt32}
    (hm : Answers m) (h : m gas = .error (.tookTooLong path)) : path = [] := by
  obtain ⟨cost, r, hcost, hr⟩ := hm
  rw [hcost gas] at h
  split at h
  · cases h
    rfl
  · cases r with
    | ok b => cases h
    | error e =>
      cases h
      exact (hr _ rfl ⟨path, rfl⟩).elim

/-! ## Comparisons -/

private theorem costs_cmp {T : Type} [Cmp T] (a b : T) :
    Costs (.tookTooLong []) (cmpEq a b) 1 (.ok (Cmp.eq a b)) ∧
      Costs (.tookTooLong []) (cmpLt a b) 1 (.ok (Cmp.lt a b)) ∧
      Costs (.tookTooLong []) (cmpGt a b) 1 (.ok (Cmp.lt b a)) := by
  have hcosts : ∀ r : Bool, Costs (.tookTooLong []) (do Gas.consume 1; return r) (1 + 0) (.ok r) :=
    fun r => (costs_gas 1).bind (costs_pure r)
  exact ⟨hcosts _, hcosts _, hcosts _⟩

private theorem answers_cmp {T : Type} [Cmp T] (a b : T) :
    Answers (cmpEq a b) ∧ Answers (cmpLt a b) ∧ Answers (cmpGt a b) :=
  ⟨⟨1, _, (costs_cmp a b).1, nofun⟩, ⟨1, _, (costs_cmp a b).2.1, nofun⟩,
    ⟨1, _, (costs_cmp a b).2.2, nofun⟩⟩

/-! ## Header tests -/

/-- A test of a header text: it costs a glob match at most, and its answer is not the lack of
gas. -/
def IsTest (m : Meter RuntimeError Bool) : Prop :=
  ∃ cost r, cost ≤ globGas ∧ Costs (.tookTooLong []) m cost r ∧
    ∀ e, r = .error e → ¬ e.IsTookTooLong

theorem IsTest.answers {m : Meter RuntimeError Bool} (h : IsTest m) : Answers m := by
  obtain ⟨cost, r, -, hcost, hr⟩ := h
  exact ⟨cost, r, hcost, hr⟩

private theorem isTest_pure (b : Bool) : IsTest (pure b) :=
  ⟨0, _, Nat.zero_le _, costs_pure b, nofun⟩

/-- A comparison is a test, also with a text read as a number first. -/
private theorem isTest_of_costs {m : Meter RuntimeError Bool} {b : Bool}
    (h : Costs (.tookTooLong []) m 1 (.ok b)) : IsTest m :=
  ⟨1, _, by decide, h, nofun⟩

private theorem isTest_parsed {T : Type} (r : Except String T) {f : T → Meter RuntimeError Bool}
    (hf : ∀ v, ∃ b, Costs (.tookTooLong []) (f v) 1 (.ok b)) :
    IsTest (do f (← parsed r)) := by
  cases r with
  | error text =>
    refine ⟨0, _, Nat.zero_le _, (costs_fail _).bind_error f, ?_⟩
    rintro e he ⟨path, rfl⟩
    cases he
  | ok v =>
    obtain ⟨b, hb⟩ := hf v
    exact ⟨0 + 1, _, by decide, (costs_pure v).bind hb, nofun⟩

/-- A glob match is a test. -/
private theorem isTest_glob (b : Bool) :
    IsTest (do Gas.consume globGas; return b) :=
  ⟨globGas + 0, _, Nat.le_refl _, (costs_consume globGas).bind (costs_pure b), nofun⟩

private theorem IsTest.not {m : Meter RuntimeError Bool} (h : IsTest m) :
    IsTest (do return !(← m)) := by
  obtain ⟨cost, r, hle, hcost, hr⟩ := h
  cases r with
  | error e =>
    refine ⟨cost, _, hle, hcost.bind_error _, ?_⟩
    intro e' he
    cases he
    exact hr e rfl
  | ok b => exact ⟨cost + 0, _, hle, hcost.bind (costs_pure _), nofun⟩

private theorem isTest_cmpEqHeader (text : String) (operand : HeaderOperand lib) :
    IsTest (cmpEqHeader text operand) := by
  cases operand with
  | none => exact isTest_pure _
  | glob pattern => exact isTest_glob _
  | literal v =>
    cases v with
    | i64 n => exact isTest_parsed _ fun v => ⟨_, (costs_cmp v n).1⟩
    | f64 x => exact isTest_parsed _ fun v => ⟨_, (costs_cmp v x).1⟩
    | string s => exact isTest_of_costs (costs_cmp text s).1

theorem HeaderOperand.isTest_eval (operand : HeaderOperand lib) (op : Comparison) (text : String) :
    IsTest (operand.eval op text) := by
  cases op with
  | always => exact isTest_pure _
  | never => exact isTest_pure _
  | equal => exact isTest_cmpEqHeader text operand
  | notEqual => exact (isTest_cmpEqHeader text operand).not
  | lessThan =>
    cases operand with
    | none => exact isTest_pure _
    | glob pattern => exact isTest_pure _
    | literal v =>
      cases v with
      | i64 n => exact isTest_parsed _ fun v => ⟨_, (costs_cmp v n).2.1⟩
      | f64 x => exact isTest_parsed _ fun v => ⟨_, (costs_cmp v x).2.1⟩
      | string s => exact isTest_of_costs (costs_cmp text s).2.1
  | greaterThan =>
    cases operand with
    | none => exact isTest_pure _
    | glob pattern => exact isTest_pure _
    | literal v =>
      cases v with
      | i64 n => exact isTest_parsed _ fun v => ⟨_, (costs_cmp v n).2.2⟩
      | f64 x => exact isTest_parsed _ fun v => ⟨_, (costs_cmp v x).2.2⟩
      | string s => exact isTest_of_costs (costs_cmp text s).2.2

theorem answers_evalHeaderCheck (keyOp : Comparison) (keyOperand : HeaderOperand lib)
    (valueOp : Comparison) (valueOperand : HeaderOperand lib) (headers : HeaderMap) :
    Answers (evalHeaderCheck keyOp keyOperand valueOp valueOperand headers) := by
  induction headers with
  | nil => exact settles_pure _
  | cons header rest ih =>
    obtain ⟨k, v⟩ := header
    apply (keyOperand.isTest_eval keyOp k).answers.bind
    intro b _
    apply Settles.ite
    · intro _
      cases v.toStr with
      | none => exact ih
      | some text =>
        apply (valueOperand.isTest_eval valueOp text).answers.bind
        intro b' _
        exact Settles.ite _ (fun _ => settles_pure _) fun _ => ih
    · intro _
      exact ih

/-! ## JSONPath tests -/

/-- The test sets a value that is no string against a glob. -/
def JSONPathOperand.GlobOnNonString (operand : JSONPathOperand lib) (op : Comparison) (v : Json) :
    Prop :=
  (op = .equal ∨ op = .notEqual) ∧ (∃ pattern, operand = .glob pattern) ∧ v.asStr = Option.none

/-- The test comes to a value that is no string, behind values that pass, and sets it against a
glob. -/
def JSONPathOperand.MeetsNonString (operand : JSONPathOperand lib) (op : Comparison)
    (result : List Json) : Prop :=
  ∃ before v after, result = before ++ v :: after ∧
    (∀ b ∈ before, ∃ gas left, operand.evalOne op b gas = .ok (true, left)) ∧
    operand.GlobOnNonString op v

private theorem answers_cmpCoerceJson {json : Json} {text : String}
    {cmpF64 : Float → Float → Meter RuntimeError Bool}
    {cmpI64 : Int64 → Int64 → Meter RuntimeError Bool}
    {cmpStr : String → String → Meter RuntimeError Bool} (hF : ∀ a b, Answers (cmpF64 a b))
    (hI : ∀ a b, Answers (cmpI64 a b)) (hS : ∀ a b, Answers (cmpStr a b)) :
    Answers (cmpCoerceJson lib json text cmpF64 cmpI64 cmpStr) := by
  unfold cmpCoerceJson
  split
  · exact hF _ _
  · split
    · exact hI _ _
    · split
      · exact hS _ _
      · apply settles_fail
        intro ⟨path, h⟩
        cases h

/-- Set against a glob, a value that is no string answers the lack of gas. -/
private theorem evalOne_globOnNonString {operand : JSONPathOperand lib} {op : Comparison} {v : Json}
    (h : operand.GlobOnNonString op v) :
    Costs (.tookTooLong []) (operand.evalOne op v) globGas (.error (.tookTooLong [])) := by
  obtain ⟨hop, ⟨pattern, rfl⟩, hv⟩ := h
  have hcosts : Costs (.tookTooLong []) (cmpEqJsonpath v (.glob pattern)) (globGas + 0)
      (.error (.tookTooLong [])) := by
    apply (costs_consume globGas).bind
    rw [hv]
    exact costs_fail _
  rcases hop with rfl | rfl
  · exact hcosts
  · exact hcosts.bind_error _

private theorem answers_cmpEqJsonpath {operand : JSONPathOperand lib} {v : Json}
    (h : (∃ pattern, operand = .glob pattern) → v.asStr ≠ Option.none) :
    Answers (cmpEqJsonpath v operand) := by
  cases operand with
  | none => exact settles_pure _
  | literal text =>
    exact answers_cmpCoerceJson (fun _ _ => (answers_cmp _ _).1) (fun _ _ => (answers_cmp _ _).1)
      fun _ _ => (answers_cmp _ _).1
  | glob pattern =>
    apply (settles_consume globGas).bind
    intro _ _
    cases hv : v.asStr with
    | none => exact (h ⟨pattern, rfl⟩ hv).elim
    | some text => exact settles_pure _

private theorem answers_evalOne {operand : JSONPathOperand lib} {op : Comparison} {v : Json}
    (h : ¬ operand.GlobOnNonString op v) : Answers (operand.evalOne op v) := by
  have hequal : op = .equal ∨ op = .notEqual → Answers (cmpEqJsonpath v operand) := by
    intro hop
    apply answers_cmpEqJsonpath
    intro hglob hv
    exact h ⟨hop, hglob, hv⟩
  cases op with
  | always => exact settles_pure _
  | never => exact settles_pure _
  | equal => exact hequal (.inl rfl)
  | notEqual => exact (hequal (.inr rfl)).bind fun _ _ => settles_pure _
  | lessThan =>
    cases operand with
    | none => exact settles_pure _
    | glob pattern => exact settles_pure _
    | literal text =>
      exact answers_cmpCoerceJson (fun _ _ => (answers_cmp _ _).2.1)
        (fun _ _ => (answers_cmp _ _).2.1) fun _ _ => (answers_cmp _ _).2.1
  | greaterThan =>
    cases operand with
    | none => exact settles_pure _
    | glob pattern => exact settles_pure _
    | literal text =>
      exact answers_cmpCoerceJson (fun _ _ => (answers_cmp _ _).2.2)
        (fun _ _ => (answers_cmp _ _).2.2) fun _ _ => (answers_cmp _ _).2.2

private theorem priced_evalOne (operand : JSONPathOperand lib) (op : Comparison) (v : Json) :
    Priced (.tookTooLong []) (operand.evalOne op v) := by
  by_cases h : operand.GlobOnNonString op v
  · exact ⟨_, _, evalOne_globOnNonString h⟩
  · exact (answers_evalOne h).priced

private theorem priced_evalAll (operand : JSONPathOperand lib) (op : Comparison)
    (result : List Json) : Priced (.tookTooLong []) (operand.evalAll op result) := by
  induction result with
  | nil => exact priced_pure _
  | cons v rest ih =>
    exact (priced_evalOne operand op v).bind fun b => Priced.ite (b = true) ih (priced_pure _)

private theorem answers_evalAll {operand : JSONPathOperand lib} {op : Comparison}
    {result : List Json} (h : ¬ operand.MeetsNonString op result) :
    Answers (operand.evalAll op result) := by
  induction result with
  | nil => exact settles_pure _
  | cons v rest ih =>
    have hv : ¬ operand.GlobOnNonString op v := by
      intro hv
      exact h ⟨[], v, rest, rfl, fun b hb => (List.not_mem_nil hb).elim, hv⟩
    apply (answers_evalOne hv).bind
    intro b hb
    apply Settles.ite
    · rintro rfl
      apply ih
      rintro ⟨before, v', after, rfl, hbefore, hv'⟩
      exact h ⟨v :: before, v', after, rfl, List.forall_mem_cons.mpr ⟨hb, hbefore⟩, hv'⟩
    · intro _
      exact settles_pure _

private theorem evalAll_meetsNonString {operand : JSONPathOperand lib} {op : Comparison}
    {result : List Json} (h : operand.MeetsNonString op result) (gas : Nat) :
    operand.evalAll op result gas = .error (.tookTooLong []) := by
  obtain ⟨before, v, after, rfl, hbefore, hv⟩ := h
  induction before generalizing gas with
  | nil =>
    apply bind_eq_error_iff.mpr
    left
    rw [evalOne_globOnNonString hv gas]
    split <;> rfl
  | cons b before ih =>
    obtain ⟨⟨g, left, hb⟩, hbefore⟩ := List.forall_mem_cons.mp hbefore
    obtain ⟨cost, r, hcost⟩ := priced_evalOne operand op b
    obtain ⟨-, -, rfl⟩ := hcost.of_ok hb
    apply bind_eq_error_iff.mpr
    rw [hcost gas]
    by_cases hlt : gas < cost
    · left
      rw [if_pos hlt]
    · right
      rw [if_neg hlt]
      exact ⟨true, gas - cost, rfl, ih (gas - cost) hbefore⟩

/-- The lack of gas, real or not, comes without a path. -/
theorem JSONPathOperand.tookTooLong_path {operand : JSONPathOperand lib} {op : Comparison}
    {result : List Json} {gas : Nat} {path : List UInt32}
    (h : operand.eval op result gas = .error (.tookTooLong path)) : path = [] := by
  unfold JSONPathOperand.eval at h
  split at h
  · cases h
  · by_cases hmeets : operand.MeetsNonString op result
    · rw [evalAll_meetsNonString hmeets] at h
      cases h
      rfl
    · exact Compiled.tookTooLong_path (answers_evalAll hmeets) h

/-! ## Leaves -/

/-- The leaf is a query one of whose results, behind results that pass, is no string and set against
a glob. -/
def Leaf.MeetsNonString (response : Response) : Leaf lib → Prop
  | .jsonPath value operator operand =>
    ∃ json result, lib.fromSlice response.body = .ok json ∧
      (∃ gas left, lib.jsPathProcess value json gas = .ok (result, left)) ∧
      operand.MeetsNonString operator result
  | _ => False

private theorem jsPathProcess_eq_ok_iff {value : lib.JpQuery} {json : Json} {gas left : Nat}
    {result : List Json} :
    jsPathProcess value json gas = .ok (result, left) ↔
      lib.jsPathProcess value json gas = .ok (result, left) := by
  unfold jsPathProcess
  cases lib.jsPathProcess value json gas with
  | error e => exact ⟨nofun, nofun⟩
  | ok p =>
    constructor
    · intro h
      cases h
      rfl
    · intro h
      cases h
      rfl

private theorem answers_jsPathProcess (exact : ExactCost lib) (value : lib.JpQuery) (json : Json) :
    Answers (jsPathProcess value json) := by
  obtain ⟨cost, r, hcost, hr⟩ := exact value json
  refine ⟨cost, _, hcost.mapError (RuntimeError.ofJsonPathError lib), ?_⟩
  rintro e he ⟨path, rfl⟩
  cases r with
  | ok a => cases he
  | error e =>
    cases e with
    | tookTooLong => exact hr _ rfl rfl
    | _ => cases he

/-- Under exact query costs a leaf that meets no such result answers, given gas for it. -/
theorem Leaf.answers_ask (exact : ExactCost lib) {response : Response} {leaf : Leaf lib}
    (h : ¬ leaf.MeetsNonString response) : Answers (leaf.ask response) := by
  cases leaf with
  | statusCodeCheck value operator => exact (settles_consume 1).bind fun _ _ => settles_pure _
  | headerCheck keyOp keyOperand valueOp valueOperand =>
    exact answers_evalHeaderCheck keyOp keyOperand valueOp valueOperand response.headers
  | jsonPath value operator operand =>
    have hjson : ∀ e, (lib.fromSlice response.body).mapError RuntimeError.invalidJsonBody =
        .error e → ¬ e.IsTookTooLong := by
      rintro e he ⟨path, rfl⟩
      cases hb : lib.fromSlice response.body <;> rw [hb] at he <;> cases he
    apply (settles_answer hjson).bind
    intro json ⟨_, _, hbody⟩
    apply (answers_jsPathProcess exact value json).bind
    intro result ⟨gas, left, hresult⟩
    apply Settles.ite
    · intro _
      exact settles_pure _
    · intro _
      apply answers_evalAll
      intro hmeets
      refine h ⟨json, result, ?_, ⟨gas, left, jsPathProcess_eq_ok_iff.mp hresult⟩, hmeets⟩
      cases hb : lib.fromSlice response.body with
      | error e =>
        rw [hb] at hbody
        cases hbody
      | ok doc =>
        rw [hb] at hbody
        cases hbody
        rfl

/-- Under fixed query costs every leaf has a price. -/
theorem Leaf.priced_ask (fixed : FixedCost lib) (response : Response) (leaf : Leaf lib) :
    Priced (.tookTooLong []) (leaf.ask response) := by
  cases leaf with
  | statusCodeCheck value operator => exact (priced_consume 1).bind fun _ => priced_pure _
  | headerCheck keyOp keyOperand valueOp valueOperand =>
    exact (answers_evalHeaderCheck keyOp keyOperand valueOp valueOperand response.headers).priced
  | jsonPath value operator operand =>
    apply (priced_answer _).bind
    intro json
    have hquery : Priced (.tookTooLong []) (jsPathProcess value json) := by
      obtain ⟨cost, r, hcost⟩ := fixed value json
      exact ⟨cost, _, hcost.mapError (RuntimeError.ofJsonPathError lib)⟩
    apply hquery.bind
    intro result
    exact Priced.ite _ (priced_pure _) (priced_evalAll operand operator result)

/-- A leaf that meets a result that is no string answers the lack of gas, whatever the gas. -/
theorem Leaf.ask_meetsNonString (fixed : FixedCost lib) {response : Response} {leaf : Leaf lib}
    (h : leaf.MeetsNonString response) (gas : Nat) :
    leaf.ask response gas = .error (.tookTooLong []) := by
  cases leaf with
  | statusCodeCheck value operator => exact h.elim
  | headerCheck keyOp keyOperand valueOp valueOperand => exact h.elim
  | jsonPath value operator operand =>
    obtain ⟨json, result, hbody, ⟨g, left, hresult⟩, hmeets⟩ := h
    obtain ⟨cost, r, hcost⟩ := fixed value json
    obtain ⟨-, -, rfl⟩ := hcost.of_ok hresult
    have hquery := hcost.mapError (RuntimeError.ofJsonPathError lib)
    have hempty : result.isEmpty = false := by
      obtain ⟨before, v, after, rfl, -, -⟩ := hmeets
      cases before <;> rfl
    apply bind_eq_error_iff.mpr
    right
    refine ⟨json, gas, by rw [hbody]; rfl, ?_⟩
    apply bind_eq_error_iff.mpr
    by_cases hlt : gas < cost
    · left
      rw [show jsPathProcess value json gas = _ from hquery gas, if_pos hlt]
      rfl
    · right
      refine ⟨result, gas - cost, ?_, ?_⟩
      · rw [show jsPathProcess value json gas = _ from hquery gas, if_neg hlt]
        rfl
      · rw [JSONPathOperand.eval, hempty]
        exact evalAll_meetsNonString hmeets (gas - cost)

end UptimeChecker.Assertions.Compiled
