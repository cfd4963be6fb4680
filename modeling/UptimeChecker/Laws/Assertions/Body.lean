import UptimeChecker.Laws.Assertions.Compile

/-!
# What the body is needed for

`requiresBody` looks for a JSONPath in the user's tree. A tree without one has none after it is
compiled either, and the other leaves do not look at the body.
-/

namespace UptimeChecker.Assertions

/-- A leaf that looks at the body. -/
def Leaf.readsBody : Leaf → Bool
  | .statusCodeCheck .. => false
  | .jsonPath .. => true
  | .headerCheck .. => false

/-- A tree requires the body if and only if one of its leaves reads it. -/
theorem Assertion.requiresBodyImpl_iff (op : Op) :
    Assertion.requiresBodyImpl op = true ↔ ∃ l ∈ op.formula.leaves, l.readsBody = true := by
  have hchildren : ∀ cs : List Op,
      (∀ c ∈ cs, Assertion.requiresBodyImpl c = true ↔
        ∃ l ∈ c.formula.leaves, l.readsBody = true) →
      (Assertion.anyRequiresBody cs = true ↔
        ∃ l ∈ Formula.leavesList (Op.formulaList cs), l.readsBody = true) := by
    intro cs ih
    induction cs with
    | nil => simp [Assertion.anyRequiresBody, Op.formulaList, Formula.leavesList]
    | cons c cs ihs =>
      obtain ⟨hc, hcs⟩ := List.forall_mem_cons.mp ih
      rw [Assertion.anyRequiresBody, Bool.or_eq_true, hc, ihs hcs, Op.formulaList,
        Formula.leavesList]
      simp only [List.mem_append, or_and_right, exists_or]
  induction op using Op.induct with
  | and children ih => exact hchildren children ih
  | or children ih => exact hchildren children ih
  | not operand ih => exact ih
  | statusCodeCheck value operator =>
    simp [Assertion.requiresBodyImpl, Op.formula, Formula.leaves, Leaf.readsBody]
  | jsonPath value operator operand =>
    simp [Assertion.requiresBodyImpl, Op.formula, Formula.leaves, Leaf.readsBody]
  | headerCheck keyOp keyOperand valueOp valueOperand =>
    simp [Assertion.requiresBodyImpl, Op.formula, Formula.leaves, Leaf.readsBody]

namespace Compiled

open Metered Formula

variable {lib : Externals}

/-- A leaf that does not read the body compiles to one that does not. -/
theorem CompilesTo.ask_eq {source : Assertions.Leaf} {target : Leaf lib}
    (h : CompilesTo source target) (hreads : source.readsBody = false) (status : UInt16)
    (headers : HeaderMap) (body body' : List UInt8) :
    target.ask ⟨status, headers, body⟩ = target.ask ⟨status, headers, body'⟩ := by
  obtain ⟨op, hop, hformula⟩ := h
  cases source with
  | statusCodeCheck value operator =>
    cases hop
    cases hformula
    rfl
  | jsonPath value operator operand => cases hreads
  | headerCheck keyOp keyOperand valueOp valueOperand =>
    change compileHeaderCheck lib keyOp keyOperand valueOp valueOperand = .ok op at hop
    unfold compileHeaderCheck at hop
    cases hk : HeaderOperand.tryFrom lib keyOperand with
    | error e =>
      rw [hk] at hop
      cases hop
    | ok k =>
      cases hv : HeaderOperand.tryFrom lib valueOperand with
      | error e =>
        rw [hk, hv] at hop
        cases hop
      | ok v =>
        rw [hk, hv] at hop
        cases hop
        cases hformula
        rfl

/-- The compiled form of an assertion that does not require the body answers the same whatever the
body. -/
theorem eval_eq_of_not_requiresBody {a : Assertions.Assertion} (h : a.requiresBody = false)
    {maxOps : Nat} {c : Assertion lib} (hc : compile lib a maxOps = .ok c) (status : UInt16)
    (headers : HeaderMap) (body body' : List UInt8) (gas : Nat) :
    c.eval ⟨status, headers, body⟩ gas = c.eval ⟨status, headers, body'⟩ gas := by
  obtain ⟨s, hs⟩ := compile_eq_ok_iff.mp hc
  obtain ⟨q, hq, -⟩ := compileOp_ok hs
  have hleaves : ∀ l ∈ c.root.formula.leaves,
      l.ask ⟨status, headers, body⟩ = l.ask ⟨status, headers, body'⟩ := by
    intro l hl
    rw [← hq.snd, leaves_map] at hl
    obtain ⟨p, hp, rfl⟩ := List.mem_map.mp hl
    apply (hq.leaves p hp).ask_eq
    rw [← Bool.not_eq_true]
    intro hreads
    apply Bool.eq_false_iff.mp h
    apply (Assertion.requiresBodyImpl_iff a.root).mpr
    refine ⟨p.1, ?_, hreads⟩
    rw [← hq.fst, leaves_map]
    exact List.mem_map_of_mem hp
  rw [Assertion.eval_eq, Assertion.eval_eq]
  rw [eval_congr]
  intro l hl
  have hmem : l.2 ∈ c.root.formula.leaves := by
    rw [← map_snd_locate c.root.formula [0], leaves_map]
    exact List.mem_map_of_mem hl
  funext gas
  unfold Leaf.askAt
  rw [hleaves l.2 hmem]

end Compiled

end UptimeChecker.Assertions
