import UptimeChecker.Assertions.Compiled
import UptimeChecker.Lib.Located

/-!
# What an evaluation means

Both trees, the user's and the compiled one, are read as a `Formula` over their leaves: a
conjunction is a gate with unit true, a disjunction a gate with unit false. `Op.eval_agrees` ties
the evaluator's recursion to the formula's, so that the laws of formulas say what a verdict and its
path mean.
-/

namespace UptimeChecker.Assertions

/-! ## Trees as formulas -/

/-- A leaf of the tree a user writes. -/
inductive Leaf where
  | statusCodeCheck (value : UInt16) (operator : Comparison)
  | jsonPath (value : String) (operator : Comparison) (operand : JSONPathOperand)
  | headerCheck (keyOp : Comparison) (keyOperand : HeaderOperand)
      (valueOp : Comparison) (valueOperand : HeaderOperand)

mutual

/-- The tree a user writes, as a formula. -/
def Op.formula : Op → Formula Leaf
  | .and children => .gate true (Op.formulaList children)
  | .or children => .gate false (Op.formulaList children)
  | .not operand => .neg (Op.formula operand)
  | .statusCodeCheck value operator => .leaf (.statusCodeCheck value operator)
  | .jsonPath value operator operand => .leaf (.jsonPath value operator operand)
  | .headerCheck keyOp keyOperand valueOp valueOperand =>
    .leaf (.headerCheck keyOp keyOperand valueOp valueOperand)

/-- The children of a node, as formulas. -/
def Op.formulaList : List Op → List (Formula Leaf)
  | [] => []
  | c :: cs => Op.formula c :: Op.formulaList cs

end

theorem Op.formulaList_eq (cs : List Op) : Op.formulaList cs = cs.map Op.formula := by
  induction cs with
  | nil => rfl
  | cons c cs ih => rw [Op.formulaList, ih, List.map_cons]

/-- Induction over the tree a user writes, with the hypothesis for every child. -/
@[elab_as_elim] theorem Op.induct {P : Op → Prop}
    (and : ∀ children, (∀ c ∈ children, P c) → P (.and children))
    (or : ∀ children, (∀ c ∈ children, P c) → P (.or children))
    (not : ∀ operand, P operand → P (.not operand))
    (statusCodeCheck : ∀ value operator, P (.statusCodeCheck value operator))
    (jsonPath : ∀ value operator operand, P (.jsonPath value operator operand))
    (headerCheck : ∀ keyOp keyOperand valueOp valueOperand,
      P (.headerCheck keyOp keyOperand valueOp valueOperand)) (op : Op) : P op :=
  @Op.rec P (fun cs => ∀ c ∈ cs, P c) and or not statusCodeCheck jsonPath headerCheck
    (fun _ h => (List.not_mem_nil h).elim)
    (fun _ _ hc hcs => List.forall_mem_cons.mpr ⟨hc, hcs⟩) op

/-- Nodes of the tree a user writes. -/
def Op.size (op : Op) : Nat := op.formula.size

namespace Compiled

open Metered Formula

variable {lib : Externals}

/-- A leaf of a compiled tree. -/
inductive Leaf (lib : Externals) where
  | statusCodeCheck (value : UInt16) (operator : Comparison)
  | jsonPath (value : lib.JpQuery) (operator : Comparison) (operand : JSONPathOperand lib)
  | headerCheck (keyOp : Comparison) (keyOperand : HeaderOperand lib)
      (valueOp : Comparison) (valueOperand : HeaderOperand lib)

mutual

/-- A compiled tree, as a formula. -/
def Op.formula : Op lib → Formula (Leaf lib)
  | .and children => .gate true (Op.formulaList children)
  | .or children => .gate false (Op.formulaList children)
  | .not operand => .neg (Op.formula operand)
  | .statusCodeCheck value operator => .leaf (.statusCodeCheck value operator)
  | .jsonPath value operator operand => .leaf (.jsonPath value operator operand)
  | .headerCheck keyOp keyOperand valueOp valueOperand =>
    .leaf (.headerCheck keyOp keyOperand valueOp valueOperand)

/-- The children of a compiled node, as formulas. -/
def Op.formulaList : List (Op lib) → List (Formula (Leaf lib))
  | [] => []
  | c :: cs => Op.formula c :: Op.formulaList cs

end

/-- Induction over a compiled tree, with the hypothesis for every child. -/
@[elab_as_elim] theorem Op.induct {P : Op lib → Prop}
    (and : ∀ children, (∀ c ∈ children, P c) → P (.and children))
    (or : ∀ children, (∀ c ∈ children, P c) → P (.or children))
    (not : ∀ operand, P operand → P (.not operand))
    (statusCodeCheck : ∀ value operator, P (.statusCodeCheck value operator))
    (jsonPath : ∀ value operator operand, P (.jsonPath value operator operand))
    (headerCheck : ∀ keyOp keyOperand valueOp valueOperand,
      P (.headerCheck keyOp keyOperand valueOp valueOperand)) (op : Op lib) : P op :=
  @Op.rec lib P (fun cs => ∀ c ∈ cs, P c) and or not statusCodeCheck jsonPath headerCheck
    (fun _ h => (List.not_mem_nil h).elim)
    (fun _ _ hc hcs => List.forall_mem_cons.mpr ⟨hc, hcs⟩) op

/-- The verdict of a leaf on a response. -/
def Leaf.ask (response : Response) : Leaf lib → Meter RuntimeError Bool
  | .statusCodeCheck value operator => evalStatusCodeCheck value operator response
  | .jsonPath value operator operand => evalJsonPath value operator operand response
  | .headerCheck keyOp keyOperand valueOp valueOperand =>
    evalHeaderCheck keyOp keyOperand valueOp valueOperand response.headers

/-- The path of a verdict, as a reason. -/
def EvalPath.reason : EvalPath → Reason
  | .leaf => .leaf
  | .allChildren => .allChildren
  | .childIndex index child => .childIndex index child.reason

theorem EvalPath.reason_inj {p q : EvalPath} : p.reason = q.reason ↔ p = q := by
  refine ⟨?_, fun h => congrArg _ h⟩
  intro h
  induction p generalizing q with
  | leaf =>
    cases q with
    | leaf => rfl
    | _ => cases h
  | allChildren =>
    cases q with
    | allChildren => rfl
    | _ => cases h
  | childIndex index child ih =>
    cases q with
    | childIndex index' child' =>
      simp only [reason, Reason.childIndex.injEq] at h
      rw [h.1, ih h.2]
    | _ => cases h

theorem EvalPath.reason_surjective : ∀ r : Reason, ∃ p : EvalPath, p.reason = r
  | .leaf => ⟨.leaf, rfl⟩
  | .allChildren => ⟨.allChildren, rfl⟩
  | .childIndex index child => by
    obtain ⟨p, hp⟩ := reason_surjective child
    exact ⟨.childIndex index p, by rw [reason, hp]⟩

/-- The path of a verdict with this reason. -/
def EvalPath.ofReason : Reason → EvalPath
  | .leaf => .leaf
  | .allChildren => .allChildren
  | .childIndex index child => .childIndex index (ofReason child)

theorem EvalPath.ofReason_reason (p : EvalPath) : ofReason p.reason = p := by
  induction p with
  | leaf => rfl
  | allChildren => rfl
  | childIndex index child ih => rw [reason, ofReason, ih]

/-! ## Evaluation -/

/-- A run of the evaluator and a run of the formula come to the same: value, reason and gas, the
path being the given one again, or the same error. -/
inductive Agrees (path : List UInt32) :
    Except RuntimeError ((Bool × Reason) × Nat) →
    EStateM.Result RuntimeError EvalState EvalResult → Prop where
  | ok (e : EvalResult) (gas : Nat) :
    Agrees path (.ok ((e.result, e.reasonPath.reason), gas)) (.ok e ⟨gas, path⟩)
  | error (e : RuntimeError) (s : EvalState) : Agrees path (.error e) (.error e s)

/-- The verdict of a leaf labelled with its path; an error comes with the path. -/
def Leaf.askAt (response : Response) (leaf : List Nat × Leaf lib) :
    Meter (List UInt32 × RuntimeError) Bool := fun gas =>
  (leaf.2.ask response gas).mapError fun e => (leaf.1.map UInt32.ofNat, e)

/-- A run of the evaluator and a run of the formula with its paths come to the same: value, reason
and gas, the path being the given one again, or the same error with the path it left. -/
inductive Traced (path : List UInt32) :
    Except (List UInt32 × RuntimeError) ((Bool × Reason) × Nat) →
    EStateM.Result RuntimeError EvalState EvalResult → Prop where
  | ok (e : EvalResult) (gas : Nat) :
    Traced path (.ok ((e.result, e.reasonPath.reason), gas)) (.ok e ⟨gas, path⟩)
  | error (e : RuntimeError) (s : EvalState) : Traced path (.error (s.path, e)) (.error e s)

private theorem Traced.bind {path path' : List UInt32}
    {m : Meter (List UInt32 × RuntimeError) (Bool × Reason)}
    {f : Bool × Reason → Meter (List UInt32 × RuntimeError) (Bool × Reason)} {x : EvalM EvalResult}
    {k : EvalResult → EvalM EvalResult} {gas : Nat} {s : EvalState}
    (h : Traced path (m gas) (x s))
    (hk : ∀ e gas', Traced path' (f (e.result, e.reasonPath.reason) gas') (k e ⟨gas', path⟩)) :
    Traced path' ((m >>= f) gas) ((x >>= k) s) := by
  rw [bind_apply]
  show Traced path' _ (EStateM.bind x k s)
  unfold EStateM.bind
  generalize m gas = r, x s = r' at h
  cases h with
  | ok e gas' => exact hk e gas'
  | error e s' => exact .error e s'

/-- A node that only enters and leaves: the path is as before. -/
private theorem Traced.node {idx : UInt32}
    {m : Meter (List UInt32 × RuntimeError) (Bool × Reason)} {x : EvalM EvalResult} {s : EvalState}
    (h : Traced (s.path ++ [idx]) (m s.gas) (x ⟨s.gas, s.path ++ [idx]⟩)) :
    Traced s.path (m s.gas) ((do pushPath idx; let e ← x; popPath; return e : EvalM _) s) := by
  show Traced s.path _ ((x >>= fun e => do popPath; return e) ⟨s.gas, s.path ++ [idx]⟩)
  rw [← bind_pure m]
  apply h.bind
  intro e gas'
  show Traced s.path _ (.ok e ⟨gas', (s.path ++ [idx]).dropLast⟩)
  rw [List.dropLast_concat]
  exact .ok e gas'

/-- A leaf draws on the gas as its own evaluation does. -/
private theorem traced_leaf {path : List Nat} {idx : UInt32} {s : EvalState} (response : Response)
    (leaf : Leaf lib) (hpath : path.map UInt32.ofNat = s.path ++ [idx]) :
    Traced s.path ((Formula.leaf (path, leaf)).eval (Leaf.askAt response) s.gas)
      ((do
        pushPath idx
        let e := EvalResult.leaf (← charge (leaf.ask response))
        popPath
        return e : EvalM _) s) := by
  show Traced s.path _ (EStateM.bind (charge (leaf.ask response)) _ ⟨s.gas, s.path ++ [idx]⟩)
  rw [Formula.eval, bind_apply]
  unfold EStateM.bind charge Leaf.askAt
  rw [hpath]
  cases leaf.ask response s.gas with
  | ok p =>
    show Traced s.path _ (.ok (.leaf p.1) ⟨p.2, (s.path ++ [idx]).dropLast⟩)
    rw [List.dropLast_concat]
    exact .ok (.leaf p.1) p.2
  | error e => exact .error e ⟨s.gas, s.path ++ [idx]⟩

/-- The loop of a conjunction is the evaluation of a gate with unit true. -/
private theorem evalAnd_traced (response : Response) {children : List (Op lib)}
    (ih : ∀ c ∈ children, ∀ (idx : UInt32) (s : EvalState) (path : List Nat),
      path.map UInt32.ofNat = s.path ++ [idx] →
      Traced s.path ((c.formula.locate path).eval (Leaf.askAt response) s.gas)
        (c.eval response idx s))
    (index : Nat) (s : EvalState) {path : List Nat} (hpath : path.map UInt32.ofNat = s.path) :
    Traced s.path
      (Formula.evalList (Leaf.askAt response) true index
        (locateList path index (Op.formulaList children)) s.gas)
      (Op.evalAnd response index children s) := by
  induction children generalizing index s with
  | nil => exact .ok EvalResult.andNode s.gas
  | cons c cs ihs =>
    obtain ⟨ihc, ihcs⟩ := List.forall_mem_cons.mp ih
    rw [Op.formulaList, locateList, Formula.evalList, Op.evalAnd]
    have hc := ihc (UInt32.ofNat index) s (path ++ [index])
      (by rw [List.map_append, hpath, List.map_singleton])
    apply hc.bind
    intro e gas
    cases hr : e.result with
    | true => exact ihs ihcs (index + 1) ⟨gas, s.path⟩ hpath
    | false => exact .ok (.childIdx index false e.reasonPath) gas

/-- The loop of a disjunction is the evaluation of a gate with unit false. -/
private theorem evalOr_traced (response : Response) {children : List (Op lib)}
    (ih : ∀ c ∈ children, ∀ (idx : UInt32) (s : EvalState) (path : List Nat),
      path.map UInt32.ofNat = s.path ++ [idx] →
      Traced s.path ((c.formula.locate path).eval (Leaf.askAt response) s.gas)
        (c.eval response idx s))
    (index : Nat) (s : EvalState) {path : List Nat} (hpath : path.map UInt32.ofNat = s.path) :
    Traced s.path
      (Formula.evalList (Leaf.askAt response) false index
        (locateList path index (Op.formulaList children)) s.gas)
      (Op.evalOr response index children s) := by
  induction children generalizing index s with
  | nil => exact .ok EvalResult.orNode s.gas
  | cons c cs ihs =>
    obtain ⟨ihc, ihcs⟩ := List.forall_mem_cons.mp ih
    rw [Op.formulaList, locateList, Formula.evalList, Op.evalOr]
    have hc := ihc (UInt32.ofNat index) s (path ++ [index])
      (by rw [List.map_append, hpath, List.map_singleton])
    apply hc.bind
    intro e gas
    cases hr : e.result with
    | false => exact ihs ihcs (index + 1) ⟨gas, s.path⟩ hpath
    | true => exact .ok (.childIdx index true e.reasonPath) gas

/-- Evaluating a node is evaluating its formula, an error leaving the path of the leaf it comes
from. -/
theorem Op.eval_traced (response : Response) (op : Op lib) (idx : UInt32) (s : EvalState)
    (path : List Nat) (hpath : path.map UInt32.ofNat = s.path ++ [idx]) :
    Traced s.path ((op.formula.locate path).eval (Leaf.askAt response) s.gas)
      (op.eval response idx s) := by
  induction op using Op.induct generalizing idx s path with
  | and children ih =>
    rw [Op.formula, locate, Formula.eval, Op.eval]
    exact .node (evalAnd_traced response ih 0 ⟨s.gas, s.path ++ [idx]⟩ hpath)
  | or children ih =>
    rw [Op.formula, locate, Formula.eval, Op.eval]
    exact .node (evalOr_traced response ih 0 ⟨s.gas, s.path ++ [idx]⟩ hpath)
  | not operand ih =>
    rw [Op.formula, locate, Formula.eval, Op.eval]
    have ho := ih 0 ⟨s.gas, s.path ++ [idx]⟩ (path ++ [0])
      (by rw [List.map_append, hpath, List.map_singleton]; rfl)
    apply ho.bind
    intro e gas
    show Traced s.path _ (.ok (.childIdx 0 (!e.result) e.reasonPath)
      ⟨gas, (s.path ++ [idx]).dropLast⟩)
    rw [List.dropLast_concat]
    exact .ok (.childIdx 0 (!e.result) e.reasonPath) gas
  | statusCodeCheck value operator => exact traced_leaf response _ hpath
  | jsonPath value operator operand => exact traced_leaf response _ hpath
  | headerCheck keyOp keyOperand valueOp valueOperand => exact traced_leaf response _ hpath

/-- Without the paths, the leaves answer as before. -/
theorem eval_askAt (response : Response) (t : Formula (Leaf lib)) (path : List Nat) (gas : Nat) :
    ((t.locate path).eval (Leaf.askAt response) gas).mapError Prod.snd =
      t.eval (Leaf.ask response) gas := by
  have hask : (fun (leaf : List Nat × Leaf lib) gas =>
      (Leaf.askAt response leaf gas).mapError Prod.snd) = fun leaf => leaf.2.ask response := by
    funext leaf gas
    unfold Leaf.askAt
    cases leaf.2.ask response gas <;> rfl
  rw [← eval_mapError, hask, ← eval_map, map_snd_locate]

/-- Evaluating a node is evaluating its formula. -/
theorem Op.eval_agrees (response : Response) (op : Op lib) (idx : UInt32) (s : EvalState) :
    Agrees s.path (op.formula.eval (Leaf.ask response) s.gas) (op.eval response idx s) := by
  let path := (s.path ++ [idx]).map UInt32.toNat
  have hpath : path.map UInt32.ofNat = s.path ++ [idx] := by
    rw [List.map_map]
    exact (List.map_congr_left fun i _ => UInt32.ofNat_toNat).trans (List.map_id _)
  have h := op.eval_traced response idx s path hpath
  rw [← eval_askAt response op.formula path]
  generalize (op.formula.locate path).eval (Leaf.askAt response) s.gas = r,
    op.eval response idx s = r' at h
  cases h with
  | ok e gas => exact .ok e gas
  | error e s' => exact .error e s'

/-- What an assertion answers is what its formula answers, an error being stamped with the path of
the leaf it comes from. -/
theorem Assertion.eval_eq (assertion : Assertion lib) (response : Response) (gas : Nat) :
    assertion.eval response gas =
      match (assertion.root.formula.locate [0]).eval (Leaf.askAt response) gas with
      | .ok (p, _) => .ok ⟨.ofReason p.2, p.1⟩
      | .error (path, e) => .error (e.setPath path) := by
  have h := assertion.root.eval_traced response 0 ⟨gas, []⟩ [0] rfl
  unfold Assertion.eval
  generalize (assertion.root.formula.locate [0]).eval (Leaf.askAt response) gas = r,
    assertion.root.eval response 0 ⟨gas, []⟩ = r' at h
  cases h with
  | ok e gas =>
    simp only [EvalPath.ofReason_reason]
  | error e s => rfl

/-- A node answers what its formula answers, with the gas that leaves and the path it was given. -/
theorem Op.eval_eq_ok_iff {response : Response} {op : Op lib} {idx : UInt32} {s : EvalState}
    {e : EvalResult} {left : Nat} : op.eval response idx s = .ok e ⟨left, s.path⟩ ↔
      op.formula.eval (Leaf.ask response) s.gas = .ok ((e.result, e.reasonPath.reason), left) := by
  have h := op.eval_agrees response idx s
  generalize op.formula.eval (Leaf.ask response) s.gas = r, op.eval response idx s = r' at h
  cases h with
  | ok e' left' =>
    simp [EvalResult.ext_iff, EvalPath.reason_inj, and_comm]
  | error err s' =>
    exact iff_of_false (fun h => by cases h) fun h => by cases h

/-- An assertion answers what its formula answers. -/
theorem Assertion.eval_eq_ok_iff {assertion : Assertion lib} {response : Response} {gas : Nat}
    {e : EvalResult} :
    assertion.eval response gas = .ok e ↔
      ∃ left, assertion.root.formula.eval (Leaf.ask response) gas =
        .ok ((e.result, e.reasonPath.reason), left) := by
  have h := Op.eval_agrees response assertion.root 0 ⟨gas, []⟩
  unfold Assertion.eval
  generalize assertion.root.formula.eval (Leaf.ask response) gas = r,
    assertion.root.eval response 0 ⟨gas, []⟩ = r' at h
  cases h with
  | ok e' left => simp [EvalResult.ext_iff, EvalPath.reason_inj, and_comm]
  | error err s => simp

/-- What an evaluation means. It answers exactly if the leaves that a left-to-right short-circuit
reader needs answer, each asked with the gas the ones before it left: there are verdicts for all
leaves of the tree under which those reached are the ones asked, and the answer is the value of the
tree with its reason. No other leaf is asked: an answer comes with the gas that the leaves reached
left, whatever the verdicts of the others, and the reason path certifies the value. -/
theorem Assertion.eval_means {assertion : Assertion lib} {response : Response} {gas : Nat}
    {e : EvalResult} :
    (assertion.eval response gas = .ok e ↔
      ∃ (t : Formula (Leaf lib × Bool)) (left : Nat), t.map Prod.fst = assertion.root.formula ∧
        Ran (Leaf.ask response) gas t.reached left ∧
        e.result = t.value ∧ e.reasonPath.reason = t.reason) ∧
    (assertion.eval response gas = .ok e →
      ∀ (t : Formula (Leaf lib × Bool)) (left : Nat), t.map Prod.fst = assertion.root.formula →
        Ran (Leaf.ask response) gas t.reached left →
        assertion.root.eval response 0 ⟨gas, []⟩ = .ok e ⟨left, []⟩ ∧
        e.result = t.value ∧ Certifies e.reasonPath.reason t) := by
  rw [Assertion.eval_eq_ok_iff]
  refine ⟨⟨?_, ?_⟩, ?_⟩
  · rintro ⟨left, hf⟩
    obtain ⟨t, ht, hrun⟩ := ran_of_eval hf
    rw [← ht, eval_of_ran hrun] at hf
    obtain ⟨hvalue, hreason⟩ := Prod.mk.inj (Prod.mk.inj (Except.ok.inj hf)).1
    exact ⟨t, left, ht, hrun, hvalue.symm, hreason.symm⟩
  · rintro ⟨t, left, ht, hrun, hvalue, hreason⟩
    refine ⟨left, ?_⟩
    rw [← ht, eval_of_ran hrun, hvalue, hreason]
  · rintro ⟨left, hf⟩ t left' ht hrun
    have ht' := eval_of_ran hrun
    rw [ht, hf] at ht'
    obtain ⟨hanswer, rfl⟩ := Prod.mk.inj (Except.ok.inj ht')
    obtain ⟨hvalue, hreason⟩ := Prod.mk.inj hanswer
    exact ⟨Op.eval_eq_ok_iff.mpr hf, hvalue, hreason ▸ certifies_reason t⟩

/-- Libraries that know patterns without wildcards, the query `$`, and no JSON but the empty body
there is none in. -/
def plainExternals : Externals where
  Pattern := String
  buildPattern text _ := .ok text
  isMatch pattern text := pattern == text
  JpQuery := Unit
  parseJsonPath text _ := if text = "$" then .ok () else .error (.other "unsupported query")
  jsPathProcess _ doc := pure [doc]
  displayJsonPathError _ := "unsupported query"
  fromSlice _ := .error "EOF while parsing a value at line 1 column 0"
  displayJson _ := "null"

/-- "The status is not 500, and it is neither 200 nor below 100", compiled. -/
def notTwoHundred : Assertion plainExternals :=
  ⟨.and [.statusCodeCheck 500 .notEqual,
    .not (.or [.statusCodeCheck 200 .equal, .statusCodeCheck 100 .lessThan])]⟩

/-- The status is 200: the first leaf passes, the second decides, and the third is not asked. -/
theorem eval_means_notTwoHundred :
    (∃ (t : Formula (Leaf plainExternals × Bool)) (left : Nat),
      t.map Prod.fst = notTwoHundred.root.formula ∧
        Ran (Leaf.ask ⟨200, [], []⟩) 10 t.reached left ∧ false = t.value ∧
        .childIndex 1 (.childIndex 0 (.childIndex 0 .leaf)) = t.reason) ∧
    ∀ (t : Formula (Leaf plainExternals × Bool)) (left : Nat),
      t.map Prod.fst = notTwoHundred.root.formula →
      Ran (Leaf.ask ⟨200, [], []⟩) 10 t.reached left →
      notTwoHundred.root.eval ⟨200, [], []⟩ 0 ⟨10, []⟩ =
        .ok ⟨.childIndex 1 (.childIndex 0 (.childIndex 0 .leaf)), false⟩ ⟨left, []⟩ ∧
      false = t.value ∧
        Certifies (.childIndex 1 (.childIndex 0 (.childIndex 0 .leaf))) t := by
  have h := @Assertion.eval_means plainExternals notTwoHundred ⟨200, [], []⟩ 10
    ⟨.childIndex 1 (.childIndex 0 (.childIndex 0 .leaf)), false⟩
  exact ⟨h.1.mp rfl, h.2 rfl⟩

end Compiled

end UptimeChecker.Assertions
