import UptimeChecker.Laws.Assertions.Compile

/-!
# The errors of an evaluation

An evaluation that fails does so at a leaf. Two laws say what its error tells.

Gas has a threshold: below it the evaluation runs out, from it on it answers one and the same. That
holds as long as no query sets a result that is no string against a glob (`gas_threshold_iff`),
which answers the error of a run out of gas whatever the gas.

The error names the node it comes from, unless it is that same error: the stamp of
`RuntimeError.setPath` passes it over, and it names no node at all (`error_path_iff`).
-/

namespace UptimeChecker.Assertions.Compiled

open Metered Formula

variable {lib : Externals}

/-- The path an error carries, for the variants that have the field. -/
def RuntimeError.assertPath : RuntimeError → Option (List UInt32)
  | invalidJsonPath assertPath _ => some assertPath
  | tookTooLong assertPath => some assertPath
  | invalidJsonBody _ => none
  | invalidTypeComparison assertPath _ => some assertPath

/-- The verdict of a leaf labelled with its path; an error is stamped with the path. -/
def Leaf.stamped (response : Response) (leaf : List Nat × Leaf lib) : Meter RuntimeError Bool :=
  fun gas => (Leaf.askAt response leaf gas).mapError fun p => p.2.setPath p.1

/-- An assertion answers what its formula answers over the stamped leaves. -/
theorem Assertion.eval_stamped (assertion : Assertion lib) (response : Response) (gas : Nat) :
    assertion.eval response gas =
      ((assertion.root.formula.locate [0]).eval (Leaf.stamped response) gas).map fun p =>
        ⟨.ofReason p.1.2, p.1.1⟩ := by
  rw [Assertion.eval_eq]
  have h := eval_mapError (Leaf.askAt response) (fun p => p.2.setPath p.1)
    (assertion.root.formula.locate [0]) gas
  rw [show Formula.eval (Leaf.stamped response) _ gas = _ from h]
  cases (assertion.root.formula.locate [0]).eval (Leaf.askAt response) gas <;> rfl

/-- A stamped leaf costs what the leaf does. -/
theorem Leaf.costs_stamped {response : Response} {leaf : List Nat × Leaf lib} {cost : Nat}
    {r : Except RuntimeError Bool} (h : Costs (.tookTooLong []) (leaf.2.ask response) cost r) :
    Costs (.tookTooLong []) (Leaf.stamped response leaf) cost
      (r.mapError (RuntimeError.setPath (leaf.1.map UInt32.ofNat))) := by
  have hboth := (h.mapError fun e => (leaf.1.map UInt32.ofNat, e)).mapError fun p => p.2.setPath p.1
  cases r <;> exact hboth

theorem Leaf.priced_stamped (fixed : FixedCost lib) (response : Response)
    (leaf : List Nat × Leaf lib) : Priced (.tookTooLong []) (Leaf.stamped response leaf) := by
  obtain ⟨cost, r, hcost⟩ := leaf.2.priced_ask fixed response
  exact ⟨cost, _, Leaf.costs_stamped hcost⟩

/-! ## The threshold -/

/-- There is a budget below which an evaluation runs out of gas, and from which on it answers one
outcome that is not the lack of gas. -/
def GasThreshold (assertion : Assertion lib) (response : Response) : Prop :=
  ∃ threshold outcome,
    (∀ gas, gas < threshold → ∃ path, assertion.eval response gas = .error (.tookTooLong path)) ∧
    (∀ gas, threshold ≤ gas → assertion.eval response gas = outcome) ∧
    ∀ path, outcome ≠ .error (.tookTooLong path)

/-- Given that queries have exact costs, gas has a threshold if and only if the evaluation comes, at
no budget, to a query one of whose results is no string and set against a glob. -/
theorem gas_threshold_iff (exact : ExactCost lib) (assertion : Assertion lib)
    (response : Response) :
    GasThreshold assertion response ↔
      ∀ gas path leaf left,
        Comes (Leaf.askAt response) (assertion.root.formula.locate [0]) gas (path, leaf) left →
        ¬ leaf.MeetsNonString response := by
  have hpriced := Leaf.priced_stamped exact.fixedCost response
  constructor
  · rintro ⟨threshold, outcome, -, habove, houtcome⟩ gas path leaf left hcomes hmeets
    obtain ⟨left', hcomes'⟩ :=
      (comes_mapError_iff.mpr hcomes).mono hpriced (Nat.le_max_left gas threshold)
    have hask : Leaf.stamped response (path, leaf) left' = .error (.tookTooLong []) := by
      unfold Leaf.stamped Leaf.askAt
      rw [Leaf.ask_meetsNonString exact.fixedCost hmeets]
      rfl
    have heval := eval_eq_error_iff.mpr ⟨_, _, hcomes', hask⟩
    apply houtcome []
    rw [← habove _ (Nat.le_max_right gas threshold), Assertion.eval_stamped]
    rw [show Formula.eval (Leaf.stamped response) _ _ = _ from heval]
    rfl
  · intro hnone
    obtain ⟨cost, r, hcost, hfails⟩ := costs_eval hpriced (assertion.root.formula.locate [0])
    refine ⟨cost, r.map fun p => ⟨.ofReason p.2, p.1⟩, ?_, ?_, ?_⟩
    · intro gas hgas
      rw [Assertion.eval_stamped, hcost gas, if_pos hgas]
      exact ⟨[], rfl⟩
    · intro gas hgas
      rw [Assertion.eval_stamped, hcost gas, if_neg (Nat.not_lt.mpr hgas)]
      cases r <;> rfl
    · intro path houtcome
      cases r with
      | ok p => cases houtcome
      | error e =>
        cases houtcome
        obtain ⟨⟨node, leaf⟩, price, hprice, hcomes⟩ := hfails _ rfl
        obtain ⟨left, -, hc⟩ := hcomes cost (Nat.le_refl _)
        have hmeets := hnone cost node leaf left (comes_mapError_iff.mp hc)
        obtain ⟨price', r', hprice', hr'⟩ := Leaf.answers_ask exact hmeets
        have hstamped := @Leaf.costs_stamped lib response (node, leaf) _ _ hprice'
        have hsame := hstamped.outcome_unique hprice
        cases r' with
        | ok b => cases hsame
        | error e' =>
          apply hr' e' rfl
          cases e' with
          | tookTooLong p => exact ⟨p, rfl⟩
          | _ => cases hsame

/-- Libraries that know patterns without wildcards, the query `$`, and the JSON text `true`. -/
def trueExternals : Externals :=
  { plainExternals with
    fromSlice body := if body = [116, 114, 117, 101] then .ok (.bool true)
      else .error "expected value at line 1 column 1"
    displayJson _ := "true" }

theorem exactCost_trueExternals : ExactCost trueExternals := fun _ doc => settles_pure [doc]

/-- "The body is the text x", compiled: a query whose result is set against a glob. -/
def bodyMatches : Assertion trueExternals := ⟨.jsonPath () .equal (.glob "x")⟩

/-- On the body `true` it answers the lack of gas, whatever the gas. -/
theorem bodyMatches_tookTooLong (gas : Nat) :
    bodyMatches.eval ⟨200, [], [116, 114, 117, 101]⟩ gas = .error (.tookTooLong []) := by
  have hmeets : Leaf.MeetsNonString ⟨200, [], [116, 114, 117, 101]⟩
      (.jsonPath () .equal (.glob "x") : Leaf trueExternals) :=
    ⟨.bool true, [.bool true], rfl, ⟨0, 0, rfl⟩, [], .bool true, [], rfl,
      fun b hb => (List.not_mem_nil hb).elim, .inl rfl, ⟨"x", rfl⟩, rfl⟩
  have hask := Leaf.ask_meetsNonString exactCost_trueExternals.fixedCost hmeets gas
  have hstamped : Leaf.stamped ⟨200, [], [116, 114, 117, 101]⟩
      ([0], (.jsonPath () .equal (.glob "x") : Leaf trueExternals)) gas =
        .error (.tookTooLong []) := by
    unfold Leaf.stamped Leaf.askAt
    rw [hask]
    rfl
  have heval : (bodyMatches.root.formula.locate [0]).eval (Leaf.stamped _) gas = _ :=
    eval_eq_error_iff.mpr ⟨_, gas, .leaf _ gas, hstamped⟩
  rw [Assertion.eval_stamped, heval]
  rfl

theorem no_gas_threshold : ¬ ∀ (lib : Externals), ExactCost lib →
    ∀ (assertion : Assertion lib) (response : Response), GasThreshold assertion response := by
  intro h
  obtain ⟨threshold, outcome, -, habove, houtcome⟩ :=
    h trueExternals exactCost_trueExternals bodyMatches ⟨200, [], [116, 114, 117, 101]⟩
  apply houtcome []
  rw [← habove threshold (Nat.le_refl _), bodyMatches_tookTooLong]

/-- Libraries that know patterns without wildcards, the query `$`, and the JSON text `"up"`. -/
def upExternals : Externals :=
  { plainExternals with
    fromSlice body := if body = [34, 117, 112, 34] then .ok (.string "up")
      else .error "expected value at line 1 column 1"
    displayJson _ := "\"up\"" }

/-- "The status is not 500, and it is not so that the body is another text than up", compiled: the
one result of the query is a string, set against a glob. -/
def bodyIsUp : Assertion upExternals :=
  ⟨.and [.statusCodeCheck 500 .notEqual, .not (.jsonPath () .notEqual (.glob "up"))]⟩

theorem gas_threshold_bodyIsUp : GasThreshold bodyIsUp ⟨200, [], [34, 117, 112, 34]⟩ := by
  have exact : ExactCost upExternals := fun _ doc => settles_pure [doc]
  apply (gas_threshold_iff exact bodyIsUp ⟨200, [], [34, 117, 112, 34]⟩).mpr
  intro gas path leaf left hcomes hmeets
  have hleaves : (bodyIsUp.root.formula.locate [0]).leaves =
      [([0, 0], .statusCodeCheck 500 .notEqual),
        ([0, 1, 0], .jsonPath () .notEqual (.glob "up"))] := rfl
  have hmem := hcomes.mem_leaves
  rw [hleaves] at hmem
  simp only [List.mem_cons, List.not_mem_nil, Prod.mk.injEq, or_false] at hmem
  rcases hmem with ⟨-, rfl⟩ | ⟨-, rfl⟩
  · exact hmeets
  · obtain ⟨json, result, hjson, ⟨gas', left', hquery⟩, hmeets⟩ := hmeets
    obtain ⟨before, v, after, hresult, -, -, -, htext⟩ := hmeets
    cases hjson
    cases hquery
    have hv : v ∈ [Json.string "up"] := hresult ▸ List.mem_append_right _ List.mem_cons_self
    cases List.mem_singleton.mp hv
    cases htext

/-! ## The path -/

/-- A leaf that runs out of gas, or says so, names no node. -/
theorem Leaf.tookTooLong_path {response : Response} {leaf : Leaf lib} {gas : Nat}
    {path : List UInt32} (h : leaf.ask response gas = .error (.tookTooLong path)) : path = [] := by
  cases leaf with
  | statusCodeCheck value operator =>
    exact Compiled.tookTooLong_path ((settles_consume 1).bind fun _ _ => settles_pure _) h
  | headerCheck keyOp keyOperand valueOp valueOperand =>
    exact Compiled.tookTooLong_path
      (answers_evalHeaderCheck keyOp keyOperand valueOp valueOperand response.headers) h
  | jsonPath value operator operand =>
    rcases bind_eq_error_iff.mp h with hbody | ⟨json, g, -, hrest⟩
    · unfold answer at hbody
      cases hb : lib.fromSlice response.body <;> rw [hb] at hbody <;> cases hbody
    rcases bind_eq_error_iff.mp hrest with hquery | ⟨result, g', -, heval⟩
    · unfold jsPathProcess at hquery
      cases hq : lib.jsPathProcess value json g with
      | ok p =>
        rw [hq] at hquery
        cases hquery
      | error e =>
        rw [hq] at hquery
        cases e <;> cases hquery
        rfl
    · exact JSONPathOperand.tookTooLong_path heval

/-- The indices on the path of a node fit the type of an error's path, in a tree that was compiled
within a budget. -/
theorem toNat_path_of_compile {a : Assertions.Assertion} {maxOps : UInt32}
    {assertion : Assertion lib} (h : compile lib a maxOps.toNat = .ok assertion) {node : List Nat}
    {leaf : Leaf lib} (hleaf : (node, leaf) ∈ (assertion.root.formula.locate [0]).leaves) :
    (node.map UInt32.ofNat).map UInt32.toNat = node := by
  obtain ⟨heq, hle⟩ := size_of_compile h
  obtain ⟨k, hk⟩ := List.mem_iff_getElem?.mp (mem_nodes_of_mem_leaves hleaf)
  have hlt : k < assertion.root.formula.size := by
    rw [← length_nodes _ [0]]
    exact (List.getElem?_eq_some_iff.mp hk).1
  exact toNat_path hk (Nat.lt_trans (Nat.lt_of_lt_of_le hlt (heq ▸ hle)) maxOps.toNat_lt)

/-- An error that carries a path names the node whose evaluation raised it: a leaf the evaluation
comes to, labelled with the path from the root. -/
def ErrorNamesNode (assertion : Assertion lib) (response : Response) (gas : Nat) : Prop :=
  ∀ e path, assertion.eval response gas = .error e → e.assertPath = some path →
    ∃ node leaf left raised,
      Comes (Leaf.askAt response) (assertion.root.formula.locate [0]) gas (node, leaf) left ∧
      leaf.ask response left = .error raised ∧ e = raised.setPath path ∧
      path.map UInt32.toNat = node

/-- The errors of a compiled assertion name their nodes if and only if no leaf the evaluation comes
to answers the lack of gas. -/
theorem error_path_iff {a : Assertions.Assertion} {maxOps : UInt32} {assertion : Assertion lib}
    (h : compile lib a maxOps.toNat = .ok assertion) (response : Response) (gas : Nat) :
    ErrorNamesNode assertion response gas ↔
      ∀ node leaf left path,
        Comes (Leaf.askAt response) (assertion.root.formula.locate [0]) gas (node, leaf) left →
        leaf.ask response left ≠ .error (.tookTooLong path) := by
  constructor
  · intro hnames node leaf left path hcomes hask
    cases leaf.tookTooLong_path hask
    have hat : Leaf.askAt response (node, leaf) left =
        .error (node.map UInt32.ofNat, .tookTooLong []) := by
      unfold Leaf.askAt
      rw [hask]
      rfl
    have heval : assertion.eval response gas = .error (.tookTooLong []) := by
      rw [Assertion.eval_eq, eval_eq_error_iff.mpr ⟨_, _, hcomes, hat⟩]
      rfl
    obtain ⟨node', leaf', left', raised, hcomes', -, -, hnode⟩ := hnames _ [] heval rfl
    obtain ⟨k, hk⟩ := List.mem_iff_getElem?.mp (mem_nodes_of_mem_leaves hcomes'.mem_leaves)
    obtain ⟨rest, rfl, -⟩ := nodes_path hk
    cases hnode
  · intro hgas e path heval hpath
    rw [Assertion.eval_eq] at heval
    cases hf : (assertion.root.formula.locate [0]).eval (Leaf.askAt response) gas with
    | ok p =>
      rw [hf] at heval
      cases heval
    | error p =>
      obtain ⟨at', raised⟩ := p
      rw [hf] at heval
      cases heval
      obtain ⟨⟨node, leaf⟩, left, hcomes, hat⟩ := eval_eq_error_iff.mp hf
      unfold Leaf.askAt at hat
      cases hask : leaf.ask response left with
      | ok b =>
        rw [hask] at hat
        cases hat
      | error raised' =>
        rw [hask] at hat
        cases hat
        refine ⟨node, leaf, left, raised, hcomes, hask, ?_, ?_⟩
        · cases raised <;> cases hpath <;> rfl
        · cases raised with
          | tookTooLong p => exact (hgas node leaf left p hcomes hask).elim
          | invalidJsonBody body => cases hpath
          | invalidJsonPath p msg =>
            cases hpath
            exact toNat_path_of_compile h hcomes.mem_leaves
          | invalidTypeComparison p msg =>
            cases hpath
            exact toNat_path_of_compile h hcomes.mem_leaves

/-- "The status is 200", as a user writes it. -/
def twoHundredSource : Assertions.Assertion := ⟨.statusCodeCheck 200 .equals⟩

def twoHundred : Assertion plainExternals := ⟨.statusCodeCheck 200 .equal⟩

theorem error_without_path : ¬ ∀ (lib : Externals) (a : Assertions.Assertion) (maxOps : UInt32)
    (assertion : Assertion lib), compile lib a maxOps.toNat = .ok assertion →
    ∀ (response : Response) (gas : Nat), ErrorNamesNode assertion response gas := by
  intro h
  obtain ⟨node, leaf, left, raised, hcomes, -, -, hnode⟩ :=
    h plainExternals twoHundredSource 1 twoHundred rfl ⟨200, [], []⟩ 0 (.tookTooLong []) [] rfl rfl
  have hmem : (node, leaf) ∈ [([0], _)] := hcomes.mem_leaves
  cases List.mem_singleton.mp hmem
  cases hnode

/-- "The status is 200, and neither is it 500 nor is the body less than 5", as a user writes it. -/
def notLessSource : Assertions.Assertion :=
  ⟨.and [.statusCodeCheck 200 .equals,
    .not (.or [.statusCodeCheck 500 .equals, .jsonPath "$" .lessThan (.literal "5")])]⟩

def notLess : Assertion trueExternals :=
  ⟨.and [.statusCodeCheck 200 .equal,
    .not (.or [.statusCodeCheck 500 .equal, .jsonPath () .lessThan (.literal "5")])]⟩

/-- On the body `true` the query below the negation raises a type error, which names its node. -/
theorem error_path_notLess :
    notLess.eval ⟨200, [], [116, 114, 117, 101]⟩ 10 = .error (.invalidTypeComparison [0, 1, 0, 1]
      "could not coerce a comparison between true and 5") ∧
    ErrorNamesNode notLess ⟨200, [], [116, 114, 117, 101]⟩ 10 := by
  refine ⟨rfl, ?_⟩
  apply (@error_path_iff trueExternals notLessSource 6 notLess rfl
    ⟨200, [], [116, 114, 117, 101]⟩ 10).mpr
  intro node leaf left path hcomes hask
  have hat : Leaf.askAt ⟨200, [], [116, 114, 117, 101]⟩ (node, leaf) left =
      .error (node.map UInt32.ofNat, .tookTooLong path) := by
    unfold Leaf.askAt
    rw [hask]
    rfl
  have heval : (notLess.root.formula.locate [0]).eval
      (Leaf.askAt ⟨200, [], [116, 114, 117, 101]⟩) 10 = .error ([0, 1, 0, 1],
        .invalidTypeComparison [] "could not coerce a comparison between true and 5") := rfl
  have herror := Except.error.inj (heval.symm.trans (eval_eq_error_iff.mpr ⟨_, _, hcomes, hat⟩))
  cases congrArg Prod.snd herror

end UptimeChecker.Assertions.Compiled
