import UptimeChecker.Laws.Assertions.Gas

/-!
# Compilation, and the part of a tree a verdict blames

Compiling keeps books: the compiled tree is the user's, leaf for leaf, and each node took one
operation of the budget (`compileOp_ok`); and a tree whose leaves compile is compiled as long as it
has no more nodes than the budget (`compileOp_of_leaves`). Cutting the blamed part out of the user's
tree is cutting it out of its formula, so that part compiles and fails in the same way on its own.
-/

namespace UptimeChecker.Assertions.Compiled

open Metered Formula

variable {lib : Externals}

/-! ## The part a path leads to -/

/-- Extraction from the user's tree is extraction from its formula. -/
theorem extractFailureData_formula (path : EvalPath) (op : Assertions.Op) :
    (extractFailureData path op).map Assertions.Op.formula = extract path.reason op.formula := by
  induction path generalizing op with
  | leaf => rfl
  | allChildren => rfl
  | childIndex index child ih =>
    have hgate : ∀ (unit : Bool) (children : List Assertions.Op),
        (children[index]?.bind fun c => (extractFailureData child c).map fun s =>
            gate unit [s.formula]) =
          extract (.childIndex index child.reason)
            (gate unit (Assertions.Op.formulaList children)) := by
      intro unit children
      rw [extract, Assertions.Op.formulaList_eq, List.getElem?_map]
      cases children[index]? with
      | none => rfl
      | some c =>
        simp only [Option.map_some, Option.bind_some, ← ih, Option.map_map]
        rfl
    cases op with
    | and children =>
      rw [extractFailureData, EvalPath.reason, Assertions.Op.formula, ← hgate, Option.map_bind]
      simp only [Function.comp_def, Option.map_map]
      rfl
    | or children =>
      rw [extractFailureData, EvalPath.reason, Assertions.Op.formula, ← hgate, Option.map_bind]
      simp only [Function.comp_def, Option.map_map]
      rfl
    | not operand =>
      rw [extractFailureData, EvalPath.reason, Assertions.Op.formula, extract, ← ih,
        Option.map_map, Option.map_map]
      rfl
    | statusCodeCheck => rfl
    | jsonPath => rfl
    | headerCheck => rfl

/-! ## Compilation -/

/-- Compile a leaf. -/
def compileLeaf (lib : Externals) : Assertions.Leaf → Except CompilationError (Op lib)
  | .statusCodeCheck value operator => .ok (.statusCodeCheck value (.ofSource operator))
  | .jsonPath value operator operand => compileJsonPath lib value operator operand
  | .headerCheck keyOp keyOperand valueOp valueOperand =>
    compileHeaderCheck lib keyOp keyOperand valueOp valueOperand

/-- A leaf of the user's tree compiles to a leaf of the compiled one. -/
def CompilesTo (source : Assertions.Leaf) (target : Leaf lib) : Prop :=
  ∃ op, compileLeaf lib source = .ok op ∧ op.formula = .leaf target

private theorem except_bind_eq_ok {ε α β : Type} {x : Except ε α} {f : α → Except ε β}
    {b : β} (h : x >>= f = .ok b) : ∃ a, x = .ok a ∧ f a = .ok b := by
  cases x with
  | error e => cases h
  | ok a => exact ⟨a, rfl, h⟩

/-- A leaf compiles to a leaf. -/
private theorem compileLeaf_formula {source : Assertions.Leaf} {op : Op lib}
    (h : compileLeaf lib source = .ok op) : ∃ target, op.formula = .leaf target := by
  cases source with
  | statusCodeCheck value operator =>
    cases h
    exact ⟨_, rfl⟩
  | jsonPath value operator operand =>
    obtain ⟨v, _, h⟩ := except_bind_eq_ok h
    obtain ⟨o, _, h⟩ := except_bind_eq_ok h
    cases h
    exact ⟨_, rfl⟩
  | headerCheck keyOp keyOperand valueOp valueOperand =>
    obtain ⟨k, _, h⟩ := except_bind_eq_ok h
    obtain ⟨v, _, h⟩ := except_bind_eq_ok h
    cases h
    exact ⟨_, rfl⟩

private theorem bind_eq_ok_iff {ε σ α β : Type} {x : EStateM ε σ α} {f : α → EStateM ε σ β}
    {s s' : σ} {b : β} :
    (x >>= f) s = .ok b s' ↔ ∃ a mid, x s = .ok a mid ∧ f a mid = .ok b s' := by
  show EStateM.bind x f s = _ ↔ _
  unfold EStateM.bind
  cases hx : x s with
  | ok a mid =>
    refine ⟨fun h => ⟨a, mid, rfl, h⟩, ?_⟩
    intro ⟨_, _, h, h'⟩
    cases h
    exact h'
  | error e mid => simp

/-- A node takes one operation, and leaves the path as its body leaves it, less its own index. -/
private theorem node_eq_ok_iff {α : Type} {x : CompileM α} {f : α → Op lib} {idx : UInt32}
    {s s' : CompileState} {c : Op lib} :
    ((do pushCompilePath idx; decOps; let a ← x; popCompilePath; return f a : CompileM _) s =
      .ok c s') ↔
    0 < s.numOps ∧ ∃ a mid, x ⟨s.numOps - 1, s.path ++ [idx]⟩ = .ok a mid ∧ c = f a ∧
      s' = { mid with path := mid.path.dropLast } := by
  show (decOps >>= fun _ => x >>= fun a => do popCompilePath; return f a)
    ⟨s.numOps, s.path ++ [idx]⟩ = _ ↔ _
  rw [bind_eq_ok_iff]
  constructor
  · rintro ⟨⟨⟩, mid, hdec, hrest⟩
    unfold decOps at hdec
    split at hdec
    · rename_i hpos
      cases hdec
      obtain ⟨a, mid, hx, hr⟩ := bind_eq_ok_iff.mp hrest
      cases hr
      exact ⟨hpos, a, mid, hx, rfl, rfl⟩
    · cases hdec
  · rintro ⟨hpos, a, mid, hx, rfl, rfl⟩
    refine ⟨(), ⟨s.numOps - 1, s.path ++ [idx]⟩, if_pos hpos, ?_⟩
    exact bind_eq_ok_iff.mpr ⟨a, mid, hx, rfl⟩

/-- A node whose body compiles within what is left compiles. -/
private theorem node_of_body {α : Type} {x : CompileM α} (f : α → Op lib) (idx : UInt32)
    {P : α → Prop} {n : Nat} {s : CompileState} (hsize : 1 + n ≤ s.numOps)
    (h : ∀ s₁ : CompileState, n ≤ s₁.numOps →
      ∃ a mid, x s₁ = .ok a mid ∧ P a ∧ mid.numOps + n = s₁.numOps) :
    ∃ a s', (do pushCompilePath idx; decOps; let a ← x; popCompilePath; return f a : CompileM _) s =
      .ok (f a) s' ∧ P a ∧ s'.numOps + (1 + n) = s.numOps := by
  obtain ⟨a, mid, hx, ha, hmid⟩ := h ⟨s.numOps - 1, s.path ++ [idx]⟩ (Nat.le_sub_of_add_le' hsize)
  refine ⟨a, _, node_eq_ok_iff.mpr ⟨by omega, a, mid, hx, rfl, rfl⟩, ha, ?_⟩
  have : mid.numOps + n = s.numOps - 1 := hmid
  show mid.numOps + (1 + n) = s.numOps
  omega

private theorem convert_eq_ok_iff {α : Type} {r : Except CompilationError α} {s s' : CompileState}
    {a : α} : convert r s = .ok a s' ↔ r = .ok a ∧ s' = s := by
  unfold convert
  cases r with
  | error e => simp
  | ok b =>
    simp only [EStateM.Result.ok.injEq, Except.ok.injEq]
    exact and_congr_right fun _ => eq_comm

private theorem visitChildren_cons_eq_ok_iff {idx : Nat} {c : Assertions.Op}
    {rest : List Assertions.Op} {s s' : CompileState} {ops : List (Op lib)} :
    visitChildren lib idx (c :: rest) s = .ok ops s' ↔
      ∃ op mid ops', compileOp lib (UInt32.ofNat idx) c s = .ok op mid ∧
        visitChildren lib (idx + 1) rest mid = .ok ops' s' ∧ ops = op :: ops' := by
  rw [visitChildren, bind_eq_ok_iff]
  constructor
  · intro ⟨op, mid, hop, hrest⟩
    obtain ⟨ops', mid', hops, hr⟩ := bind_eq_ok_iff.mp hrest
    cases hr
    exact ⟨op, mid, ops', hop, hops, rfl⟩
  · rintro ⟨op, mid, ops', hop, hops, rfl⟩
    exact ⟨op, mid, hop, bind_eq_ok_iff.mpr ⟨ops', s', hops, rfl⟩⟩

/-- Compiling a leaf takes one operation and compiles it. -/
private theorem compileOp_leaf_eq_ok_iff {op : Assertions.Op} {source : Assertions.Leaf}
    (hsource : op.formula = .leaf source) {idx : UInt32} {s s' : CompileState} {c : Op lib} :
    compileOp lib idx op s = .ok c s' ↔
      0 < s.numOps ∧ compileLeaf lib source = .ok c ∧ s' = ⟨s.numOps - 1, s.path⟩ := by
  have hleaf : ∀ r : Except CompilationError (Op lib),
      ((do pushCompilePath idx; decOps; let a ← convert r; popCompilePath; return a : CompileM _)
        s = .ok c s') ↔ 0 < s.numOps ∧ r = .ok c ∧ s' = ⟨s.numOps - 1, s.path⟩ := by
    intro r
    refine (node_eq_ok_iff (f := fun a => a)).trans (and_congr_right ?_)
    intro _
    constructor
    · rintro ⟨a, mid, hx, rfl, rfl⟩
      obtain ⟨hr, rfl⟩ := convert_eq_ok_iff.mp hx
      exact ⟨hr, by rw [List.dropLast_concat]⟩
    · rintro ⟨hr, rfl⟩
      exact ⟨c, _, convert_eq_ok_iff.mpr ⟨hr, rfl⟩, rfl, by rw [List.dropLast_concat]⟩
  cases op with
  | statusCodeCheck value operator =>
    cases hsource
    exact hleaf (.ok (.statusCodeCheck value (.ofSource operator)))
  | jsonPath value operator operand =>
    cases hsource
    exact hleaf _
  | headerCheck keyOp keyOperand valueOp valueOperand =>
    cases hsource
    exact hleaf _
  | and children => cases hsource
  | or children => cases hsource
  | not operand => cases hsource

theorem compile_eq_ok_iff {a : Assertions.Assertion} {maxOps : Nat} {c : Assertion lib} :
    compile lib a maxOps = .ok c ↔
      ∃ s, compileOp lib 0 a.root ⟨maxOps, []⟩ = .ok c.root s := by
  unfold compile
  cases h : compileOp lib 0 a.root ⟨maxOps, []⟩ with
  | ok op s =>
    refine ⟨fun hc => ⟨s, by cases hc; rfl⟩, ?_⟩
    intro ⟨s', hs⟩
    cases hs
    rfl
  | error e s => simp

/-- A tree of pairs that is the user's tree on one side and the compiled one on the other, each leaf
of the one compiling to that of the other. -/
structure Joint (source : Formula Assertions.Leaf) (target : Formula (Leaf lib))
    (q : Formula (Assertions.Leaf × Leaf lib)) : Prop where
  fst : q.map Prod.fst = source
  snd : q.map Prod.snd = target
  leaves : ∀ l ∈ q.leaves, CompilesTo l.1 l.2

private theorem Joint.neg {source : Formula Assertions.Leaf} {target : Formula (Leaf lib)}
    {q : Formula (Assertions.Leaf × Leaf lib)} (h : Joint source target q) :
    Joint (.neg source) (.neg target) (.neg q) :=
  ⟨by rw [map, h.fst], by rw [map, h.snd], h.leaves⟩

/-- The children of two trees, joined. -/
structure JointList (sources : List (Formula Assertions.Leaf)) (targets : List (Formula (Leaf lib)))
    (qs : List (Formula (Assertions.Leaf × Leaf lib))) : Prop where
  fst : mapList Prod.fst qs = sources
  snd : mapList Prod.snd qs = targets
  leaves : ∀ l ∈ leavesList qs, CompilesTo l.1 l.2

private theorem JointList.gate {sources : List (Formula Assertions.Leaf)}
    {targets : List (Formula (Leaf lib))} {qs : List (Formula (Assertions.Leaf × Leaf lib))}
    (h : JointList sources targets qs) (unit : Bool) :
    Joint (.gate unit sources) (.gate unit targets) (.gate unit qs) :=
  ⟨by rw [map, h.fst], by rw [map, h.snd], h.leaves⟩

private theorem JointList.cons {source : Formula Assertions.Leaf} {target : Formula (Leaf lib)}
    {sources : List (Formula Assertions.Leaf)} {targets : List (Formula (Leaf lib))}
    {q : Formula (Assertions.Leaf × Leaf lib)} {qs : List (Formula (Assertions.Leaf × Leaf lib))}
    (h : Joint source target q) (hs : JointList sources targets qs) :
    JointList (source :: sources) (target :: targets) (q :: qs) := by
  refine ⟨by rw [mapList, h.fst, hs.fst], by rw [mapList, h.snd, hs.snd], ?_⟩
  intro l hl
  rcases List.mem_append.mp hl with hl | hl
  · exact h.leaves l hl
  · exact hs.leaves l hl

/-- The books of a successful compilation: the trees joined leaf for leaf, one operation taken for
each node, and the path as before. -/
def Books (source : Formula Assertions.Leaf) (target : Formula (Leaf lib)) (s s' : CompileState) :
    Prop :=
  ∃ q, Joint source target q ∧ s'.numOps + q.size = s.numOps ∧ s'.path = s.path

/-- Closing the books of a node over those of what is below it. -/
private theorem books_node {idx : UInt32} {s mid : CompileState} {n : Nat} (hpos : 0 < s.numOps)
    (hsize : mid.numOps + n = (⟨s.numOps - 1, s.path ++ [idx]⟩ : CompileState).numOps)
    (hpath : mid.path = s.path ++ [idx]) :
    mid.numOps + (1 + n) = s.numOps ∧ mid.path.dropLast = s.path := by
  refine ⟨?_, by rw [hpath, List.dropLast_concat]⟩
  have : mid.numOps + n = s.numOps - 1 := hsize
  omega

private theorem books_leaf {op : Assertions.Op} {source : Assertions.Leaf} {idx : UInt32}
    {s s' : CompileState} {c : Op lib} (hsource : op.formula = .leaf source)
    (h : compileOp lib idx op s = .ok c s') : Books op.formula c.formula s s' := by
  obtain ⟨hpos, hc, rfl⟩ := (compileOp_leaf_eq_ok_iff hsource).mp h
  obtain ⟨target, htarget⟩ := compileLeaf_formula hc
  refine ⟨leaf (source, target), ⟨hsource.symm, htarget.symm, ?_⟩, Nat.sub_add_cancel hpos, rfl⟩
  intro l hl
  cases List.mem_singleton.mp hl
  exact ⟨c, hc, htarget⟩

/-- A leaf that compiles is compiled within budget. -/
private theorem compile_leaf_of_leaves {op : Assertions.Op} {source : Assertions.Leaf}
    (hsource : op.formula = .leaf source) {q : Formula (Assertions.Leaf × Leaf lib)}
    (hq : q.map Prod.fst = op.formula) (hleaves : ∀ l ∈ q.leaves, CompilesTo l.1 l.2)
    (idx : UInt32) {s : CompileState} (hsize : q.size ≤ s.numOps) :
    ∃ c s', compileOp lib idx op s = .ok c s' ∧ c.formula = q.map Prod.snd ∧
      s'.numOps + q.size = s.numOps := by
  rw [hsource] at hq
  cases q with
  | gate unit qs => cases hq
  | neg q => cases hq
  | leaf l =>
    obtain ⟨c, hc, hformula⟩ := hleaves l (List.mem_singleton.mpr rfl)
    rw [size] at hsize
    rw [Formula.leaf.inj hq] at hc
    exact ⟨c, _, (compileOp_leaf_eq_ok_iff hsource).mpr ⟨hsize, hc, rfl⟩, hformula,
      Nat.sub_add_cancel hsize⟩

private theorem books_children {cs : List Assertions.Op}
    (ih : ∀ c ∈ cs, ∀ {idx : UInt32} {s s' : CompileState} {c' : Op lib},
      compileOp lib idx c s = .ok c' s' → Books c.formula c'.formula s s')
    {idx : Nat} {s s' : CompileState} {ops : List (Op lib)}
    (h : visitChildren lib idx cs s = .ok ops s') :
    ∃ qs, JointList (Assertions.Op.formulaList cs) (Op.formulaList ops) qs ∧
      s'.numOps + sizeList qs = s.numOps ∧ s'.path = s.path := by
  induction cs generalizing idx s ops with
  | nil =>
    cases h
    exact ⟨[], ⟨rfl, rfl, fun l hl => (List.not_mem_nil hl).elim⟩, rfl, rfl⟩
  | cons c cs ihs =>
    obtain ⟨ihc, ihcs⟩ := List.forall_mem_cons.mp ih
    obtain ⟨op, mid, ops', hop, hops, rfl⟩ := visitChildren_cons_eq_ok_iff.mp h
    obtain ⟨q, hq, hsize, hpath⟩ := ihc hop
    obtain ⟨qs, hqs, hsizes, hpaths⟩ := ihs ihcs hops
    refine ⟨q :: qs, hqs.cons hq, ?_, hpaths.trans hpath⟩
    rw [sizeList]
    omega

/-- A successful compilation keeps its books. -/
theorem compileOp_ok {op : Assertions.Op} {idx : UInt32} {s s' : CompileState} {c : Op lib}
    (h : compileOp lib idx op s = .ok c s') : Books op.formula c.formula s s' := by
  induction op using Assertions.Op.induct generalizing idx s s' c with
  | statusCodeCheck => exact books_leaf rfl h
  | jsonPath => exact books_leaf rfl h
  | headerCheck => exact books_leaf rfl h
  | and children ih =>
    rw [compileOp] at h
    obtain ⟨hpos, ops, mid, hops, rfl, rfl⟩ := node_eq_ok_iff.mp h
    obtain ⟨qs, hqs, hsize, hpath⟩ := books_children ih hops
    exact ⟨_, hqs.gate true, books_node hpos hsize hpath⟩
  | or children ih =>
    rw [compileOp] at h
    obtain ⟨hpos, ops, mid, hops, rfl, rfl⟩ := node_eq_ok_iff.mp h
    obtain ⟨qs, hqs, hsize, hpath⟩ := books_children ih hops
    exact ⟨_, hqs.gate false, books_node hpos hsize hpath⟩
  | not operand ih =>
    rw [compileOp] at h
    obtain ⟨hpos, op, mid, hop, rfl, rfl⟩ := node_eq_ok_iff.mp h
    obtain ⟨q, hq, hsize, hpath⟩ := ih hop
    exact ⟨_, hq.neg, books_node hpos hsize hpath⟩

/-- A list of trees whose leaves compile is compiled within budget, from any index on. -/
private theorem visitChildren_of_leaves {cs : List Assertions.Op}
    {qs : List (Formula (Assertions.Leaf × Leaf lib))}
    (ih : ∀ c ∈ cs, ∀ {q : Formula (Assertions.Leaf × Leaf lib)}, q.map Prod.fst = c.formula →
      (∀ l ∈ q.leaves, CompilesTo l.1 l.2) → ∀ (idx : UInt32) {s : CompileState},
      q.size ≤ s.numOps → ∃ c' s', compileOp lib idx c s = .ok c' s' ∧ c'.formula = q.map Prod.snd ∧
        s'.numOps + q.size = s.numOps)
    (hq : mapList Prod.fst qs = Assertions.Op.formulaList cs)
    (hleaves : ∀ l ∈ leavesList qs, CompilesTo l.1 l.2) (idx : Nat) {s : CompileState}
    (hsize : sizeList qs ≤ s.numOps) :
    ∃ ops s', visitChildren lib idx cs s = .ok ops s' ∧
      Op.formulaList ops = mapList Prod.snd qs ∧ s'.numOps + sizeList qs = s.numOps := by
  induction cs generalizing qs idx s with
  | nil =>
    cases qs with
    | nil => exact ⟨[], s, rfl, rfl, rfl⟩
    | cons q qs => cases hq
  | cons c cs ihs =>
    cases qs with
    | nil => cases hq
    | cons q qs =>
      obtain ⟨ihc, ihcs⟩ := List.forall_mem_cons.mp ih
      obtain ⟨hq, hqs⟩ := List.cons.inj hq
      rw [sizeList] at hsize
      obtain ⟨c', mid, hc, hformula, hmid⟩ := ihc hq
        (fun l hl => hleaves l (List.mem_append_left _ hl)) (UInt32.ofNat idx)
        (by omega : q.size ≤ s.numOps)
      obtain ⟨ops, s', hops, hformulas, hs'⟩ := ihs ihcs hqs
        (fun l hl => hleaves l (List.mem_append_right _ hl)) (idx + 1)
        (by omega : sizeList qs ≤ mid.numOps)
      refine ⟨c' :: ops, s', visitChildren_cons_eq_ok_iff.mpr ⟨c', mid, ops, hc, hops, rfl⟩, ?_, ?_⟩
      · rw [Op.formulaList, mapList, hformula, hformulas]
      · rw [sizeList]
        omega

/-- A tree whose leaves compile, and whose nodes are within budget, compiles. -/
theorem compileOp_of_leaves {op : Assertions.Op} {q : Formula (Assertions.Leaf × Leaf lib)}
    (hq : q.map Prod.fst = op.formula) (hleaves : ∀ l ∈ q.leaves, CompilesTo l.1 l.2)
    (idx : UInt32) {s : CompileState} (hsize : q.size ≤ s.numOps) :
    ∃ c s', compileOp lib idx op s = .ok c s' ∧ c.formula = q.map Prod.snd ∧
      s'.numOps + q.size = s.numOps := by
  induction op using Assertions.Op.induct generalizing q idx s with
  | statusCodeCheck => exact compile_leaf_of_leaves rfl hq hleaves idx hsize
  | jsonPath => exact compile_leaf_of_leaves rfl hq hleaves idx hsize
  | headerCheck => exact compile_leaf_of_leaves rfl hq hleaves idx hsize
  | and children ih =>
    cases q with
    | leaf l => cases hq
    | neg q => cases hq
    | gate unit qs =>
      obtain ⟨rfl, hqs⟩ := Formula.gate.inj hq
      obtain ⟨ops, s', hops, hformulas, hs'⟩ :=
        node_of_body Op.and idx hsize fun _ => visitChildren_of_leaves ih hqs hleaves 0
      exact ⟨.and ops, s', by rw [compileOp]; exact hops, by rw [Op.formula, map, hformulas], hs'⟩
  | or children ih =>
    cases q with
    | leaf l => cases hq
    | neg q => cases hq
    | gate unit qs =>
      obtain ⟨rfl, hqs⟩ := Formula.gate.inj hq
      obtain ⟨ops, s', hops, hformulas, hs'⟩ :=
        node_of_body Op.or idx hsize fun _ => visitChildren_of_leaves ih hqs hleaves 0
      exact ⟨.or ops, s', by rw [compileOp]; exact hops, by rw [Op.formula, map, hformulas], hs'⟩
  | not operand ih =>
    cases q with
    | leaf l => cases hq
    | gate unit qs => cases hq
    | neg q =>
      obtain ⟨c, s', hc, hformula, hs'⟩ :=
        node_of_body Op.not idx hsize fun _ => ih (Formula.neg.inj hq) hleaves 0
      exact ⟨.not c, s', by rw [compileOp]; exact hc, by rw [Op.formula, map, hformula], hs'⟩

/-- A tree that compiles has as many nodes as its compiled form, and no more than the budget. -/
theorem size_of_compile {a : Assertions.Assertion} {maxOps : Nat} {c : Assertion lib}
    (h : compile lib a maxOps = .ok c) :
    c.root.formula.size = a.root.size ∧ a.root.size ≤ maxOps := by
  obtain ⟨s, hs⟩ := compile_eq_ok_iff.mp h
  obtain ⟨q, hq, hbooks, -⟩ := compileOp_ok hs
  rw [Assertions.Op.size, ← hq.snd, ← hq.fst, size_map, size_map]
  exact ⟨rfl, Nat.le_of_add_left_le (Nat.le_of_eq hbooks)⟩

/-- The indices on the path of a node fit the type of an error's path, as long as the number of the
node does. -/
theorem toNat_path {L : Type} {t : Formula L} {k : Nat} {path : List Nat} {node : Option L}
    (h : (t.nodes [0])[k]? = some (path, node)) (hk : k < UInt32.size) :
    (path.map UInt32.ofNat).map UInt32.toNat = path := by
  obtain ⟨rest, rfl, hrest⟩ := nodes_path h
  rw [List.map_map, List.map_congr_left (g := id), List.map_id]
  intro i hi
  apply UInt32.toNat_ofNat_of_lt'
  rcases List.mem_append.mp hi with hi | hi
  · rw [List.mem_singleton.mp hi]
    exact Nat.zero_lt_of_lt hk
  · exact Nat.lt_of_le_of_lt (hrest i hi) hk

/-! ## The blamed part fails on its own -/

/-- The part of an assertion that a verdict blames: the path fits the tree, and what it leads
through has at most as many nodes, compiles under the same budget, and answers the same verdict on
the same response with the same gas. -/
theorem extracted_part_is_witness (fixed : FixedCost lib) {a : Assertions.Assertion}
    {maxOps : Nat} {c : Assertion lib} (hc : compile lib a maxOps = .ok c) {response : Response}
    {gas : Nat} {e : EvalResult} (he : c.eval response gas = .ok e) :
    ∃ b, extractFailureData e.reasonPath a.root = some b ∧ b.size ≤ a.root.size ∧
      ∃ c', compile lib ⟨b⟩ maxOps = .ok c' ∧
        ∃ e', c'.eval response gas = .ok e' ∧ e'.result = e.result := by
  obtain ⟨s, hs⟩ := compile_eq_ok_iff.mp hc
  obtain ⟨q, hq, hsize, _⟩ := compileOp_ok hs
  -- The evaluation of the compiled tree, read on the joined one.
  obtain ⟨left, hf⟩ := Assertion.eval_eq_ok_iff.mp he
  rw [← hq.snd, eval_map] at hf
  obtain ⟨part, hpart, hle, hsub, r', left', hrun⟩ :=
    eval_extract (fun l : Assertions.Leaf × Leaf lib => ⟨_, Leaf.priced_ask fixed response l.2⟩) hf
  -- The part in the user's tree.
  have hb := extractFailureData_formula e.reasonPath a.root
  rw [← hq.fst, extract_map, hpart] at hb
  obtain ⟨b, hb, hbformula⟩ := Option.map_eq_some_iff.mp hb
  refine ⟨b, hb, ?_, ?_⟩
  · rw [Assertions.Op.size, Assertions.Op.size, hbformula, ← hq.fst, size_map, size_map]
    exact hle
  · have hbudget : part.size ≤ (⟨maxOps, []⟩ : CompileState).numOps :=
      Nat.le_trans hle (Nat.le_of_add_left_le (Nat.le_of_eq hsize))
    obtain ⟨c', s', hc', hformula, _⟩ :=
      compileOp_of_leaves hbformula.symm (fun l hl => hq.leaves l (hsub hl)) 0 hbudget
    obtain ⟨p, hp⟩ := EvalPath.reason_surjective r'
    refine ⟨⟨c'⟩, compile_eq_ok_iff.mpr ⟨s', hc'⟩, ⟨p, e.result⟩, ?_, rfl⟩
    refine Assertion.eval_eq_ok_iff.mpr ⟨left', ?_⟩
    rw [hformula, eval_map, hp]
    exact hrun

/-- "The status is not 500, and it is neither 200 nor below 100", as a user writes it. -/
def notTwoHundredSource : Assertions.Assertion :=
  ⟨.and [.statusCodeCheck 500 .notEqual,
    .not (.or [.statusCodeCheck 200 .equals, .statusCodeCheck 100 .lessThan])]⟩

theorem extracted_part_notTwoHundred :
    ∃ b, extractFailureData (.childIndex 1 (.childIndex 0 (.childIndex 0 .leaf)))
        notTwoHundredSource.root = some b ∧ b.size ≤ notTwoHundredSource.root.size ∧
      ∃ c' : Assertion plainExternals, compile plainExternals ⟨b⟩ 6 = .ok c' ∧
        ∃ e', c'.eval ⟨200, [], []⟩ 2 = .ok e' ∧ e'.result = false :=
  @extracted_part_is_witness plainExternals (fun _ _ => priced_pure _) notTwoHundredSource 6
    notTwoHundred rfl ⟨200, [], []⟩ 2
    ⟨.childIndex 1 (.childIndex 0 (.childIndex 0 .leaf)), false⟩ rfl

end UptimeChecker.Assertions.Compiled
