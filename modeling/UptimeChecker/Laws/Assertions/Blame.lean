import UptimeChecker.Laws.Assertions.Compile

/-!
# Which node a failed compilation blames

The traversal visits the nodes in pre-order, and a counter and a path are all it keeps, so what it
answers is a matter of the list of nodes: `blame` reads that list with the counter alone, and
`compileOp_follows` says that the traversal does what it says. The law about compiling
(`compile_blames_first`) is then one about a list and its first bad entry.
-/

namespace UptimeChecker.Assertions.Compiled

open Formula

variable {lib : Externals}

/-! ## Nodes that offend -/

/-- The library takes no such glob. -/
def Rejects (lib : Externals) (pattern : GlobPattern) : Prop :=
  ∃ e, lib.buildPattern pattern.value globComplexityLimit = .error e

/-- The leaf has a JSONPath or a glob that the library rejects. -/
def Rejected (lib : Externals) : Assertions.Leaf → Prop
  | .statusCodeCheck .. => False
  | .jsonPath value _ operand =>
    (∃ e, lib.parseJsonPath value globComplexityLimit = .error e) ∨
      ∃ pattern, operand = .glob pattern ∧ Rejects lib pattern
  | .headerCheck _ keyOperand _ valueOperand =>
    ∃ pattern, (keyOperand = .glob pattern ∨ valueOperand = .glob pattern) ∧ Rejects lib pattern

/-- The node with the number `k` offends: it is beyond the budget, or a leaf that is rejected. -/
def Offends (lib : Externals) (budget k : Nat) (node : Option Assertions.Leaf) : Prop :=
  budget ≤ k ∨ ∃ leaf, node = some leaf ∧ Rejected lib leaf

/-- The error of a node that offends: the lack of operations, or else the leaf's own. -/
def OffenseIs (lib : Externals) (budget k : Nat) (node : Option Assertions.Leaf)
    (e : CompilationError) : Prop :=
  if budget ≤ k then e = .tooManyOperations []
  else ∃ leaf, node = some leaf ∧ compileLeaf lib leaf = .error e

private theorem mapError_error_iff {ε ε' α : Type} {x : Except ε α} {f : ε → ε'} :
    (∃ e, x.mapError f = .error e) ↔ ∃ e, x = .error e := by
  cases x with
  | ok a =>
    constructor
    · intro ⟨e, h⟩
      cases h
    · intro ⟨e, h⟩
      cases h
  | error e => exact ⟨fun _ => ⟨e, rfl⟩, fun _ => ⟨f e, rfl⟩⟩

private theorem map_error_iff {ε α β : Type} {x : Except ε α} {f : α → β} :
    (∃ e, x.map f = .error e) ↔ ∃ e, x = .error e := by
  cases x with
  | ok a =>
    constructor
    · intro ⟨e, h⟩
      cases h
    · intro ⟨e, h⟩
      cases h
  | error e => exact ⟨fun _ => ⟨e, rfl⟩, fun _ => ⟨e, rfl⟩⟩

private theorem buildGlob_error_iff {pattern : GlobPattern} :
    (∃ e, buildGlob lib pattern = .error e) ↔ Rejects lib pattern := by
  unfold buildGlob Rejects
  exact mapError_error_iff

private theorem JSONPathOperand.tryFrom_error_iff {operand : Assertions.JSONPathOperand} :
    (∃ e, JSONPathOperand.tryFrom lib operand = .error e) ↔
      ∃ pattern, operand = .glob pattern ∧ Rejects lib pattern := by
  cases operand with
  | none => simp [tryFrom]
  | literal value => simp [tryFrom]
  | glob pattern =>
    simp only [tryFrom, Assertions.JSONPathOperand.glob.injEq, exists_eq_left', map_error_iff,
      buildGlob_error_iff]

private theorem HeaderOperand.tryFrom_error_iff {operand : Assertions.HeaderOperand} :
    (∃ e, HeaderOperand.tryFrom lib operand = .error e) ↔
      ∃ pattern, operand = .glob pattern ∧ Rejects lib pattern := by
  cases operand with
  | none => simp [tryFrom]
  | literal value => simp [tryFrom]
  | glob pattern =>
    simp only [tryFrom, Assertions.HeaderOperand.glob.injEq, exists_eq_left', map_error_iff,
      buildGlob_error_iff]

/-- Of two conversions in a row, one fails if and only if the whole does. -/
private theorem bind_error_iff {ε α β : Type} {x : Except ε α} {y : Except ε β}
    {γ : Type} {f : α → β → γ} :
    (∃ e, (do let a ← x; let b ← y; return f a b : Except ε γ) = .error e) ↔
      (∃ e, x = .error e) ∨ ∃ e, y = .error e := by
  cases x with
  | error e => exact ⟨fun _ => .inl ⟨e, rfl⟩, fun _ => ⟨e, rfl⟩⟩
  | ok a =>
    cases y with
    | error e => exact ⟨fun _ => .inr ⟨e, rfl⟩, fun _ => ⟨e, rfl⟩⟩
    | ok b =>
      constructor
      · intro ⟨e, h⟩
        cases h
      · rintro (⟨e, h⟩ | ⟨e, h⟩) <;> cases h

/-- A leaf is rejected if and only if it has an error of its own. -/
theorem rejected_iff {leaf : Assertions.Leaf} :
    Rejected lib leaf ↔ ∃ e, compileLeaf lib leaf = .error e := by
  cases leaf with
  | statusCodeCheck value operator =>
    constructor
    · intro h
      exact h.elim
    · intro ⟨e, h⟩
      cases h
  | jsonPath value operator operand =>
    show _ ∨ _ ↔ ∃ e, compileJsonPath lib value operator operand = .error e
    unfold compileJsonPath
    rw [bind_error_iff, mapError_error_iff, JSONPathOperand.tryFrom_error_iff]
  | headerCheck keyOp keyOperand valueOp valueOperand =>
    show (∃ pattern, _) ↔
      ∃ e, compileHeaderCheck lib keyOp keyOperand valueOp valueOperand = .error e
    unfold compileHeaderCheck
    rw [bind_error_iff, HeaderOperand.tryFrom_error_iff, HeaderOperand.tryFrom_error_iff,
      ← exists_or]
    exact exists_congr fun pattern => or_and_right

/-! ## Reading the list of nodes -/

/-- The node that is blamed, with the operations left when it is: nodes are taken in order, each
for one operation, up to the first that finds none left or does not compile. -/
def blame (lib : Externals) :
    Nat → List (List Nat × Option Assertions.Leaf) → Option (Nat × List Nat × CompilationError)
  | _, [] => none
  | 0, (path, _) :: _ => some (0, path, .tooManyOperations [])
  | left + 1, (_, none) :: rest => blame lib left rest
  | left + 1, (path, some source) :: rest =>
    match compileLeaf lib source with
    | .ok _ => blame lib left rest
    | .error e => some (left, path, e)

/-- A list is read up to its first bad entry. -/
theorem blame_append (left : Nat) (before after : List (List Nat × Option Assertions.Leaf)) :
    blame lib left (before ++ after) =
      match blame lib left before with
      | some blamed => some blamed
      | none => blame lib (left - before.length) after := by
  induction before generalizing left with
  | nil => simp only [blame, List.nil_append, List.length_nil, Nat.sub_zero]
  | cons node before ih =>
    obtain ⟨path, node⟩ := node
    cases left with
    | zero => rfl
    | succ left =>
      rw [List.length_cons, Nat.add_sub_add_right, List.cons_append]
      cases node with
      | none => exact ih left
      | some leaf =>
        rw [blame, blame]
        cases compileLeaf lib leaf with
        | ok c => exact ih left
        | error e => rfl

/-- The first entry that offends, with its error and the operations left after it. -/
structure FirstOffender (lib : Externals) (budget : Nat)
    (nodes : List (List Nat × Option Assertions.Leaf)) (k left : Nat) (path : List Nat)
    (e : CompilationError) : Prop where
  /-- It is a node, it offends, and that is its error. -/
  blamed : ∃ node, nodes[k]? = some (path, node) ∧ Offends lib budget k node ∧
    OffenseIs lib budget k node e
  /-- No node before it offends. -/
  first : ∀ j < k, ∀ node, nodes[j]? = some node → ¬ Offends lib budget j node.2
  /-- Each node before it took one operation, and so did it if there was one left. -/
  left_eq : left = budget - (k + 1)
  /-- What comes after it does not matter. -/
  take : blame lib budget (nodes.take (k + 1)) = some (left, path, e)

/-- Numbers and budget go down together when an entry is passed. -/
private theorem offends_succ {left k : Nat} {node : Option Assertions.Leaf} :
    Offends lib (left + 1) (k + 1) node ↔ Offends lib left k node :=
  or_congr_left Nat.succ_le_succ_iff

private theorem offenseIs_succ {left k : Nat} {node : Option Assertions.Leaf}
    {e : CompilationError} :
    OffenseIs lib (left + 1) (k + 1) node e ↔ OffenseIs lib left k node e := by
  simp only [OffenseIs, Nat.succ_le_succ_iff]

private theorem FirstOffender.cons {left k rest : Nat} {path : List Nat} {e : CompilationError}
    {nodes : List (List Nat × Option Assertions.Leaf)} {node : List Nat × Option Assertions.Leaf}
    (hpass : ¬ Offends lib (left + 1) 0 node.2)
    (hblame : ∀ nodes, blame lib (left + 1) (node :: nodes) = blame lib left nodes)
    (h : FirstOffender lib left nodes k rest path e) :
    FirstOffender lib (left + 1) (node :: nodes) (k + 1) rest path e := by
  obtain ⟨n, hn, hoff, herr⟩ := h.blamed
  refine ⟨⟨n, hn, offends_succ.mpr hoff, offenseIs_succ.mpr herr⟩, ?_, ?_, ?_⟩
  · intro j hj m hm
    cases j with
    | zero =>
      cases hm
      exact hpass
    | succ j => exact fun hoff => h.first j (Nat.lt_of_succ_lt_succ hj) m hm (offends_succ.mp hoff)
  · rw [h.left_eq, Nat.add_sub_add_right]
  · rw [List.take_succ_cons, hblame, h.take]

/-- What `blame` answers is the first entry that offends. -/
theorem blame_spec (budget : Nat) (nodes : List (List Nat × Option Assertions.Leaf)) :
    match blame lib budget nodes with
    | none => ∀ k node, nodes[k]? = some node → ¬ Offends lib budget k node.2
    | some (left, path, e) => ∃ k, FirstOffender lib budget nodes k left path e := by
  induction nodes generalizing budget with
  | nil =>
    rw [blame]
    intro k node h
    cases h
  | cons node nodes ih =>
    -- an entry that is passed
    have hpassed : ∀ left, ¬ Offends lib (left + 1) 0 node.2 →
        (∀ nodes, blame lib (left + 1) (node :: nodes) = blame lib left nodes) →
        match blame lib (left + 1) (node :: nodes) with
        | none => ∀ k m, (node :: nodes)[k]? = some m → ¬ Offends lib (left + 1) k m.2
        | some (rest, path, e) =>
          ∃ k, FirstOffender lib (left + 1) (node :: nodes) k rest path e := by
      intro left hpass hblame
      have ih := ih left
      rw [hblame]
      cases hb : blame lib left nodes with
      | none =>
        rw [hb] at ih
        intro k m hm
        cases k with
        | zero =>
          cases hm
          exact hpass
        | succ k => exact fun hoff => ih k m hm (offends_succ.mp hoff)
      | some blamed =>
        rw [hb] at ih
        obtain ⟨k, hk⟩ := ih
        exact ⟨k + 1, hk.cons hpass hblame⟩
    -- an entry that is blamed
    have hfirst : ∀ left path n e, node = (path, n) → Offends lib budget 0 n →
        OffenseIs lib budget 0 n e → left = budget - 1 →
        blame lib budget [node] = some (left, path, e) →
        ∃ k, FirstOffender lib budget (node :: nodes) k left path e := by
      intro left path n e hnode hoff herr hleft hblame
      exact ⟨0, ⟨n, by rw [hnode]; rfl, hoff, herr⟩, fun j hj => (Nat.not_lt_zero j hj).elim, hleft,
        hblame⟩
    obtain ⟨path, n⟩ := node
    cases budget with
    | zero =>
      exact hfirst 0 path n (.tooManyOperations []) rfl (.inl (Nat.le_refl 0))
        ((if_pos (Nat.le_refl 0)).mpr rfl) rfl rfl
    | succ left =>
      have hpos : ¬ left + 1 ≤ 0 := Nat.not_succ_le_zero left
      cases n with
      | none =>
        apply hpassed left ?_ fun _ => rfl
        rintro (h | ⟨leaf, h, -⟩)
        · exact hpos h
        · cases h
      | some leaf =>
        cases hc : compileLeaf lib leaf with
        | ok c =>
          apply hpassed left
          · rintro (h | ⟨_, h, hrej⟩)
            · exact hpos h
            · cases h
              obtain ⟨e, he⟩ := rejected_iff.mp hrej
              rw [hc] at he
              cases he
          · intro nodes
            rw [blame, hc]
        | error e =>
          have hb : ∀ nodes, blame lib (left + 1) ((path, some leaf) :: nodes) =
              some (left, path, e) := by
            intro nodes
            rw [blame, hc]
          rw [hb]
          apply hfirst left path (some leaf) e rfl
            (.inr ⟨leaf, rfl, rejected_iff.mpr ⟨e, hc⟩⟩) _ rfl (hb [])
          exact (if_neg hpos).mpr ⟨leaf, rfl, hc⟩

/-! ## The traversal reads the list -/

/-- A part of the traversal does what `blame` says of its nodes: it takes an operation for each and
leaves the path as it was, or stops at the one that is blamed, on its path. -/
def Follows {α : Type} (lib : Externals) (nodes : List (List Nat × Option Assertions.Leaf))
    (s : CompileState) (r : EStateM.Result CompilationError CompileState α) : Prop :=
  match blame lib s.numOps nodes with
  | none => ∃ a, r = .ok a ⟨s.numOps - nodes.length, s.path⟩
  | some (left, path, e) => r = .error e ⟨left, path.map UInt32.ofNat⟩

private theorem follows_pure {α : Type} (a : α) (s : CompileState) :
    Follows lib [] s ((pure a : CompileM α) s) := by
  unfold Follows
  rw [blame]
  exact ⟨a, rfl⟩

private theorem Follows.bind {α β : Type} {x : CompileM α} {f : α → CompileM β} {s : CompileState}
    {nodes nodes' : List (List Nat × Option Assertions.Leaf)} (h : Follows lib nodes s (x s))
    (hf : ∀ a s', s'.path = s.path → Follows lib nodes' s' (f a s')) :
    Follows lib (nodes ++ nodes') s ((x >>= f) s) := by
  show Follows lib _ s (EStateM.bind x f s)
  unfold Follows EStateM.bind at *
  rw [blame_append]
  cases hb : blame lib s.numOps nodes with
  | some blamed =>
    rw [hb] at h
    rw [h]
  | none =>
    rw [hb] at h
    obtain ⟨a, ha⟩ := h
    rw [ha, List.length_append, ← Nat.sub_sub]
    exact hf a ⟨s.numOps - nodes.length, s.path⟩ rfl

private theorem Follows.map {α β : Type} {x : CompileM α} {s : CompileState}
    {nodes : List (List Nat × Option Assertions.Leaf)} (h : Follows lib nodes s (x s)) (f : α → β) :
    Follows lib nodes s ((do let a ← x; return f a : CompileM β) s) := by
  rw [← List.append_nil nodes]
  exact h.bind fun a s' _ => follows_pure (f a) s'

/-- Entering a node that finds no operation left. -/
private theorem node_zero {α : Type} {x : CompileM α} {f : α → Op lib} {idx : UInt32}
    {path : List UInt32} :
    (do pushCompilePath idx; decOps; let a ← x; popCompilePath; return f a : CompileM _) ⟨0, path⟩ =
      .error (.tooManyOperations []) ⟨0, path ++ [idx]⟩ :=
  rfl

/-- Entering a node that finds one. -/
private theorem node_succ {α : Type} {x : CompileM α} {f : α → Op lib} {idx : UInt32} {n : Nat}
    {path : List UInt32} :
    (do pushCompilePath idx; decOps; let a ← x; popCompilePath; return f a : CompileM _)
        ⟨n + 1, path⟩ =
      match x ⟨n, path ++ [idx]⟩ with
      | .ok a mid => .ok (f a) { mid with path := mid.path.dropLast }
      | .error e mid => .error e mid := by
  show EStateM.bind x _ ⟨n, path ++ [idx]⟩ = _
  unfold EStateM.bind
  cases x ⟨n, path ++ [idx]⟩ <;> rfl

/-- An inner node, over what is below it. -/
private theorem follows_node {α : Type} {x : CompileM α} (f : α → Op lib) {path : List Nat}
    {idx : Nat} {s : CompileState} (hpath : s.path = path.map UInt32.ofNat)
    {below : List (List Nat × Option Assertions.Leaf)}
    (h : ∀ s' : CompileState, s'.path = (path ++ [idx]).map UInt32.ofNat →
      Follows lib below s' (x s')) :
    Follows lib ((path ++ [idx], none) :: below) s
      ((do pushCompilePath (UInt32.ofNat idx); decOps; let a ← x; popCompilePath; return f a :
        CompileM _) s) := by
  obtain ⟨numOps, cur⟩ := s
  cases hpath
  have hpush : path.map UInt32.ofNat ++ [UInt32.ofNat idx] = (path ++ [idx]).map UInt32.ofNat :=
    by rw [List.map_append, List.map_singleton]
  cases numOps with
  | zero =>
    unfold Follows
    rw [node_zero, blame, hpush]
  | succ n =>
    have h := h ⟨n, (path ++ [idx]).map UInt32.ofNat⟩ rfl
    unfold Follows at h ⊢
    rw [node_succ, blame, hpush]
    cases hb : blame lib n below with
    | some blamed =>
      rw [hb] at h
      rw [h]
    | none =>
      rw [hb] at h
      obtain ⟨a, ha⟩ := h
      refine ⟨f a, ?_⟩
      rw [ha, List.length_cons, Nat.add_sub_add_right, ← hpush]
      simp only [List.dropLast_concat]

/-- A leaf. -/
private theorem follows_leaf {op : Assertions.Op} {source : Assertions.Leaf}
    (hsource : op.formula = .leaf source) {path : List Nat} {idx : Nat} {s : CompileState}
    (hpath : s.path = path.map UInt32.ofNat) :
    Follows lib [(path ++ [idx], some source)] s (compileOp lib (UInt32.ofNat idx) op s) := by
  obtain ⟨numOps, cur⟩ := s
  cases hpath
  have hpush : path.map UInt32.ofNat ++ [UInt32.ofNat idx] = (path ++ [idx]).map UInt32.ofNat :=
    by rw [List.map_append, List.map_singleton]
  have hnode : compileOp lib (UInt32.ofNat idx) op = (do
      pushCompilePath (UInt32.ofNat idx)
      decOps
      let c ← convert (compileLeaf lib source)
      popCompilePath
      return c) := by
    cases op with
    | and children => cases hsource
    | or children => cases hsource
    | not operand => cases hsource
    | statusCodeCheck value operator =>
      cases hsource
      rw [compileOp]
      rfl
    | jsonPath value operator operand =>
      cases hsource
      rw [compileOp]
      rfl
    | headerCheck keyOp keyOperand valueOp valueOperand =>
      cases hsource
      rw [compileOp]
      rfl
  rw [hnode]
  cases numOps with
  | zero =>
    unfold Follows
    rw [node_zero, blame, hpush]
  | succ n =>
    unfold Follows
    rw [node_succ, blame, hpush]
    unfold convert
    cases compileLeaf lib source with
    | error e => rfl
    | ok c =>
      rw [blame]
      refine ⟨c, ?_⟩
      rw [← hpush]
      simp only [List.dropLast_concat]
      rfl

/-- The children of a node, from an index on. -/
private theorem visitChildren_follows {cs : List Assertions.Op}
    (ih : ∀ c ∈ cs, ∀ {path : List Nat} {idx : Nat} {s : CompileState},
      s.path = path.map UInt32.ofNat →
      Follows lib (c.formula.nodes (path ++ [idx])) s (compileOp lib (UInt32.ofNat idx) c s))
    {path : List Nat} {idx : Nat} {s : CompileState} (hpath : s.path = path.map UInt32.ofNat) :
    Follows lib (nodesList path idx (Assertions.Op.formulaList cs)) s
      (visitChildren lib idx cs s) := by
  induction cs generalizing idx s with
  | nil =>
    rw [visitChildren]
    exact follows_pure [] s
  | cons c cs ihs =>
    obtain ⟨ihc, ihcs⟩ := List.forall_mem_cons.mp ih
    rw [visitChildren, Assertions.Op.formulaList, nodesList]
    apply (ihc hpath).bind
    intro op s' hs'
    exact (ihs ihcs (hs'.trans hpath)).map (op :: ·)

/-- Compiling a node does what `blame` says of the nodes from it on down. -/
theorem compileOp_follows (op : Assertions.Op) {path : List Nat} {idx : Nat} {s : CompileState}
    (hpath : s.path = path.map UInt32.ofNat) :
    Follows lib (op.formula.nodes (path ++ [idx])) s (compileOp lib (UInt32.ofNat idx) op s) := by
  induction op using Assertions.Op.induct generalizing path idx s with
  | statusCodeCheck => exact follows_leaf rfl hpath
  | jsonPath => exact follows_leaf rfl hpath
  | headerCheck => exact follows_leaf rfl hpath
  | and children ih =>
    rw [compileOp]
    exact follows_node Op.and hpath fun _ => visitChildren_follows ih
  | or children ih =>
    rw [compileOp]
    exact follows_node Op.or hpath fun _ => visitChildren_follows ih
  | not operand ih =>
    rw [compileOp]
    exact follows_node Op.not hpath fun _ => ih

/-! ## The law -/

/-- The compiled tree is the user's, node for node with the children in order, and each leaf is the
user's leaf compiled. -/
def SameShape (a : Assertions.Assertion) (c : Assertion lib) : Prop :=
  ∃ q, Joint a.root.formula c.root.formula q

/-- The path an error carries. -/
def CompilationError.assertPath : CompilationError → List UInt32
  | invalidGlob assertPath _ _ => assertPath
  | jsonPathParser assertPath _ _ _ => assertPath
  | invalidJsonPath assertPath _ => assertPath
  | tooManyOperations assertPath => assertPath

/-- Every error is stamped. -/
theorem CompilationError.assertPath_setPath (path : List UInt32) (e : CompilationError) :
    (e.setPath path).assertPath = path := by
  cases e <;> rfl

/-- A compilation does what `blame` says of all the nodes. -/
theorem compile_follows (lib : Externals) (a : Assertions.Assertion) (maxOps : Nat) :
    Follows lib (a.root.formula.nodes [0]) ⟨maxOps, []⟩ (compileOp lib 0 a.root ⟨maxOps, []⟩) :=
  @compileOp_follows lib a.root [] 0 _ rfl

/-- The first offender is not beyond the first number beyond the budget. -/
theorem FirstOffender.le_budget {budget k left : Nat} {path : List Nat} {e : CompilationError}
    {nodes : List (List Nat × Option Assertions.Leaf)}
    (h : FirstOffender lib budget nodes k left path e) : k ≤ budget := by
  apply Nat.le_of_not_lt
  intro hlt
  obtain ⟨node, hnode, -⟩ := h.blamed
  have hlen := (List.getElem?_eq_some_iff.mp hnode).1
  exact h.first budget hlt _ (List.getElem?_eq_getElem (Nat.lt_trans hlt hlen))
    (.inl (Nat.le_refl budget))

/-- Compiling accepts the trees none of whose nodes offends, and then keeps their shape. Otherwise
it answers the error of the first node that offends, stamped with the path of the node; the state it
stops in has taken one operation for each node up to that one, and a tree with the same nodes so far
fails in the same way whatever else is in it. -/
theorem compile_blames_first (lib : Externals) (a : Assertions.Assertion) (maxOps : UInt32) :
    ((∃ c, compile lib a maxOps.toNat = .ok c) ↔
      ∀ k node, (a.root.formula.nodes [0])[k]? = some node →
        ¬ Offends lib maxOps.toNat k node.2) ∧
    (∀ c : Assertion lib, compile lib a maxOps.toNat = .ok c → SameShape a c) ∧
    ∀ e, compile lib a maxOps.toNat = .error e → ∃ k path raised s,
      FirstOffender lib maxOps.toNat (a.root.formula.nodes [0]) k s.numOps path raised ∧
      compileOp lib 0 a.root ⟨maxOps.toNat, []⟩ = .error raised s ∧
      e = raised.setPath e.assertPath ∧ e.assertPath.map UInt32.toNat = path ∧
      ∀ b : Assertions.Assertion,
        (b.root.formula.nodes [0]).take (k + 1) = (a.root.formula.nodes [0]).take (k + 1) →
        compile lib b maxOps.toNat = .error e := by
  have hspec := @blame_spec lib maxOps.toNat (a.root.formula.nodes [0])
  have hfollows := compile_follows lib a maxOps.toNat
  unfold Follows at hfollows
  refine ⟨?_, ?_, ?_⟩
  · cases hb : blame lib maxOps.toNat (a.root.formula.nodes [0]) with
    | none =>
      rw [hb] at hspec hfollows
      obtain ⟨c, hc⟩ := hfollows
      exact iff_of_true ⟨⟨c⟩, compile_eq_ok_iff.mpr ⟨_, hc⟩⟩ hspec
    | some blamed =>
      obtain ⟨left, path, e⟩ := blamed
      rw [hb] at hspec hfollows
      obtain ⟨k, hk⟩ := hspec
      apply iff_of_false
      · intro ⟨c, hc⟩
        obtain ⟨s, hs⟩ := compile_eq_ok_iff.mp hc
        rw [hfollows] at hs
        cases hs
      · intro hnone
        obtain ⟨node, hnode, hoff, -⟩ := hk.blamed
        exact hnone k _ hnode hoff
  · intro c hc
    obtain ⟨s, hs⟩ := compile_eq_ok_iff.mp hc
    obtain ⟨q, hq, -⟩ := compileOp_ok hs
    exact ⟨q, hq⟩
  · intro e he
    cases hb : blame lib maxOps.toNat (a.root.formula.nodes [0]) with
    | none =>
      rw [hb] at hfollows
      obtain ⟨c, hc⟩ := hfollows
      rw [compile_eq_ok_iff.mpr ⟨_, hc⟩] at he
      cases he
    | some blamed =>
      obtain ⟨left, path, raised⟩ := blamed
      rw [hb] at hspec hfollows
      obtain ⟨k, hk⟩ := hspec
      have hstamp : ∀ b : Assertions.Assertion,
          compileOp lib 0 b.root ⟨maxOps.toNat, []⟩ = .error raised ⟨left, path.map UInt32.ofNat⟩ →
          compile lib b maxOps.toNat = .error (raised.setPath (path.map UInt32.ofNat)) := by
        intro b hb
        unfold compile
        rw [hb]
      cases Except.error.inj (he.symm.trans (hstamp a hfollows))
      obtain ⟨node, hnode, -⟩ := hk.blamed
      have hk32 : k < UInt32.size := Nat.lt_of_le_of_lt hk.le_budget maxOps.toNat_lt
      refine ⟨k, path, raised, _, hk, hfollows, ?_, ?_, ?_⟩
      · rw [CompilationError.assertPath_setPath]
      · rw [CompilationError.assertPath_setPath, toNat_path hnode hk32]
      · intro b hsame
        apply hstamp
        -- the nodes that are the same decide
        have hfollows' := compile_follows lib b maxOps.toNat
        unfold Follows at hfollows'
        rw [← List.take_append_drop (k + 1) (b.root.formula.nodes [0]), hsame] at hfollows'
        simp only [blame_append, hk.take] at hfollows'
        exact hfollows'

end UptimeChecker.Assertions.Compiled
