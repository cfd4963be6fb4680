import UptimeChecker.Lib.Formula

/-!
# Where in a tree

A node of a tree is named by its PATH, the child index taken at each step from the root on, zero
below a negation. `nodes` lists the nodes in pre-order with their paths, `locate` labels each leaf
with its own.

A reader that fails does so at a leaf. `Comes` says that it comes to ask a leaf, with so much of the
budget left: every child before it, at every gate on the way, has come to the unit of the gate.
`eval_eq_error_iff` finds the failures of a run among those leaves, and `costs_eval` the failures of
a tree whose leaves have a fixed price.
-/

namespace Formula

open Metered

variable {L ε ε' : Type}

/-! ## Paths -/

mutual

/-- Label each leaf with its path, below the path of the tree itself. -/
def locate (path : List Nat) : Formula L → Formula (List Nat × L)
  | leaf l => leaf (path, l)
  | gate unit children => gate unit (locateList path 0 children)
  | neg operand => neg (locate (path ++ [0]) operand)

/-- Label the leaves of the children of a node, the first of them having the given index. -/
def locateList (path : List Nat) (index : Nat) : List (Formula L) → List (Formula (List Nat × L))
  | [] => []
  | c :: cs => locate (path ++ [index]) c :: locateList path (index + 1) cs

end

mutual

/-- The nodes in pre-order, with their paths; a leaf comes with its label. -/
def nodes (path : List Nat) : Formula L → List (List Nat × Option L)
  | leaf l => [(path, some l)]
  | gate _ children => (path, none) :: nodesList path 0 children
  | neg operand => (path, none) :: nodes (path ++ [0]) operand

/-- The nodes of the children of a node, the first of them having the given index. -/
def nodesList (path : List Nat) (index : Nat) : List (Formula L) → List (List Nat × Option L)
  | [] => []
  | c :: cs => nodes (path ++ [index]) c ++ nodesList path (index + 1) cs

end

/-- Without the paths it is the same tree. -/
theorem map_snd_locate (t : Formula L) (path : List Nat) : (t.locate path).map Prod.snd = t := by
  induction t using induct generalizing path with
  | leaf l => rfl
  | gate unit children ih =>
    rw [locate, map, mapList_eq]
    generalize 0 = index
    congr 1
    induction children generalizing index with
    | nil => rfl
    | cons c cs ihs =>
      obtain ⟨hc, hcs⟩ := List.forall_mem_cons.mp ih
      rw [locateList, List.map_cons, hc, ihs hcs]
  | neg operand ih => rw [locate, map, ih]

/-- There is one entry for each node. -/
theorem length_nodes (t : Formula L) (path : List Nat) : (t.nodes path).length = t.size := by
  induction t using induct generalizing path with
  | leaf l => rfl
  | gate unit children ih =>
    rw [nodes, size, List.length_cons, Nat.add_comm 1, Nat.add_right_cancel_iff]
    generalize 0 = index
    induction children generalizing index with
    | nil => rfl
    | cons c cs ihs =>
      obtain ⟨hc, hcs⟩ := List.forall_mem_cons.mp ih
      rw [nodesList, sizeList, List.length_append, hc, ihs hcs]
  | neg operand ih => rw [nodes, size, List.length_cons, ih, Nat.add_comm]

/-- A leaf located is a node. -/
theorem mem_nodes_of_mem_leaves {t : Formula L} {path p : List Nat} {l : L}
    (h : (p, l) ∈ (t.locate path).leaves) : (p, some l) ∈ t.nodes path := by
  induction t using induct generalizing path with
  | leaf l' =>
    cases List.mem_singleton.mp h
    exact List.mem_singleton.mpr rfl
  | gate unit children ih =>
    rw [locate, leaves] at h
    apply List.mem_cons_of_mem
    generalize 0 = index at h ⊢
    induction children generalizing index with
    | nil => exact (List.not_mem_nil h).elim
    | cons c cs ihs =>
      obtain ⟨hc, hcs⟩ := List.forall_mem_cons.mp ih
      rw [locateList, leavesList] at h
      rw [nodesList]
      rcases List.mem_append.mp h with h | h
      · exact List.mem_append_left _ (hc h)
      · exact List.mem_append_right _ (ihs hcs (index + 1) h)
  | neg operand ih => exact List.mem_cons_of_mem _ (ih h)

/-- A path goes on below the path of the tree, and no index on it exceeds the number of the node. -/
theorem nodes_path {t : Formula L} {path p : List Nat} {o : Option L} {k : Nat}
    (h : (t.nodes path)[k]? = some (p, o)) : ∃ rest, p = path ++ rest ∧ ∀ i ∈ rest, i ≤ k := by
  induction t using induct generalizing path k with
  | leaf l =>
    cases List.mem_singleton.mp (List.mem_of_getElem? h)
    exact ⟨[], (List.append_nil _).symm, fun i hi => (List.not_mem_nil hi).elim⟩
  | gate unit children ih =>
    rw [nodes] at h
    cases k with
    | zero =>
      cases h
      exact ⟨[], (List.append_nil _).symm, fun i hi => (List.not_mem_nil hi).elim⟩
    | succ k =>
      rw [List.getElem?_cons_succ] at h
      -- every child before took one number at least
      suffices hlist : ∀ index, (nodesList path index children)[k]? = some (p, o) →
          ∃ rest, p = path ++ rest ∧ ∀ i ∈ rest, i ≤ index + k by
        obtain ⟨rest, hp, hle⟩ := hlist 0 h
        refine ⟨rest, hp, ?_⟩
        intro i hi
        have := hle i hi
        omega
      clear h
      induction children generalizing k with
      | nil =>
        intro index h
        cases h
      | cons c cs ihs =>
        intro index h
        obtain ⟨hc, hcs⟩ := List.forall_mem_cons.mp ih
        rw [nodesList] at h
        by_cases hlt : k < (c.nodes (path ++ [index])).length
        · rw [List.getElem?_append_left hlt] at h
          obtain ⟨rest, rfl, hle⟩ := hc h
          refine ⟨index :: rest, by rw [List.append_assoc, List.singleton_append], ?_⟩
          intro i hi
          rcases List.mem_cons.mp hi with rfl | hi
          · exact Nat.le_add_right _ _
          · exact Nat.le_trans (hle i hi) (Nat.le_add_left _ _)
        · rw [List.getElem?_append_right (Nat.le_of_not_lt hlt)] at h
          have hpos : 0 < (c.nodes (path ++ [index])).length := by
            cases c <;> exact Nat.succ_pos _
          obtain ⟨rest, hp, hle⟩ := ihs hcs _ (index + 1) h
          refine ⟨rest, hp, ?_⟩
          intro i hi
          have := hle i hi
          omega
  | neg operand ih =>
    rw [nodes] at h
    cases k with
    | zero =>
      cases h
      exact ⟨[], (List.append_nil _).symm, fun i hi => (List.not_mem_nil hi).elim⟩
    | succ k =>
      rw [List.getElem?_cons_succ] at h
      obtain ⟨rest, rfl, hle⟩ := ih h
      refine ⟨0 :: rest, by rw [List.append_assoc, List.singleton_append], ?_⟩
      intro i hi
      rcases List.mem_cons.mp hi with rfl | hi
      · exact Nat.zero_le _
      · exact Nat.le_succ_of_le (hle i hi)

/-! ## Failing at a leaf -/

/-- Renaming the errors of the leaves renames those of the tree. -/
theorem eval_mapError (ask : L → Meter ε Bool) (f : ε → ε') (t : Formula L) (g : Nat) :
    t.eval (fun l g => (ask l g).mapError f) g = (t.eval ask g).mapError f := by
  have hbind : ∀ {α β : Type} (m : Except ε α) (k : α → Except ε β) (k' : α → Except ε' β),
      (∀ a, k' a = (k a).mapError f) →
      ((m.mapError f).bind k') = (m.bind k).mapError f := by
    intro α β m k k' h
    cases m with
    | error e => rfl
    | ok a => exact h a
  induction t using induct generalizing g with
  | leaf l =>
    exact hbind (ask l g) _ _ fun _ => rfl
  | gate unit cs ih =>
    rw [eval, eval]
    generalize 0 = index
    induction cs generalizing index g with
    | nil => rfl
    | cons c cs ihs =>
      obtain ⟨hc, hcs⟩ := List.forall_mem_cons.mp ih
      rw [evalList, evalList, bind_apply, bind_apply, hc]
      apply hbind
      rintro ⟨⟨b, r⟩, mid⟩
      by_cases hb : b = unit
      · simp only [hb, if_true]
        exact ihs hcs mid (index + 1)
      · simp only [hb, if_false]
        rfl
  | neg operand ih =>
    rw [eval, eval, bind_apply, bind_apply, ih]
    exact hbind _ _ _ fun _ => rfl

/-- The trees were evaluated one after another, and each came to the unit. -/
inductive Passes (ask : L → Meter ε Bool) (unit : Bool) :
    Nat → List (Formula L) → Nat → Prop where
  | nil (g : Nat) : Passes ask unit g [] g
  | cons {c : Formula L} {cs : List (Formula L)} {r : Reason} {g mid g' : Nat}
      (head : c.eval ask g = .ok ((unit, r), mid)) (tail : Passes ask unit mid cs g') :
      Passes ask unit g (c :: cs) g'

/-- Evaluating the tree with a budget, a left-to-right reader comes to ask the leaf, with so much
left. -/
inductive Comes (ask : L → Meter ε Bool) : Formula L → Nat → L → Nat → Prop where
  | leaf (l : L) (g : Nat) : Comes ask (leaf l) g l g
  | gate {unit : Bool} {before after : List (Formula L)} {c : Formula L} {l : L} {g mid left : Nat}
      (passed : Passes ask unit g before mid) (child : Comes ask c mid l left) :
      Comes ask (gate unit (before ++ c :: after)) g l left
  | neg {t : Formula L} {l : L} {g left : Nat} (operand : Comes ask t g l left) :
      Comes ask (neg t) g l left

variable {ask : L → Meter ε Bool}

/-- A reader comes to leaves of the tree only. -/
theorem Comes.mem_leaves {t : Formula L} {g left : Nat} {l : L} (h : Comes ask t g l left) :
    l ∈ t.leaves := by
  induction h with
  | leaf l g => exact List.mem_singleton.mpr rfl
  | gate passed child ih =>
    exact leaves_subset_of_mem (List.mem_append_right _ List.mem_cons_self) ih
  | neg operand ih => exact ih

/-- Behind children that came to the unit, the gate is evaluated from the next one on. -/
private theorem evalList_of_passes {unit : Bool} {before : List (Formula L)} {g mid : Nat}
    (h : Passes ask unit g before mid) (rest : List (Formula L)) (index : Nat) :
    evalList ask unit index (before ++ rest) g =
      evalList ask unit (index + before.length) rest mid := by
  induction h generalizing index with
  | nil g => rfl
  | @cons c cs r g mid g' head tail ih =>
    rw [List.cons_append, evalList, bind_ok head rfl]
    simp only [if_true]
    rw [ih (index + 1), List.length_cons, Nat.add_right_comm, Nat.add_assoc]

/-- Below a gate, a failing run failed at a child behind some that came to the unit. -/
private theorem evalList_eq_error_iff {unit : Bool} {cs : List (Formula L)} {index g : Nat}
    {e : ε} :
    evalList ask unit index cs g = .error e ↔
      ∃ before c after mid, cs = before ++ c :: after ∧ Passes ask unit g before mid ∧
        c.eval ask mid = .error e := by
  constructor
  · intro h
    induction cs generalizing index g with
    | nil => cases h
    | cons c cs ih =>
      rcases bind_eq_error_iff.mp h with hc | ⟨⟨b, r⟩, mid, hc, hrest⟩
      · exact ⟨[], c, cs, g, rfl, .nil g, hc⟩
      · by_cases hb : b = unit
        · subst hb
          simp only [if_true] at hrest
          obtain ⟨before, d, after, mid', rfl, hpassed, hd⟩ := ih hrest
          exact ⟨c :: before, d, after, mid', rfl, .cons hc hpassed, hd⟩
        · simp only [hb, if_false] at hrest
          cases hrest
  · rintro ⟨before, c, after, mid, rfl, hpassed, hc⟩
    rw [evalList_of_passes hpassed, evalList]
    exact bind_eq_error_iff.mpr (.inl hc)

/-- A run fails exactly where a leaf it comes to ask does. -/
theorem eval_eq_error_iff {t : Formula L} {g : Nat} {e : ε} :
    t.eval ask g = .error e ↔ ∃ l left, Comes ask t g l left ∧ ask l left = .error e := by
  constructor
  · intro h
    induction t using induct generalizing g with
    | leaf l =>
      rcases bind_eq_error_iff.mp h with hl | ⟨b, mid, _, hr⟩
      · exact ⟨l, g, .leaf l g, hl⟩
      · cases hr
    | gate unit cs ih =>
      obtain ⟨before, c, after, mid, rfl, hpassed, hc⟩ := evalList_eq_error_iff.mp h
      obtain ⟨l, left, hcomes, hl⟩ := ih c (List.mem_append_right _ List.mem_cons_self) hc
      exact ⟨l, left, .gate hpassed hcomes, hl⟩
    | neg operand ih =>
      rcases bind_eq_error_iff.mp h with ho | ⟨⟨b, r⟩, mid, _, hr⟩
      · obtain ⟨l, left, hcomes, hl⟩ := ih ho
        exact ⟨l, left, .neg hcomes, hl⟩
      · cases hr
  · intro ⟨l, left, hcomes, hl⟩
    induction hcomes with
    | leaf l g => exact bind_eq_error_iff.mpr (.inl hl)
    | gate passed child ih => exact evalList_eq_error_iff.mpr ⟨_, _, _, _, rfl, passed, ih hl⟩
    | neg operand ih => exact bind_eq_error_iff.mpr (.inl (ih hl))

/-- Renaming the errors of the leaves, a reader comes as far. -/
theorem comes_mapError_iff {f : ε → ε'} {t : Formula L} {g left : Nat} {l : L} :
    Comes (fun l g => (ask l g).mapError f) t g l left ↔ Comes ask t g l left := by
  have hok : ∀ (c : Formula L) (g : Nat) (p : (Bool × Reason) × Nat),
      c.eval (fun l g => (ask l g).mapError f) g = .ok p ↔ c.eval ask g = .ok p := by
    intro c g p
    rw [eval_mapError]
    cases c.eval ask g with
    | error e => exact ⟨nofun, nofun⟩
    | ok q =>
      constructor
      · intro h
        cases h
        rfl
      · intro h
        cases h
        rfl
  have hpasses : ∀ {unit : Bool} {cs : List (Formula L)} {g mid : Nat},
      Passes (fun l g => (ask l g).mapError f) unit g cs mid ↔ Passes ask unit g cs mid := by
    intro unit cs g mid
    constructor
    · intro h
      induction h with
      | nil g => exact .nil g
      | cons head tail ih => exact .cons ((hok _ _ _).mp head) ih
    · intro h
      induction h with
      | nil g => exact .nil g
      | cons head tail ih => exact .cons ((hok _ _ _).mpr head) ih
  constructor
  · intro h
    induction h with
    | leaf l g => exact .leaf l g
    | gate passed child ih => exact .gate (hpasses.mp passed) ih
    | neg operand ih => exact .neg ih
  · intro h
    induction h with
    | leaf l g => exact .leaf l g
    | gate passed child ih => exact .gate (hpasses.mpr passed) ih
    | neg operand ih => exact .neg ih

/-! ## Fixed prices -/

/-- Below a gate, trees that have prices and fail at leaves add up to one. -/
private theorem costs_evalList {out : ε} {unit : Bool} {cs : List (Formula L)}
    (ih : ∀ c ∈ cs, ∃ cost r, Costs out (c.eval ask) cost r ∧ ∀ e, r = .error e →
      ∃ l price, Costs out (ask l) price (.error e) ∧
        ∀ g, cost ≤ g → ∃ left, price ≤ left ∧ Comes ask c g l left) (index : Nat) :
    ∃ cost r, Costs out (evalList ask unit index cs) cost r ∧ ∀ e, r = .error e →
      ∃ l price, Costs out (ask l) price (.error e) ∧
        ∀ g, cost ≤ g → ∃ left, price ≤ left ∧ Comes ask (gate unit cs) g l left := by
  induction cs generalizing index with
  | nil => exact ⟨0, _, costs_pure _, nofun⟩
  | cons c cs ihs =>
    obtain ⟨ihc, ihcs⟩ := List.forall_mem_cons.mp ih
    obtain ⟨cost, r, hcost, hfails⟩ := ihc
    cases r with
    | error e =>
      refine ⟨cost, _, hcost.bind_error _, ?_⟩
      intro e' he
      obtain ⟨l, price, hprice, hcomes⟩ := hfails e' he
      refine ⟨l, price, hprice, ?_⟩
      intro g hg
      obtain ⟨left, hleft, hc⟩ := hcomes g hg
      exact ⟨left, hleft, @Comes.gate _ _ ask unit [] cs c l g g left (.nil g) hc⟩
    | ok p =>
      obtain ⟨b, r⟩ := p
      by_cases hb : b = unit
      · subst hb
        obtain ⟨cost', r', hcost', hfails'⟩ := ihs ihcs (index + 1)
        refine ⟨cost + cost', r', hcost.bind ?_, ?_⟩
        · simp only [if_true]
          exact hcost'
        · intro e he
          obtain ⟨l, price, hprice, hcomes⟩ := hfails' e he
          refine ⟨l, price, hprice, ?_⟩
          intro g hg
          have hpaid := hcost.eq_ok (Nat.le_trans (Nat.le_add_right _ _) hg)
          obtain ⟨left, hleft, hc⟩ := hcomes (g - cost) (Nat.le_sub_of_add_le' hg)
          refine ⟨left, hleft, ?_⟩
          generalize hcs : gate b cs = t at hc
          cases hc with
          | leaf l g => cases hcs
          | neg operand => cases hcs
          | gate passed child =>
            cases hcs
            rw [← List.cons_append]
            exact .gate (.cons hpaid passed) child
      · refine ⟨cost + 0, .ok (b, .childIndex index r), hcost.bind ?_, nofun⟩
        simp only [hb, if_false]
        exact costs_pure _

/-- A tree whose leaves have a fixed price has one. If it fails at its price, so does a leaf at its
own, to which every run that pays the price comes. -/
theorem costs_eval {out : ε} (priced : ∀ l, Priced out (ask l)) (t : Formula L) :
    ∃ cost r, Costs out (t.eval ask) cost r ∧ ∀ e, r = .error e →
      ∃ l price, Costs out (ask l) price (.error e) ∧
        ∀ g, cost ≤ g → ∃ left, price ≤ left ∧ Comes ask t g l left := by
  induction t using induct with
  | leaf l =>
    obtain ⟨cost, r, hcost⟩ := priced l
    cases r with
    | error e =>
      refine ⟨cost, _, hcost.bind_error _, ?_⟩
      intro e' he
      cases he
      exact ⟨l, cost, hcost, fun g hg => ⟨g, hg, .leaf l g⟩⟩
    | ok b => exact ⟨cost + 0, _, hcost.bind (costs_pure _), nofun⟩
  | gate unit cs ih => exact costs_evalList ih 0
  | neg operand ih =>
    obtain ⟨cost, r, hcost, hfails⟩ := ih
    cases r with
    | error e =>
      refine ⟨cost, _, hcost.bind_error _, ?_⟩
      intro e' he
      obtain ⟨l, price, hprice, hcomes⟩ := hfails e' he
      refine ⟨l, price, hprice, ?_⟩
      intro g hg
      obtain ⟨left, hleft, hc⟩ := hcomes g hg
      exact ⟨left, hleft, .neg hc⟩
    | ok p => exact ⟨cost + 0, _, hcost.bind (costs_pure _), nofun⟩

theorem priced_eval {out : ε} (priced : ∀ l, Priced out (ask l)) (t : Formula L) :
    Priced out (t.eval ask) := by
  obtain ⟨cost, r, hcost, -⟩ := costs_eval priced t
  exact ⟨cost, r, hcost⟩

/-- With a larger budget a reader comes as far. -/
theorem Comes.mono {out : ε} (priced : ∀ l, Priced out (ask l)) {t : Formula L} {g h left : Nat}
    {l : L} (hcomes : Comes ask t g l left) (hle : g ≤ h) : ∃ left', Comes ask t h l left' := by
  have hpasses : ∀ {unit : Bool} {cs : List (Formula L)} {g h mid : Nat},
      Passes ask unit g cs mid → g ≤ h → ∃ mid', mid ≤ mid' ∧ Passes ask unit h cs mid' := by
    intro unit cs g h mid hpassed hle
    induction hpassed generalizing h with
    | nil g => exact ⟨h, hle, .nil h⟩
    | @cons c cs r g mid g' head tail ih =>
      obtain ⟨cost, r', hcost⟩ := priced_eval priced c
      obtain ⟨hg, rfl, rfl⟩ := hcost.of_ok head
      obtain ⟨mid', hle', htail⟩ := ih (Nat.sub_le_sub_right hle cost)
      exact ⟨mid', hle', .cons (hcost.eq_ok (Nat.le_trans hg hle)) htail⟩
  induction hcomes generalizing h with
  | leaf l g => exact ⟨h, .leaf l h⟩
  | gate passed child ih =>
    obtain ⟨mid', hle', hpassed⟩ := hpasses passed hle
    obtain ⟨left', hchild⟩ := ih hle'
    exact ⟨left', .gate hpassed hchild⟩
  | neg operand ih =>
    obtain ⟨left', hoperand⟩ := ih hle
    exact ⟨left', .neg hoperand⟩

end Formula
