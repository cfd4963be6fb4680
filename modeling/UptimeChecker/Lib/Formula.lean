import UptimeChecker.Lib.Metered

/-!
# Boolean trees under short-circuit evaluation

A tree of conjunctions, disjunctions and negations over leaves of any type. Conjunction and
disjunction are one connective, a gate with a UNIT: the gate has its unit for value when all its
children do (a gate without children does), and otherwise the opposite. The unit of a conjunction is
true, that of a disjunction false.

An evaluator asks the leaves from left to right, stops a gate at the first child off its unit, and
reports next to the value a `Reason`: the child that decided, and why that child came out as it did.
The account of it here is denotational. A tree whose leaves carry a verdict has a value, the
sequence of leaves a left-to-right reader needs, and the reason it would give. `eval_of_ran` and
`ran_of_eval` say that a run computes exactly these from the verdicts of the leaves it asked.
`certifies_reason` says what a reason tells about the tree, and `extract_reason` that the part of
the tree a reason points at decides the same value from leaves already asked.
-/

/-- A tree of gates and negations over leaves. -/
inductive Formula (L : Type) where
  | leaf (l : L)
  | gate (unit : Bool) (children : List (Formula L))
  | neg (operand : Formula L)

/-- Why a tree has its value: itself, all its children, or one of them. -/
inductive Reason where
  | leaf
  | allChildren
  | childIndex (index : Nat) (child : Reason)
deriving DecidableEq, Repr

namespace Formula

open Metered

variable {L L' ε : Type}

/-- Induction over a tree, with the hypothesis for every child of a gate. -/
@[elab_as_elim] theorem induct {P : Formula L → Prop} (leaf : ∀ l, P (leaf l))
    (gate : ∀ unit children, (∀ c ∈ children, P c) → P (gate unit children))
    (neg : ∀ operand, P operand → P (neg operand)) (t : Formula L) : P t :=
  @Formula.rec L P (fun cs => ∀ c ∈ cs, P c) leaf gate neg
    (fun _ h => (List.not_mem_nil h).elim)
    (fun _ _ hc hcs => List.forall_mem_cons.mpr ⟨hc, hcs⟩) t

/-! ## Structure -/

mutual

/-- Relabel the leaves. -/
def map (f : L → L') : Formula L → Formula L'
  | leaf l => leaf (f l)
  | gate unit children => gate unit (mapList f children)
  | neg operand => neg (map f operand)

/-- Relabel the leaves of every child. -/
def mapList (f : L → L') : List (Formula L) → List (Formula L')
  | [] => []
  | c :: cs => map f c :: mapList f cs

end

mutual

/-- Nodes of the tree. -/
def size : Formula L → Nat
  | leaf _ => 1
  | gate _ children => 1 + sizeList children
  | neg operand => 1 + size operand

/-- Nodes of all children. -/
def sizeList : List (Formula L) → Nat
  | [] => 0
  | c :: cs => size c + sizeList cs

end

mutual

/-- The leaves from left to right. -/
def leaves : Formula L → List L
  | leaf l => [l]
  | gate _ children => leavesList children
  | neg operand => leaves operand

/-- The leaves of all children. -/
def leavesList : List (Formula L) → List L
  | [] => []
  | c :: cs => leaves c ++ leavesList cs

end

theorem mapList_eq (f : L → L') (cs : List (Formula L)) : mapList f cs = cs.map (map f) := by
  induction cs with
  | nil => rfl
  | cons c cs ih => rw [mapList, ih, List.map_cons]

/-- Relabelling keeps the nodes. -/
@[simp] theorem size_map (f : L → L') (t : Formula L) : (t.map f).size = t.size := by
  induction t using induct with
  | leaf l => rfl
  | gate unit children ih =>
    rw [map, size, size, mapList_eq, Nat.add_right_inj]
    induction children with
    | nil => rfl
    | cons c cs ihs =>
      obtain ⟨hc, hcs⟩ := List.forall_mem_cons.mp ih
      rw [List.map_cons, sizeList, sizeList, hc, ihs hcs]
  | neg operand ih => rw [map, size, size, ih]

/-- Relabelling the tree relabels its leaves. -/
@[simp] theorem leaves_map (f : L → L') (t : Formula L) :
    (t.map f).leaves = t.leaves.map f := by
  induction t using induct with
  | leaf l => rfl
  | gate unit children ih =>
    rw [map, leaves, leaves, mapList_eq]
    induction children with
    | nil => rfl
    | cons c cs ihs =>
      obtain ⟨hc, hcs⟩ := List.forall_mem_cons.mp ih
      rw [List.map_cons, leavesList, leavesList, hc, ihs hcs, List.map_append]
  | neg operand ih => rw [map, leaves, leaves, ih]

theorem map_map {L'' : Type} (f : L' → L'') (g : L → L') (t : Formula L) :
    (t.map g).map f = t.map fun l => f (g l) := by
  induction t using induct with
  | leaf l => rfl
  | gate unit children ih =>
    simp only [map, mapList_eq, List.map_map]
    exact congrArg _ (List.map_congr_left ih)
  | neg operand ih => rw [map, map, map, ih]

theorem map_id (t : Formula L) : (t.map fun l => l) = t := by
  induction t using induct with
  | leaf l => rfl
  | gate unit children ih =>
    rw [map, mapList_eq]
    exact congrArg _ ((List.map_congr_left ih).trans (List.map_id children))
  | neg operand ih => rw [map, ih]

theorem leaves_subset_of_mem {c : Formula L} {cs : List (Formula L)} (h : c ∈ cs) :
    c.leaves ⊆ leavesList cs := by
  induction cs with
  | nil => cases h
  | cons d cs ih =>
    intro l hl
    rw [leavesList]
    rcases List.mem_cons.mp h with rfl | h
    · exact List.mem_append_left _ hl
    · exact List.mem_append_right _ (ih h hl)

private theorem size_le_of_mem {c : Formula L} {cs : List (Formula L)} (h : c ∈ cs) :
    c.size ≤ sizeList cs := by
  induction cs with
  | nil => cases h
  | cons d cs ih =>
    rw [sizeList]
    rcases List.mem_cons.mp h with rfl | h
    · exact Nat.le_add_right _ _
    · exact Nat.le_add_left_of_le (ih h)

/-! ## The part a reason points at -/

/-- The path a reason takes, cut out of the tree: every gate on it keeps the one child the reason
names. No answer where the reason does not fit the tree. -/
def extract : Reason → Formula L → Option (Formula L)
  | .leaf, t => some t
  | .allChildren, t => some t
  | .childIndex index child, gate unit children =>
    children[index]?.bind fun c => (extract child c).map fun s => gate unit [s]
  | .childIndex _ child, neg operand => (extract child operand).map neg
  | .childIndex .., leaf _ => none

/-- Extraction does not look at the leaves. -/
theorem extract_map (f : L → L') (r : Reason) (t : Formula L) :
    extract r (t.map f) = (extract r t).map (map f) := by
  induction r generalizing t with
  | leaf => rfl
  | allChildren => rfl
  | childIndex index child ih =>
    cases t with
    | leaf l => rfl
    | gate unit children =>
      simp only [map, extract, mapList_eq, List.getElem?_map]
      cases children[index]? with
      | none => rfl
      | some c =>
        simp only [Option.map_some, Option.bind_some, ih, Option.map_map]
        congr 1
    | neg operand =>
      simp only [map, extract, ih, Option.map_map]
      congr 1

/-! ## Trees with verdicts -/

mutual

/-- The value of the tree over the verdicts of its leaves. -/
def value : Formula (L × Bool) → Bool
  | leaf l => l.2
  | gate unit children => if allAre unit children then unit else !unit
  | neg operand => !value operand

/-- Every child has the value. -/
def allAre (unit : Bool) : List (Formula (L × Bool)) → Bool
  | [] => true
  | c :: cs => value c == unit && allAre unit cs

end

mutual

/-- The leaves a left-to-right reader asks, with their verdicts: a gate is left at the first child
off its unit. -/
def reached : Formula (L × Bool) → List (L × Bool)
  | leaf l => [l]
  | gate unit children => reachedList unit children
  | neg operand => reached operand

/-- The leaves asked below a gate. -/
def reachedList (unit : Bool) : List (Formula (L × Bool)) → List (L × Bool)
  | [] => []
  | c :: cs => reached c ++ if value c = unit then reachedList unit cs else []

end

mutual

/-- The reason a left-to-right reader gives. -/
def reason : Formula (L × Bool) → Reason
  | leaf _ => .leaf
  | gate unit children => reasonList unit 0 children
  | neg operand => .childIndex 0 (reason operand)

/-- The reason below a gate, the first child having the given index. -/
def reasonList (unit : Bool) (index : Nat) : List (Formula (L × Bool)) → Reason
  | [] => .allChildren
  | c :: cs => if value c = unit then reasonList unit (index + 1) cs
    else .childIndex index (reason c)

end

theorem allAre_iff {unit : Bool} {cs : List (Formula (L × Bool))} :
    allAre unit cs = true ↔ ∀ c ∈ cs, c.value = unit := by
  induction cs with
  | nil => simp [allAre]
  | cons c cs ih => simp [allAre, ih]

/-- How a gate was left: after all children, or at the first child off the unit. -/
theorem gate_cases (unit : Bool) (index : Nat) (cs : List (Formula (L × Bool))) :
    ((∀ c ∈ cs, c.value = unit) ∧ reasonList unit index cs = .allChildren) ∨
    ∃ k c, cs[k]? = some c ∧ c.value ≠ unit ∧ (∀ d ∈ cs.take k, d.value = unit) ∧
      reasonList unit index cs = .childIndex (index + k) c.reason ∧
      c.reached.Sublist (reachedList unit cs) := by
  induction cs generalizing index with
  | nil => exact .inl ⟨fun c hc => (List.not_mem_nil hc).elim, rfl⟩
  | cons c cs ih =>
    by_cases hc : c.value = unit
    · rw [reasonList, reachedList, if_pos hc, if_pos hc]
      rcases ih (index + 1) with ⟨hall, hr⟩ | ⟨k, d, hk, hd, htake, hr, hsub⟩
      · exact .inl ⟨List.forall_mem_cons.mpr ⟨hc, hall⟩, hr⟩
      · refine .inr ⟨k + 1, d, hk, hd, ?_, ?_, ?_⟩
        · rw [List.take_succ_cons]
          exact List.forall_mem_cons.mpr ⟨hc, htake⟩
        · rw [hr, Nat.add_assoc, Nat.add_comm 1 k]
        · exact hsub.trans (List.sublist_append_right _ _)
    · rw [reasonList, reachedList, if_neg hc, if_neg hc]
      exact .inr ⟨0, c, rfl, hc, fun d hd => (List.not_mem_nil hd).elim, rfl,
        List.sublist_append_left _ _⟩

/-! ## What a reason certifies -/

/-- The reason fits the verdicts at every node on it. -/
inductive Certifies : Reason → Formula (L × Bool) → Prop where
  | leaf (l : L × Bool) : Certifies .leaf (leaf l)
  | allChildren {unit : Bool} {cs : List (Formula (L × Bool))}
      (all : ∀ c ∈ cs, c.value = unit) : Certifies .allChildren (gate unit cs)
  | gateChild {unit : Bool} {cs : List (Formula (L × Bool))} {index : Nat}
      {c : Formula (L × Bool)} {r : Reason} (child : cs[index]? = some c)
      (off : c.value ≠ unit) (before : ∀ d ∈ cs.take index, d.value = unit)
      (rest : Certifies r c) : Certifies (.childIndex index r) (gate unit cs)
  | negChild {t : Formula (L × Bool)} {r : Reason} (rest : Certifies r t) :
      Certifies (.childIndex 0 r) (neg t)

/-- The reader's reason is a certificate. -/
theorem certifies_reason (t : Formula (L × Bool)) : Certifies t.reason t := by
  induction t using induct with
  | leaf l => exact .leaf l
  | gate unit cs ih =>
    rw [reason]
    rcases gate_cases unit 0 cs with ⟨hall, hr⟩ | ⟨k, c, hk, hc, htake, hr, -⟩
    · rw [hr]
      exact .allChildren hall
    · rw [hr, Nat.zero_add]
      exact .gateChild hk hc htake (ih c (List.mem_of_getElem? hk))
  | neg t ih => exact .negChild ih

/-! ## The extracted part decides the same value -/

/-- A tree that decides another's value on its own, with no new node and no new question. -/
structure Decides (s t : Formula (L × Bool)) : Prop where
  value : s.value = t.value
  reached : s.reached.Sublist t.reached
  leaves : s.leaves ⊆ t.leaves
  size : s.size ≤ t.size

theorem Decides.refl (t : Formula (L × Bool)) : Decides t t :=
  ⟨rfl, List.Sublist.refl _, fun _ h => h, Nat.le_refl _⟩

/-- Below a gate, the child off the unit decides alone. -/
theorem Decides.gate {unit : Bool} {cs : List (Formula (L × Bool))} {c s : Formula (L × Bool)}
    (hs : Decides s c) (hc : c ∈ cs) (off : c.value ≠ unit)
    (hsub : c.reached.Sublist (reachedList unit cs)) :
    Decides (gate unit [s]) (gate unit cs) := by
  have hs_off : s.value ≠ unit := by rwa [hs.value]
  have hone : allAre unit [s] = false := by simp [allAre, hs_off]
  have hmany : allAre unit cs = false :=
    Bool.eq_false_iff.mpr fun h => off (allAre_iff.mp h c hc)
  refine ⟨?_, ?_, ?_, ?_⟩
  · rw [Formula.value, Formula.value, hone, hmany]
  · rw [Formula.reached, Formula.reached, reachedList, if_neg hs_off, List.append_nil]
    exact hs.reached.trans hsub
  · rw [Formula.leaves, Formula.leaves, leavesList, leavesList, List.append_nil]
    exact fun l hl => leaves_subset_of_mem hc (hs.leaves hl)
  · rw [Formula.size, Formula.size, sizeList, sizeList]
    have := hs.size
    have := size_le_of_mem hc
    omega

theorem Decides.neg {s t : Formula (L × Bool)} (hs : Decides s t) : Decides (neg s) (neg t) := by
  refine ⟨?_, hs.reached, hs.leaves, ?_⟩
  · rw [Formula.value, Formula.value, hs.value]
  · rw [Formula.size, Formula.size]
    have := hs.size
    omega

/-- The part the reason points at exists and decides the tree's value. -/
theorem extract_reason (t : Formula (L × Bool)) :
    ∃ s, extract t.reason t = some s ∧ Decides s t := by
  induction t using induct with
  | leaf l => exact ⟨leaf l, rfl, Decides.refl _⟩
  | gate unit cs ih =>
    rw [reason]
    rcases gate_cases unit 0 cs with ⟨_, hr⟩ | ⟨k, c, hk, hc, _, hr, hsub⟩
    · rw [hr]
      exact ⟨_, rfl, Decides.refl _⟩
    · have hmem := List.mem_of_getElem? hk
      obtain ⟨s, hs, hdec⟩ := ih c hmem
      refine ⟨gate unit [s], ?_, hdec.gate hmem hc hsub⟩
      rw [hr, Nat.zero_add, extract, hk, Option.bind_some, hs, Option.map_some]
  | neg t ih =>
    obtain ⟨s, hs, hdec⟩ := ih
    exact ⟨neg s, by rw [reason, extract, hs, Option.map_some], hdec.neg⟩

/-! ## Evaluation -/

mutual

/-- Ask the leaves from left to right, and answer the value with its reason. -/
def eval (ask : L → Meter ε Bool) : Formula L → Meter ε (Bool × Reason)
  | leaf l => do return (← ask l, .leaf)
  | gate unit children => evalList ask unit 0 children
  | neg operand => do
    let (b, r) ← eval ask operand
    return (!b, .childIndex 0 r)

/-- Ask the children of a gate, the first of them having the given index. -/
def evalList (ask : L → Meter ε Bool) (unit : Bool) (index : Nat) :
    List (Formula L) → Meter ε (Bool × Reason)
  | [] => return (unit, .allChildren)
  | c :: cs => do
    let (b, r) ← eval ask c
    if b = unit then evalList ask unit (index + 1) cs
    else return (b, .childIndex index r)

end

/-- The leaves were asked one after the other, each with the budget the ones before it left, and
gave these verdicts. -/
inductive Ran (ask : L → Meter ε Bool) : Nat → List (L × Bool) → Nat → Prop where
  | nil (g : Nat) : Ran ask g [] g
  | cons {l : L} {b : Bool} {g mid g' : Nat} {run : List (L × Bool)}
      (head : ask l g = .ok (b, mid)) (tail : Ran ask mid run g') : Ran ask g ((l, b) :: run) g'

variable {ask : L → Meter ε Bool}

theorem Ran.append {g mid g' : Nat} {run run' : List (L × Bool)} (h : Ran ask g run mid)
    (h' : Ran ask mid run' g') : Ran ask g (run ++ run') g' := by
  induction h with
  | nil => exact h'
  | cons head _ ih => exact .cons head (ih h')

theorem Ran.of_append {g g' : Nat} {run run' : List (L × Bool)}
    (h : Ran ask g (run ++ run') g') : ∃ mid, Ran ask g run mid ∧ Ran ask mid run' g' := by
  induction run generalizing g with
  | nil => exact ⟨g, .nil g, h⟩
  | cons p run ih =>
    cases h with
    | cons head tail =>
      obtain ⟨mid, hl, hr⟩ := ih tail
      exact ⟨mid, .cons head hl, hr⟩

/-- A relabelled tree is evaluated by asking through the label. -/
theorem eval_map (f : L' → L) (t : Formula L') :
    (t.map f).eval ask = t.eval fun l => ask (f l) := by
  induction t using induct with
  | leaf l => rfl
  | gate unit children ih =>
    rw [map, eval, eval, mapList_eq]
    generalize 0 = index
    induction children generalizing index with
    | nil => rfl
    | cons c cs ihs =>
      obtain ⟨hc, hcs⟩ := List.forall_mem_cons.mp ih
      simp only [List.map_cons, evalList, hc, ihs hcs]
  | neg operand ih => rw [map, eval, eval, ih]

/-- A tree is evaluated in the same way by readers that answer alike at its leaves. -/
theorem eval_congr {ask' : L → Meter ε Bool} {t : Formula L} (h : ∀ l ∈ t.leaves, ask l = ask' l) :
    t.eval ask = t.eval ask' := by
  induction t using induct with
  | leaf l => rw [eval, eval, h l (List.mem_singleton.mpr rfl)]
  | gate unit children ih =>
    rw [eval, eval]
    generalize 0 = index
    induction children generalizing index with
    | nil => rfl
    | cons c cs ihs =>
      obtain ⟨hc, hcs⟩ := List.forall_mem_cons.mp ih
      rw [evalList, evalList, hc fun l hl => h l (List.mem_append_left _ hl),
        ihs hcs fun l hl => h l (List.mem_append_right _ hl)]
  | neg operand ih => rw [eval, eval, ih h]

/-- From the verdicts of the leaves a reader needs, the evaluator computes the value and the
reason of the tree. -/
theorem eval_of_ran {t : Formula (L × Bool)} {g g' : Nat} (h : Ran ask g t.reached g') :
    (t.map Prod.fst).eval ask g = .ok ((t.value, t.reason), g') := by
  induction t using induct generalizing g g' with
  | leaf l =>
    cases h with
    | cons head tail =>
      cases tail
      exact bind_ok head rfl
  | gate unit cs ih =>
    rw [map, eval, mapList_eq, value, reason]
    rw [reached] at h
    generalize 0 = index
    induction cs generalizing g index with
    | nil =>
      cases h
      rfl
    | cons c cs ihs =>
      obtain ⟨ihc, ihcs⟩ := List.forall_mem_cons.mp ih
      obtain ⟨mid, hl, hr⟩ := h.of_append
      have hc := ihc hl
      rw [List.map_cons, evalList, reasonList, allAre]
      apply bind_ok hc
      by_cases hv : c.value = unit
      · rw [if_pos hv] at hr
        simp only [hv, if_true, beq_self_eq_true, Bool.true_and]
        exact ihs ihcs hr (index + 1)
      · rw [if_neg hv] at hr
        cases hr
        have hv' : c.value = !unit := Bool.eq_not_of_ne hv
        simp [hv']
        rfl
  | neg operand ih => exact bind_ok (ih h) rfl

/-- Verdicts for the leaves nobody asks. -/
private theorem exists_verdicts (cs : List (Formula L)) :
    ∃ ds : List (Formula (L × Bool)), ds.map (map Prod.fst) = cs := by
  refine ⟨cs.map (map fun l => (l, true)), ?_⟩
  rw [List.map_map]
  refine (List.map_congr_left ?_).trans (List.map_id cs)
  intro c _
  show (c.map _).map _ = c
  rw [map_map]
  exact map_id c

/-- A run that answers has asked the leaves a left-to-right reader needs, and no others. -/
theorem ran_of_eval {t : Formula L} {g g' : Nat} {p : Bool × Reason}
    (h : t.eval ask g = .ok (p, g')) :
    ∃ d : Formula (L × Bool), d.map Prod.fst = t ∧ Ran ask g d.reached g' := by
  induction t using induct generalizing g g' p with
  | leaf l =>
    obtain ⟨b, mid, hl, hr⟩ := bind_eq_ok h
    cases hr
    exact ⟨leaf (l, b), rfl, .cons hl (.nil _)⟩
  | gate unit cs ih =>
    rw [eval] at h
    suffices hd : ∃ ds : List (Formula (L × Bool)),
        ds.map (map Prod.fst) = cs ∧ Ran ask g (reachedList unit ds) g' by
      obtain ⟨ds, rfl, hrun⟩ := hd
      exact ⟨gate unit ds, by rw [map, mapList_eq], hrun⟩
    generalize 0 = index at h
    induction cs generalizing g index with
    | nil =>
      cases h
      exact ⟨[], rfl, .nil _⟩
    | cons c cs ihs =>
      obtain ⟨ihc, ihcs⟩ := List.forall_mem_cons.mp ih
      obtain ⟨⟨b, r⟩, mid, hc, hr⟩ := bind_eq_ok h
      obtain ⟨d, rfl, hd⟩ := ihc hc
      -- The verdicts found decide the child as the run did.
      have hb : b = d.value := by
        rw [eval_of_ran hd] at hc
        cases hc
        rfl
      by_cases hu : b = unit
      · simp only [hu, if_true] at hr
        obtain ⟨ds, rfl, hds⟩ := ihs ihcs (index + 1) hr
        refine ⟨d :: ds, rfl, ?_⟩
        rw [reachedList, if_pos (hb.symm.trans hu)]
        exact hd.append hds
      · simp only [hu, if_false] at hr
        cases hr
        obtain ⟨ds, rfl⟩ := exists_verdicts cs
        refine ⟨d :: ds, rfl, ?_⟩
        rw [reachedList, if_neg (hb ▸ hu), List.append_nil]
        exact hd
  | neg operand ih =>
    obtain ⟨q, mid, hq, hr⟩ := bind_eq_ok h
    cases hr
    obtain ⟨d, rfl, hd⟩ := ih hq
    exact ⟨neg d, rfl, hd⟩

/-! ## Skipping questions

Leaves with a fixed price can be left out: what is left over only grows, so the leaves still asked
answer as before. -/

theorem Ran.mono (priced : ∀ l, ∃ out, Priced out (ask l)) {g h g' : Nat}
    {run : List (L × Bool)} (hrun : Ran ask g run g') (hle : g ≤ h) :
    ∃ h', g' ≤ h' ∧ Ran ask h run h' := by
  induction hrun generalizing h with
  | nil g => exact ⟨h, hle, .nil h⟩
  | @cons l b g mid g' run head _ ih =>
    obtain ⟨out, cost, r, hcost⟩ := priced l
    obtain ⟨hg, rfl, rfl⟩ := hcost.of_ok head
    obtain ⟨h', hle', hrun'⟩ := ih (Nat.sub_le_sub_right hle cost)
    exact ⟨h', hle', .cons (hcost.eq_ok (Nat.le_trans hg hle)) hrun'⟩

theorem Ran.sublist (priced : ∀ l, ∃ out, Priced out (ask l)) {g g' : Nat}
    {run run' : List (L × Bool)} (hrun : Ran ask g run g') (hsub : run'.Sublist run) :
    ∃ h', g' ≤ h' ∧ Ran ask g run' h' := by
  induction hsub generalizing g with
  | slnil => exact ⟨g', Nat.le_refl _, hrun⟩
  | cons p _ ih =>
    cases hrun with
    | @cons l b _ mid _ _ head tail =>
      obtain ⟨out, cost, r, hcost⟩ := priced l
      obtain ⟨_, rfl, _⟩ := hcost.of_ok head
      obtain ⟨h', hle, hrun'⟩ := ih tail
      obtain ⟨h'', hle', hrun''⟩ := hrun'.mono priced (Nat.sub_le g cost)
      exact ⟨h'', Nat.le_trans hle hle', hrun''⟩
  | cons_cons p _ ih =>
    cases hrun with
    | cons head tail =>
      obtain ⟨h', hle, hrun'⟩ := ih tail
      exact ⟨h', hle, .cons head hrun'⟩

/-- The part of the tree a run's reason points at, evaluated from the same budget on its own,
answers the same value. -/
theorem eval_extract (priced : ∀ l, ∃ out, Priced out (ask l)) {t : Formula L} {g g' : Nat}
    {b : Bool} {r : Reason} (h : t.eval ask g = .ok ((b, r), g')) :
    ∃ s, extract r t = some s ∧ s.size ≤ t.size ∧ s.leaves ⊆ t.leaves ∧
      ∃ r' h', s.eval ask g = .ok ((b, r'), h') := by
  obtain ⟨d, rfl, hrun⟩ := ran_of_eval h
  rw [eval_of_ran hrun] at h
  cases h
  obtain ⟨s, hs, hdec⟩ := extract_reason d
  obtain ⟨h', _, hrun'⟩ := hrun.sublist priced hdec.reached
  refine ⟨s.map Prod.fst, ?_, ?_, ?_, s.reason, h', ?_⟩
  · rw [extract_map, hs, Option.map_some]
  · rw [size_map, size_map]
    exact hdec.size
  · rw [leaves_map, leaves_map]
    exact List.map_subset _ hdec.leaves
  · rw [eval_of_ran hrun', hdec.value]

end Formula
