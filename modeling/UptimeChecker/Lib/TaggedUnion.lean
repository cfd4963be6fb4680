import Mathlib.Data.List.Basic

/-!
# Tagged and untagged unions

How a union is read from a tree of objects. A tagged union has its case named by a field of the
object, and the other fields are those of the case; fields that no case asks for are passed over. An
untagged union is read by trial: its alternatives are tried in order, and the first that reads the
value wins. So an alternative of an untagged union reads back what it wrote exactly where no earlier
one reads it.
-/

namespace TaggedUnion

variable {V α β : Type}

/-- A field of an object. A field that is missing, or there more than once, is an error. -/
def field (name : String) (fields : List (String × V)) : Option V :=
  match fields.filter (·.1 = name) with
  | [(_, value)] => some value
  | _ => none

@[simp] theorem field_cons_self {name : String} {value : V} {fields : List (String × V)}
    (h : ∀ f ∈ fields, f.1 ≠ name) : field name ((name, value) :: fields) = some value := by
  have hnone : fields.filter (·.1 = name) = [] := by
    apply List.filter_eq_nil_iff.mpr
    intro f hf
    simp [h f hf]
  simp [field, hnone]

@[simp] theorem field_cons_of_ne {name other : String} {value : V} {fields : List (String × V)}
    (h : other ≠ name) : field name ((other, value) :: fields) = field name fields := by
  simp [field, h]

/-- A field that may be left out, in which case it has the value `absent`. There more than once, it
is still an error. -/
def fieldOr (name : String) (read : V → Option α) (absent : α) (fields : List (String × V)) :
    Option α :=
  match fields.filter (·.1 = name) with
  | [] => some absent
  | [(_, value)] => read value
  | _ => none

/-- A case of a tagged union: its name, and how its fields are read. -/
structure Variant (V α : Type) where
  name : String
  read : List (String × V) → Option α

/-- The object's tag names one of the variants, which reads the other fields. -/
def readTagged (tagField : String) (asStr : V → Option String) (variants : List (Variant V α))
    (fields : List (String × V)) : Option α := do
  let tag ← asStr (← field tagField fields)
  let variant ← variants.find? (·.name = tag)
  variant.read (fields.filter (·.1 ≠ tagField))

/-- The fields of a variant behind its tag. -/
theorem readTagged_cons {tagField : String} {asStr : V → Option String}
    {variants : List (Variant V α)} {tag : V} {name : String} {fields : List (String × V)}
    (htag : asStr tag = some name) (hfields : ∀ f ∈ fields, f.1 ≠ tagField) :
    readTagged tagField asStr variants ((tagField, tag) :: fields) =
      (variants.find? (·.name = name)).bind (·.read fields) := by
  have hrest : fields.filter (·.1 ≠ tagField) = fields := by
    apply List.filter_eq_self.mpr
    intro f hf
    simp [hfields f hf]
  unfold readTagged
  rw [field_cons_self hfields]
  simp only [Option.bind_eq_bind, Option.bind_some, htag, List.filter_cons, ne_eq,
    not_true_eq_false, decide_false, Bool.false_eq_true, if_false]
  rw [show fields.filter (fun f => decide (¬f.1 = tagField)) = fields from hrest]

/-! ## Fields in any order -/

/-- The fields that are there, among fields that may be left out. -/
def present (known : List (String × Option V)) : List (String × V) :=
  known.filterMap fun f => f.2.map (f.1, ·)

/-- An object that carries the fields `known`, each but those left out once and in any order, and
beside them only fields of other names. -/
def Carries (known : List (String × Option V)) (fields : List (String × V)) : Prop :=
  (known.map (·.1)).Nodup ∧
    ∃ unknown, (∀ f ∈ unknown, f.1 ∉ known.map (·.1)) ∧ fields.Perm (present known ++ unknown)

@[simp] theorem present_cons_some (name : String) (value : V) (known : List (String × Option V)) :
    present ((name, some value) :: known) = (name, value) :: present known := rfl

@[simp] theorem present_cons_none (name : String) (known : List (String × Option V)) :
    present ((name, none) :: known) = present known := rfl

theorem name_mem_of_mem_present {known : List (String × Option V)} {f : String × V}
    (h : f ∈ present known) : f.1 ∈ known.map (·.1) := by
  obtain ⟨k, hk, hf⟩ := List.mem_filterMap.mp h
  obtain ⟨value, -, rfl⟩ := Option.map_eq_some_iff.mp hf
  exact List.mem_map_of_mem hk

/-- Of a name, the fields that are there are the one that is known, if it is not left out. -/
private theorem filter_present {known : List (String × Option V)} {name : String}
    {value : Option V} (hnodup : (known.map (·.1)).Nodup) (hmem : (name, value) ∈ known) :
    (present known).filter (·.1 = name) = (value.map (name, ·)).toList := by
  induction known with
  | nil => cases hmem
  | cons k known ih =>
    obtain ⟨other, own⟩ := k
    obtain ⟨hother, hrest⟩ := List.nodup_cons.mp hnodup
    rcases List.mem_cons.mp hmem with heq | htail
    · cases heq
      have hnone : (present known).filter (·.1 = name) = [] := by
        apply List.filter_eq_nil_iff.mpr
        intro f hf hname
        exact hother (of_decide_eq_true hname ▸ name_mem_of_mem_present hf)
      cases value <;> simp [hnone]
    · have hne : other ≠ name := by
        rintro rfl
        exact hother (List.mem_map.mpr ⟨_, htail, rfl⟩)
      have hown : (present ((other, own) :: known)).filter (·.1 = name) =
          (present known).filter (·.1 = name) := by
        cases own <;> simp [hne]
      rw [hown, ih hrest htail]

namespace Carries

variable {known : List (String × Option V)} {fields : List (String × V)} {name : String}

protected theorem refl (hnodup : (known.map (·.1)).Nodup) : Carries known (present known) :=
  ⟨hnodup, [], nofun, by rw [List.append_nil]⟩

/-- Of a known name, the object has the field that is carried. -/
private theorem filter_eq {value : Option V} (h : Carries known fields)
    (hmem : (name, value) ∈ known) :
    fields.filter (·.1 = name) = (value.map (name, ·)).toList := by
  obtain ⟨hnodup, unknown, hunknown, hperm⟩ := h
  have hnone : unknown.filter (·.1 = name) = [] := by
    apply List.filter_eq_nil_iff.mpr
    intro f hf hname
    exact hunknown f hf (of_decide_eq_true hname ▸ List.mem_map_of_mem hmem)
  have hfilter := hperm.filter (·.1 = name)
  rw [List.filter_append, hnone, List.append_nil, filter_present hnodup hmem] at hfilter
  cases value with
  | none => exact hfilter.eq_nil
  | some value => exact List.perm_singleton.mp hfilter

/-- A field that is carried is found. -/
theorem field_eq {value : V} (h : Carries known fields) (hmem : (name, some value) ∈ known) :
    field name fields = some value := by
  unfold field
  rw [h.filter_eq hmem]
  rfl

/-- A field that may be left out is read if it is carried. -/
theorem fieldOr_eq {value : Option V} (h : Carries known fields) (hmem : (name, value) ∈ known)
    (read : V → Option α) (absent : α) :
    fieldOr name read absent fields = value.elim (some absent) read := by
  unfold fieldOr
  rw [h.filter_eq hmem]
  cases value <;> rfl

/-- The values may be put through a function. -/
theorem map {W : Type} (h : Carries known fields) (g : V → W) :
    Carries (known.map fun f => (f.1, f.2.map g)) (fields.map fun f => (f.1, g f.2)) := by
  obtain ⟨hnodup, unknown, hunknown, hperm⟩ := h
  have hnames : (known.map fun f => (f.1, f.2.map g)).map (·.1) = known.map (·.1) := by
    rw [List.map_map]
    rfl
  refine ⟨by rwa [hnames], unknown.map fun f => (f.1, g f.2), ?_, ?_⟩
  · intro f hf
    obtain ⟨u, hu, rfl⟩ := List.mem_map.mp hf
    rw [hnames]
    exact hunknown u hu
  · have hpresent : present (known.map fun f => (f.1, f.2.map g)) =
        (present known).map fun f => (f.1, g f.2) := by
      unfold present
      rw [List.filterMap_map, List.map_filterMap]
      congr 1
      funext f
      simp [Function.comp_def]
    rw [hpresent, ← List.map_append]
    exact hperm.map _

/-- The tag of an object names the variant that reads what else it carries. -/
theorem readTagged_eq {tagField : String} {asStr : V → Option String}
    {variants : List (Variant V α)} {tag : V}
    (h : Carries ((tagField, some tag) :: known) fields) (htag : asStr tag = some name) :
    ∃ rest, Carries known rest ∧
      readTagged tagField asStr variants fields =
        (variants.find? (·.name = name)).bind (·.read rest) := by
  have hfield : field tagField fields = some tag := h.field_eq List.mem_cons_self
  obtain ⟨hnodup, unknown, hunknown, hperm⟩ := h
  obtain ⟨htagField, hnodup⟩ := List.nodup_cons.mp hnodup
  refine ⟨fields.filter (·.1 ≠ tagField), ⟨hnodup, unknown, ?_, ?_⟩, ?_⟩
  · intro f hf hname
    exact hunknown f hf (List.mem_cons_of_mem _ hname)
  · have hrest : (present known ++ unknown).filter (·.1 ≠ tagField) =
        present known ++ unknown := by
      apply List.filter_eq_self.mpr
      intro f hf
      apply decide_eq_true
      rintro rfl
      rcases List.mem_append.mp hf with hf | hf
      · exact htagField (name_mem_of_mem_present hf)
      · exact hunknown f hf List.mem_cons_self
    have hfilter := hperm.filter (·.1 ≠ tagField)
    rw [present_cons_some, List.cons_append, List.filter_cons_of_neg (by simp), hrest] at hfilter
    exact hfilter
  · unfold readTagged
    rw [hfield]
    simp only [Option.bind_eq_bind, Option.bind_some, htag]

end Carries

/-! ## Untagged unions -/

/-- The alternatives in order; the first that reads the value wins. -/
def readUntagged (alternatives : List (V → Option α)) (value : V) : Option α :=
  alternatives.findSome? fun read => read value

/-- A value that some alternative reads is read so exactly where no earlier one reads it, as long as
no earlier one comes to the same. -/
theorem readUntagged_eq_some_iff {earlier later : List (V → Option α)} {read : V → Option α}
    {value : V} {a : α} (h : read value = some a) (hdisjoint : ∀ r ∈ earlier, r value ≠ some a) :
    readUntagged (earlier ++ read :: later) value = some a ↔ ∀ r ∈ earlier, r value = none := by
  unfold readUntagged
  rw [List.findSome?_append, List.findSome?_cons_of_isSome (by rw [h]; rfl), h]
  cases hearlier : earlier.findSome? fun r => r value with
  | none =>
    rw [Option.none_or]
    exact iff_of_true rfl (List.findSome?_eq_none_iff.mp hearlier)
  | some other =>
    obtain ⟨r, hr, hread⟩ := List.exists_of_findSome?_eq_some hearlier
    rw [Option.some_or]
    constructor
    · intro hsame
      exact (hdisjoint r hr (hread.trans hsame)).elim
    · intro hnone
      rw [hnone r hr] at hread
      cases hread

end TaggedUnion
