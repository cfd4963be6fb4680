import Mathlib.Data.List.Basic
import UptimeChecker.Lib.Transition

/-!
# Memo tables

A function that may fail, and a table that remembers what it came to. A call looks its key up under
one lock, computes what it did not find under none, and inserts what it computed under another; any
number of calls are under way at once, and what an insertion throws out of the table is up to the
table. The table only ever holds what the function comes to, and so every call answers it.
-/

namespace Memo

variable {T K V E : Type}

/-- Where a call stands: about to look its key up, about to insert what it computed, or answered. -/
inductive Call (K V E : Type) where
  | looking (key : K)
  | inserting (key : K) (value : V)
  | answered (key : K) (answer : Except E V)

/-- The table, and the calls in the order they came in. -/
structure State (T K V E : Type) where
  table : T
  calls : List (Call K V E)

/-- The names of the steps. -/
inductive Action where
  | call | hit | compute | failed | insert
deriving DecidableEq, Repr

/-- An insertion adds its key to the table, and nothing else. -/
def Inserting (get : T → K → Option V) (inserts : T → K → V → T → Prop) : Prop :=
  ∀ {table key value table'}, inserts table key value table' →
    ∀ {k v}, get table' k = some v → (k = key ∧ v = value) ∨ get table k = some v

variable (f : K → Except E V) (get : T → K → Option V) (inserts : T → K → V → T → Prop)

/-- One step of one call. -/
inductive Step (s : State T K V E) : Action → State T K V E → Prop where
  | call (key : K) : Step s .call { s with calls := s.calls ++ [.looking key] }
  | hit {i : Nat} {key : K} {value : V} (phase : s.calls[i]? = some (.looking key))
      (found : get s.table key = some value) :
      Step s .hit { s with calls := s.calls.set i (.answered key (.ok value)) }
  | compute {i : Nat} {key : K} {value : V} (phase : s.calls[i]? = some (.looking key))
      (missed : get s.table key = none) (computed : f key = .ok value) :
      Step s .compute { s with calls := s.calls.set i (.inserting key value) }
  | failed {i : Nat} {key : K} {error : E} (phase : s.calls[i]? = some (.looking key))
      (missed : get s.table key = none) (computed : f key = .error error) :
      Step s .failed { s with calls := s.calls.set i (.answered key (.error error)) }
  | insert {i : Nat} {key : K} {value : V} {table : T}
      (phase : s.calls[i]? = some (.inserting key value))
      (inserted : inserts s.table key value table) :
      Step s .insert ⟨table, s.calls.set i (.answered key (.ok value))⟩

/-- The calls on a table that starts out as one of `init`. -/
def system (init : T → Prop) : Transition (State T K V E) Action where
  init s := init s.table ∧ s.calls = []
  step := Step f get inserts

/-- The table holds only what the function comes to. -/
def Sound (table : T) : Prop :=
  ∀ {key value}, get table key = some value → f key = .ok value

/-- What a call has computed or answered is what the function comes to. -/
def Call.Sound : Call K V E → Prop
  | looking _ => True
  | inserting key value => f key = .ok value
  | answered key answer => f key = answer

/-- The table and the calls are sound. -/
structure State.Sound (s : State T K V E) : Prop where
  table : Memo.Sound f get s.table
  calls : ∀ call ∈ s.calls, call.Sound f

/-- What holds of the calls so far, and of one of them as it is now, holds of them all. -/
private theorem forall_set {P : Call K V E → Prop} {calls : List (Call K V E)} {i : Nat}
    {call : Call K V E} (h : ∀ c ∈ calls, P c) (hcall : P call) :
    ∀ c ∈ calls.set i call, P c := by
  intro c hc
  rcases List.mem_or_eq_of_mem_set hc with hc | rfl
  · exact h c hc
  · exact hcall

/-- A sound table gives sound answers, which keep it sound. -/
theorem sound_of_reachable {init : T → Prop} (hinit : ∀ table, init table → Sound f get table)
    (hinserts : Inserting get inserts) {s : State T K V E}
    (hs : (system f get inserts init).Reachable s) : s.Sound f get := by
  apply hs.invariant
  · rintro ⟨table, calls⟩ ⟨htable, rfl⟩
    exact ⟨hinit table htable, nofun⟩
  · rintro s a s' ⟨htable, hcalls⟩ hstep
    cases hstep with
    | call key =>
      refine ⟨htable, ?_⟩
      intro call hcall
      rcases List.mem_append.mp hcall with hcall | hcall
      · exact hcalls call hcall
      · cases List.mem_singleton.mp hcall
        trivial
    | hit phase found => exact ⟨htable, forall_set hcalls (htable found)⟩
    | compute phase missed computed => exact ⟨htable, forall_set hcalls computed⟩
    | failed phase missed computed => exact ⟨htable, forall_set hcalls computed⟩
    | @insert i key value table phase inserted =>
      have hvalue : f key = .ok value := hcalls _ (List.mem_of_getElem? phase)
      refine ⟨?_, forall_set hcalls hvalue⟩
      intro k v hget
      obtain ⟨rfl, rfl⟩ | hold := hinserts inserted hget
      · exact hvalue
      · exact htable hold

end Memo
