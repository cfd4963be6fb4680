import Mathlib.Data.List.Perm.Basic
import UptimeChecker.Manager

/-!
# Every service is stopped once

The services in the map and those handed to the shutdown stream are the services ever started, each
once. Registering and unregistering keep that (`Accounts`).
-/

namespace UptimeChecker.Manager

variable {manager manager' : Manager} {partition : UInt16}

/-- The services in the map and those handed over are all that were started, each once. -/
structure Accounts (manager : Manager) : Prop where
  keyed : ∀ partition service, manager.services partition = some service →
    service.partition = partition
  nodup : manager.registered.Nodup
  serials : ∀ service ∈ manager.registered, service.serial < manager.registered.length
  live : ∃ live, (∀ service, service ∈ live ↔ manager.services service.partition = some service) ∧
    (live ++ manager.shutdownSender).Perm manager.registered

theorem accounts_new : new.Accounts where
  keyed _ _ h := by cases h
  nodup := List.nodup_nil
  serials _ h := by cases h
  live := ⟨[], fun _ => ⟨nofun, nofun⟩, List.Perm.refl _⟩

/-- What registering does to the map. -/
theorem services_registerPartition (manager : Manager) (partition key : UInt16) :
    ((manager.registerPartition partition).services key).isSome ↔
      key = partition ∨ (manager.services key).isSome := by
  unfold registerPartition
  split
  · rename_i service h
    refine ⟨.inr, ?_⟩
    rintro (rfl | hsome)
    · rw [h]
      rfl
    · exact hsome
  · by_cases hkey : key = partition
    · simp [hkey]
    · simp [hkey]

theorem Accounts.registerPartition (h : manager.Accounts) (partition : UInt16) :
    (manager.registerPartition partition).Accounts := by
  unfold Manager.registerPartition
  split
  · exact h
  · rename_i hnone
    obtain ⟨live, hlive, hperm⟩ := h.live
    have hfresh : (⟨partition, manager.registered.length⟩ : PartitionedService) ∉
        manager.registered := fun hmem => Nat.lt_irrefl _ (h.serials _ hmem)
    refine ⟨?_, ?_, ?_,
      live ++ [⟨partition, manager.registered.length⟩], ?_, ?_⟩
    · intro key service hkey
      by_cases hsame : key = partition
      · simp only [hsame, if_true, Option.some.injEq] at hkey
        rw [← hkey, hsame]
      · simp only [if_neg hsame] at hkey
        exact h.keyed key service hkey
    · exact List.nodup_append.mpr ⟨h.nodup, List.nodup_singleton _, fun a ha b hb => by
        rw [List.mem_singleton.mp hb]
        rintro rfl
        exact hfresh ha⟩
    · intro service hservice
      rw [List.length_append, List.length_singleton]
      rcases List.mem_append.mp hservice with hold | hnew
      · exact Nat.lt_succ_of_lt (h.serials service hold)
      · rw [List.mem_singleton.mp hnew]
        exact Nat.lt_succ_self _
    · intro service
      rw [List.mem_append, List.mem_singleton, hlive]
      by_cases hsame : service.partition = partition
      · simp only [hsame, hnone, if_true, Option.some.injEq, reduceCtorEq, false_or, eq_comm]
      · simp only [if_neg hsame]
        constructor
        · rintro (hold | rfl)
          · exact hold
          · exact (hsame rfl).elim
        · exact .inl
    · refine List.Perm.trans ?_ (hperm.append_right _)
      rw [List.append_assoc, List.append_assoc]
      exact (List.perm_append_comm).append_left live

/-- What unregistering does: nothing for an unknown partition, and otherwise the service is handed
over. -/
theorem unregisterPartition_eq_some {held : List PartitionedService}
    (h : manager.unregisterPartition held partition = some manager') :
    (manager.services partition = none ∧ manager' = manager) ∨
    ∃ service, manager.services partition = some service ∧ service ∉ held ∧
      manager' = { manager with
        services := fun key => if key = partition then none else manager.services key
        shutdownSender := manager.shutdownSender ++ [service] } := by
  unfold unregisterPartition at h
  split at h
  · rename_i hnone
    exact .inl ⟨hnone, (Option.some.inj h).symm⟩
  · rename_i service hsome
    split at h
    · cases h
    · rename_i hheld
      exact .inr ⟨service, hsome, hheld, (Option.some.inj h).symm⟩

theorem services_unregisterPartition {held : List PartitionedService}
    (h : manager.unregisterPartition held partition = some manager') (key : UInt16) :
    manager'.services key = if key = partition then none else manager.services key := by
  rcases unregisterPartition_eq_some h with ⟨hnone, rfl⟩ | ⟨service, -, -, rfl⟩
  · split
    · rename_i hkey
      rw [hkey, hnone]
    · rfl
  · rfl

theorem unregisterPartition_eq_none {held : List PartitionedService}
    (h : manager.unregisterPartition held partition = none) :
    ∃ service ∈ held, manager.services partition = some service := by
  unfold unregisterPartition at h
  split at h
  · cases h
  · rename_i service hsome
    split at h
    · rename_i hheld
      exact ⟨service, hheld, hsome⟩
    · cases h

theorem Accounts.unregisterPartition (h : manager.Accounts) {held : List PartitionedService}
    (hun : manager.unregisterPartition held partition = some manager') : manager'.Accounts := by
  rcases unregisterPartition_eq_some hun with ⟨-, rfl⟩ | ⟨service, hservice, -, rfl⟩
  · exact h
  · obtain ⟨live, hlive, hperm⟩ := h.live
    have hpartition := h.keyed partition service hservice
    have hnodup : live.Nodup := (List.nodup_append.mp (hperm.nodup_iff.mpr h.nodup)).1
    have hmem : service ∈ live := (hlive service).mpr (hpartition ▸ hservice)
    refine ⟨?_, h.nodup, h.serials, live.erase service, ?_, ?_⟩
    · intro key other hkey
      by_cases hsame : key = partition
      · simp only [hsame, if_true, reduceCtorEq] at hkey
      · simp only [if_neg hsame] at hkey
        exact h.keyed key other hkey
    · intro other
      rw [hnodup.mem_erase_iff, hlive]
      by_cases hsame : other.partition = partition
      · have hother : manager.services other.partition = some service := hsame ▸ hservice
        simp only [hsame, if_true, reduceCtorEq, iff_false, not_and]
        intro hne heq
        rw [hservice] at heq
        exact hne (Option.some.inj heq).symm
      · simp only [if_neg hsame]
        refine ⟨fun hand => hand.2, fun heq => ⟨?_, heq⟩⟩
        rintro rfl
        exact hsame hpartition
    · refine List.Perm.trans ?_ hperm
      have hpick : live.Perm (service :: live.erase service) := List.perm_cons_erase hmem
      refine List.Perm.trans ?_ (hpick.symm.append_right _)
      rw [← List.append_assoc]
      exact List.perm_append_singleton _ _

/-- With an empty map, every service ever started was handed over, once. -/
theorem Accounts.stopped (h : manager.Accounts) (hempty : ∀ key, manager.services key = none) :
    manager.shutdownSender.Perm manager.registered := by
  obtain ⟨live, hlive, hperm⟩ := h.live
  have hnil : live = [] := by
    apply List.eq_nil_iff_forall_not_mem.mpr
    intro service hmem
    cases (hempty _).symm.trans ((hlive service).mp hmem)
  rwa [hnil, List.nil_append] at hperm

end UptimeChecker.Manager
