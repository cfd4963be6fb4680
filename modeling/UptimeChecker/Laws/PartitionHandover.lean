import UptimeChecker.Laws.Manager

/-!
# Handing partitions over

One call of `update_partitions` unregisters what left and registers what joined, one partition after
the other. Each of its two loops is described once, for any list of partitions; the call is then the
one after the other, and the books of the manager (`Accounts`) are kept at every step of it.
-/

namespace UptimeChecker.Manager

variable {before after manager : Manager}

/-- Of the services of one partition at most one runs: all others were handed over. -/
def OneRunning (manager : Manager) : Prop :=
  ∀ a ∈ manager.registered, ∀ b ∈ manager.registered, a ∉ manager.shutdownSender →
    b ∉ manager.shutdownSender → a.partition = b.partition → a = b

/-- A service that was started is in the map until it is handed over. -/
theorem Accounts.services_eq_some (h : manager.Accounts) {service : PartitionedService}
    (hmem : service ∈ manager.registered) (hruns : service ∉ manager.shutdownSender) :
    manager.services service.partition = some service := by
  obtain ⟨live, hlive, hperm⟩ := h.live
  have hin := hperm.mem_iff.mpr hmem
  exact (hlive service).mp ((List.mem_append.mp hin).resolve_right hruns)

/-- A service in the map was started, and not handed over. -/
theorem Accounts.not_mem_shutdownSender (h : manager.Accounts) {partition : UInt16}
    {service : PartitionedService} (hservice : manager.services partition = some service) :
    service ∈ manager.registered ∧ service ∉ manager.shutdownSender := by
  obtain ⟨live, hlive, hperm⟩ := h.live
  have hkey := h.keyed partition service hservice
  have hmem : service ∈ live := (hlive service).mpr (hkey ▸ hservice)
  refine ⟨hperm.mem_iff.mp (List.mem_append_left _ hmem), ?_⟩
  have hnodup := hperm.nodup_iff.mpr h.nodup
  exact fun hsent => (List.nodup_append.mp hnodup).2.2 service hmem service hsent rfl

theorem Accounts.nodup_shutdownSender (h : manager.Accounts) : manager.shutdownSender.Nodup := by
  obtain ⟨live, -, hperm⟩ := h.live
  exact (List.nodup_append.mp (hperm.nodup_iff.mpr h.nodup)).2.1

theorem Accounts.oneRunning (h : manager.Accounts) : manager.OneRunning := by
  intro a ha b hb hruns hruns' hpartition
  have hsa := h.services_eq_some ha hruns
  have hsb := h.services_eq_some hb hruns'
  rw [hpartition, hsb] at hsa
  exact (Option.some.inj hsa).symm

/-! ## The two loops -/

/-- What unregistering some partitions does. -/
structure Unregistered (before : Manager) (partitions : List UInt16) (after : Manager) : Prop where
  accounts : after.Accounts
  services : ∀ key, after.services key = if key ∈ partitions then none else before.services key
  registered : after.registered = before.registered
  shutdownSender : ∀ service, after.shutdownSender.count service =
    before.shutdownSender.count service +
      if service.partition ∈ partitions ∧ before.services service.partition = some service
      then 1 else 0

theorem foldlM_unregisterPartition (partitions : List UInt16) (h : before.Accounts) :
    ∃ after, partitions.foldlM (fun manager partition => manager.unregisterPartition [] partition)
      before = some after ∧ Unregistered before partitions after := by
  induction partitions generalizing before with
  | nil => exact ⟨before, rfl, h, by simp, rfl, by simp⟩
  | cons partition partitions ih =>
    cases hservice : before.services partition with
    | none =>
      have hstep : before.unregisterPartition [] partition = some before := by
        simp [unregisterPartition, hservice]
      obtain ⟨after, hrun, hafter⟩ := ih h
      refine ⟨after, ?_, hafter.accounts, ?_, hafter.registered, ?_⟩
      · rw [List.foldlM_cons, hstep]
        exact hrun
      · intro key
        rw [hafter.services]
        by_cases hkey : key = partition
        · simp [hkey, hservice]
        · simp [hkey]
      · intro service
        rw [hafter.shutdownSender]
        by_cases hkey : service.partition = partition
        · simp [hkey, hservice]
        · simp [hkey]
    | some gone =>
      obtain ⟨mid, hstep⟩ : ∃ mid, before.unregisterPartition [] partition = some mid := by
        simp [unregisterPartition, hservice]
      have hmid := h.unregisterPartition hstep
      have hgone := h.keyed partition gone hservice
      obtain ⟨after, hrun, hafter⟩ := ih hmid
      have hshape : mid = { before with
          services := fun key => if key = partition then none else before.services key
          shutdownSender := before.shutdownSender ++ [gone] } := by
        simp [unregisterPartition, hservice] at hstep
        exact hstep.symm
      refine ⟨after, ?_, hafter.accounts, ?_, ?_, ?_⟩
      · rw [List.foldlM_cons, hstep]
        exact hrun
      · intro key
        rw [hafter.services, hshape]
        by_cases hkey : key = partition
        · simp [hkey]
        · simp [hkey]
      · rw [hafter.registered, hshape]
      · intro service
        rw [hafter.shutdownSender, hshape]
        by_cases hkey : service.partition = partition
        · by_cases hsame : service = gone
          · simp [hsame, hgone, hservice]
          · have hne : ¬ gone = service := fun e => hsame e.symm
            simp [hkey, hservice, hne]
        · have hne : ¬ service = gone := fun e => hkey (e ▸ hgone)
          have hne' : ¬ gone = service := fun e => hne e.symm
          simp [hkey, hne']

/-- What registering some partitions does. -/
structure Registered (before : Manager) (partitions : List UInt16) (after : Manager) : Prop where
  accounts : after.Accounts
  kept : ∀ key service, before.services key = some service → after.services key = some service
  services : ∀ key, (after.services key).isSome ↔ key ∈ partitions ∨ (before.services key).isSome
  shutdownSender : after.shutdownSender = before.shutdownSender
  registered : ∀ key, (after.registered.map (·.partition)).count key =
    (before.registered.map (·.partition)).count key +
      if key ∈ partitions ∧ before.services key = none then 1 else 0

theorem foldl_registerPartition (partitions : List UInt16) (h : before.Accounts) :
    Registered before partitions (partitions.foldl registerPartition before) := by
  induction partitions generalizing before with
  | nil => exact ⟨h, by simp, by simp, rfl, by simp⟩
  | cons partition partitions ih =>
    have hmid := h.registerPartition partition
    have hrest := ih hmid
    rw [List.foldl_cons]
    refine ⟨hrest.accounts, ?_, ?_, ?_, ?_⟩
    · intro key service hkey
      apply hrest.kept
      unfold registerPartition
      split
      · exact hkey
      · rename_i hnone
        have hne : ¬ key = partition := fun e => by simp [e, hnone] at hkey
        simp [hne, hkey]
    · intro key
      rw [hrest.services, services_registerPartition, List.mem_cons]
      exact or_left_comm.trans or_assoc.symm
    · rw [hrest.shutdownSender]
      unfold registerPartition
      split <;> rfl
    · intro key
      rw [hrest.registered]
      unfold registerPartition
      split
      · rename_i service hservice
        by_cases hkey : key = partition
        · simp [hkey, hservice]
        · simp [hkey]
      · rename_i hnone
        by_cases hkey : key = partition
        · simp [hkey, hnone]
        · have hne : ¬ partition = key := fun e => hkey e.symm
          simp [hkey, hne]

/-! ## A call, and a history of calls -/

/-- What one call does. The partitions registered are the given ones; what stays keeps its service;
of all services those that left are handed over, once more each than before; and of all partitions
those that joined are started, once more each than before. -/
structure HandedOver (before : Manager) (newPartitions : List UInt16) (after : Manager) : Prop where
  registered : ∀ partition, (after.services partition).isSome ↔ partition ∈ newPartitions
  kept : ∀ partition service, before.services partition = some service →
    partition ∈ newPartitions → after.services partition = some service
  left : ∀ service, after.shutdownSender.count service = before.shutdownSender.count service +
    if before.services service.partition = some service ∧ service.partition ∉ newPartitions
    then 1 else 0
  joined : ∀ partition, (after.registered.map (·.partition)).count partition =
    (before.registered.map (·.partition)).count partition +
      if partition ∈ newPartitions ∧ before.services partition = none then 1 else 0

/-- The partitions of one call are the keys the next one reads. -/
theorem HandedOver.keys {newPartitions : List UInt16} (h : HandedOver before newPartitions after)
    (hnodup : newPartitions.Nodup) : after.Keys newPartitions :=
  ⟨hnodup, fun partition => (h.registered partition).symm⟩

/-- The managers a call passes through: some of what left is unregistered, or all of it, and some of
what joined is registered. -/
def DuringUpdate (before : Manager) (known newPartitions : List UInt16) (mid : Manager) : Prop :=
  (∃ done, done <+: known.filter (· ∉ newPartitions) ∧
    done.foldlM (fun manager partition => manager.unregisterPartition [] partition) before =
      some mid) ∨
  ∃ removed done, done <+: newPartitions.filter (· ∉ known) ∧
    (known.filter (· ∉ newPartitions)).foldlM
      (fun manager partition => manager.unregisterPartition [] partition) before = some removed ∧
    mid = done.foldl registerPartition removed

variable {known newPartitions : List UInt16}

theorem Accounts.updatePartitions (h : before.Accounts) (hknown : before.Keys known) :
    ∃ after, before.updatePartitions [] known newPartitions = some after ∧ after.Accounts ∧
      HandedOver before newPartitions after := by
  obtain ⟨removed, hrun, hremoved⟩ :=
    foldlM_unregisterPartition (known.filter (· ∉ newPartitions)) h
  have hadded := foldl_registerPartition (newPartitions.filter (· ∉ known)) hremoved.accounts
  have hleft : ∀ partition, partition ∈ known.filter (· ∉ newPartitions) ↔
      (before.services partition).isSome ∧ partition ∉ newPartitions := by
    intro partition
    rw [List.mem_filter, hknown.2]
    simp
  have hjoined : ∀ partition, partition ∈ newPartitions.filter (· ∉ known) ↔
      partition ∈ newPartitions ∧ before.services partition = none := by
    intro partition
    rw [List.mem_filter]
    simp [hknown.2]
  have hservices : ∀ partition, removed.services partition =
      if partition ∈ newPartitions then before.services partition else none := by
    intro partition
    rw [hremoved.services]
    simp only [hleft]
    cases before.services partition with
    | none => simp
    | some service => by_cases hnew : partition ∈ newPartitions <;> simp [hnew]
  refine ⟨_, ?_, hadded.accounts, ?_, ?_, ?_, ?_⟩
  · unfold Manager.updatePartitions
    rw [hrun]
    rfl
  · intro partition
    rw [hadded.services, hservices, hjoined]
    cases before.services partition with
    | none => simp
    | some service => by_cases hnew : partition ∈ newPartitions <;> simp [hnew]
  · intro partition service hservice hnew
    apply hadded.kept
    rw [hservices, if_pos hnew]
    exact hservice
  · intro service
    rw [hadded.shutdownSender, hremoved.shutdownSender]
    congr 1
    apply if_congr _ rfl rfl
    rw [hleft]
    constructor
    · intro ⟨⟨_, hnot⟩, hservice⟩
      exact ⟨hservice, hnot⟩
    · intro ⟨hservice, hnot⟩
      exact ⟨⟨by simp [hservice], hnot⟩, hservice⟩
  · intro partition
    rw [hadded.registered, hremoved.registered]
    congr 1
    apply if_congr _ rfl rfl
    rw [hjoined, hservices]
    constructor
    · intro hand
      exact hand.1
    · intro hand
      exact ⟨hand, by simp [hand.2]⟩

theorem Accounts.duringUpdate (h : before.Accounts) {mid : Manager}
    (hmid : before.DuringUpdate known newPartitions mid) : mid.Accounts := by
  obtain ⟨done, -, hrun⟩ | ⟨removed, done, -, hrun, rfl⟩ := hmid
  · obtain ⟨after, hafter, hdone⟩ := foldlM_unregisterPartition done h
    cases hrun.symm.trans hafter
    exact hdone.accounts
  · obtain ⟨after, hafter, hdone⟩ := foldlM_unregisterPartition _ h
    cases hrun.symm.trans hafter
    exact (foldl_registerPartition done hdone.accounts).accounts

theorem accounts_of_reachable (hreach : handover.Reachable manager) : manager.Accounts := by
  refine hreach.invariant ?_ ?_
  · intro manager hinit
    rw [hinit]
    exact accounts_new
  · intro before newPartitions after h ⟨_, known, hknown, hupdate⟩
    obtain ⟨reached, hreached, haccounts, -⟩ := h.updatePartitions hknown
    cases hupdate.symm.trans hreached
    exact haccounts

/-- **Partition hand-over.** After any history of calls, each service ever started is either in the
map or was handed over once; and any further call runs to its end, hands over what left, starts what
joined, and at no moment has two services of one partition running. -/
theorem updatePartitions_handover (hreach : handover.Reachable manager) :
    manager.registered.Nodup ∧ manager.OneRunning ∧
    (∀ service ∈ manager.registered, manager.shutdownSender.count service =
      if manager.services service.partition = some service then 0 else 1) ∧
    ∀ known newPartitions, manager.Keys known →
      (∃ after, manager.updatePartitions [] known newPartitions = some after ∧
        HandedOver manager newPartitions after) ∧
      ∀ mid, manager.DuringUpdate known newPartitions mid → mid.OneRunning := by
  have h := accounts_of_reachable hreach
  refine ⟨h.nodup, h.oneRunning, ?_, ?_⟩
  · intro service hmem
    split
    · rename_i hservice
      exact List.count_eq_zero.mpr (h.not_mem_shutdownSender hservice).2
    · rename_i hservice
      apply List.count_eq_one_of_mem h.nodup_shutdownSender
      by_contra hruns
      exact hservice (h.services_eq_some hmem hruns)
  · intro known newPartitions hknown
    refine ⟨?_, fun mid hmid => (h.duringUpdate hmid).oneRunning⟩
    obtain ⟨after, hafter, -, hover⟩ := h.updatePartitions hknown
    exact ⟨after, hafter, hover⟩

/-- Two of the four partitions of the source's test stay. At the next call one of them leaves, one
stays, one comes back as a new service, and one joins. -/
theorem updatePartitions_handover_back :
    ∃ started reduced after, new.updatePartitions [] [] [0, 1, 2, 3] = some started ∧
      started.updatePartitions [] [0, 1, 2, 3] [1, 2] = some reduced ∧
      reduced.updatePartitions [] [1, 2] [0, 2, 4] = some after ∧
      HandedOver reduced [0, 2, 4] after ∧
      reduced.services 2 = some ⟨2, 2⟩ ∧ after.services 2 = some ⟨2, 2⟩ ∧
      after.services 0 = some ⟨0, 4⟩ ∧ after.registered.count ⟨0, 4⟩ = 1 ∧
      after.shutdownSender = [⟨0, 0⟩, ⟨3, 3⟩, ⟨1, 1⟩] := by
  have hreach : handover.Reachable new := .init rfl
  have hkeys : new.Keys [] := ⟨.nil, by simp [new]⟩
  obtain ⟨started, hstarted, hover₁⟩ :=
    ((updatePartitions_handover hreach).2.2.2 [] [0, 1, 2, 3] hkeys).1
  have hreach₁ : handover.Reachable started :=
    hreach.step (a := [0, 1, 2, 3]) ⟨by decide, [], hkeys, hstarted⟩
  have hkeys₁ : started.Keys [0, 1, 2, 3] := hover₁.keys (by decide)
  obtain ⟨reduced, hreduced, hover₂⟩ :=
    ((updatePartitions_handover hreach₁).2.2.2 _ [1, 2] hkeys₁).1
  have hreach₂ : handover.Reachable reduced :=
    hreach₁.step (a := [1, 2]) ⟨by decide, _, hkeys₁, hreduced⟩
  obtain ⟨after, hafter, hover₃⟩ :=
    ((updatePartitions_handover hreach₂).2.2.2 _ [0, 2, 4] (hover₂.keys (by decide))).1
  refine ⟨started, reduced, after, hstarted, hreduced, hafter, hover₃, ?_⟩
  cases hstarted
  cases hreduced
  cases hafter
  decide

end UptimeChecker.Manager
