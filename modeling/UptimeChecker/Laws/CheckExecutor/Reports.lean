import Mathlib.Data.List.Nodup
import UptimeChecker.Laws.CheckExecutor

/-!
# What an executor reports

The channels of an executor are numbered in the order its checks were queued, so that the list of
those checks says, at each number, which check the channel is for. An executor is `Booked` by such a
list if its live checks are the ones the list has at their channels, and if each result it has
produced is that of a check of the list, no two of the same. Every operation keeps that, provided
the checker answers for the check it was given.
-/

namespace UptimeChecker.CheckExecutor

/-! ## Results and what was asked for -/

/-- What a result is told from another by. -/
def resultKey (result : CheckResult) : Uuid × DateTime :=
  (result.subscriptionId, result.scheduledCheckTime)

/-- The key that the results of a check are to have. -/
def checkKey (asked : Tick × CheckConfig) : Uuid × DateTime :=
  (asked.2.subscriptionId, asked.1.time)

/-- The result is one of the check that the channel is for. -/
def Reports (asked : List (Tick × CheckConfig)) (channel : Nat) (result : CheckResult) : Prop :=
  asked[channel]?.map checkKey = some (resultKey result)

/-- Each result is one of another channel, none of which is live any more. -/
def Accounted (asked : List (Tick × CheckConfig)) (live : List Nat) (produced : List CheckResult) :
    Prop :=
  ∃ channels : List Nat, channels.Nodup ∧
    (∀ channel ∈ channels, channel < asked.length ∧ channel ∉ live) ∧
    channels.map (asked[·]?.map checkKey) = produced.map fun result => some (resultKey result)

section
variable {asked : List (Tick × CheckConfig)} {live : List Nat} {produced : List CheckResult}

theorem Reports.lt_length {channel : Nat} {result : CheckResult}
    (h : Reports asked channel result) : channel < asked.length := by
  obtain ⟨q, hq, -⟩ := Option.map_eq_some_iff.mp h
  exact (List.getElem?_eq_some_iff.mp hq).1

/-- Further checks have channels of their own. -/
theorem Reports.append {channel : Nat} {result : CheckResult} (h : Reports asked channel result)
    (more : List (Tick × CheckConfig)) : Reports (asked ++ more) channel result := by
  unfold Reports
  rw [List.getElem?_append_left h.lt_length]
  exact h

/-- Fewer live channels, or new ones. -/
theorem Accounted.mono (h : Accounted asked live produced) {live' : List Nat}
    (hlive : ∀ channel ∈ live', channel ∈ live ∨ asked.length ≤ channel) :
    Accounted asked live' produced := by
  obtain ⟨channels, hnodup, hgone, hkeys⟩ := h
  refine ⟨channels, hnodup, fun channel hc => ⟨(hgone channel hc).1, fun hl => ?_⟩, hkeys⟩
  rcases hlive channel hl with hold | hnew
  · exact (hgone channel hc).2 hold
  · exact Nat.not_lt.mpr hnew (hgone channel hc).1

theorem Accounted.append (h : Accounted asked live produced) (more : List (Tick × CheckConfig)) :
    Accounted (asked ++ more) live produced := by
  obtain ⟨channels, hnodup, hgone, hkeys⟩ := h
  refine ⟨channels, hnodup, fun channel hc => ⟨?_, (hgone channel hc).2⟩, ?_⟩
  · rw [List.length_append]
    exact Nat.lt_add_right _ (hgone channel hc).1
  · rw [← hkeys]
    apply List.map_congr_left
    intro channel hc
    rw [List.getElem?_append_left (hgone channel hc).1]

/-- The result of a channel that was live until now. -/
theorem Accounted.resolve {channel : Nat} (h : Accounted asked (channel :: live) produced)
    (hchannel : channel ∉ live) {result : CheckResult} (hr : Reports asked channel result) :
    Accounted asked live (produced ++ [result]) := by
  obtain ⟨channels, hnodup, hgone, hkeys⟩ := h
  refine ⟨channels ++ [channel], ?_, ?_, ?_⟩
  · rw [List.nodup_append]
    refine ⟨hnodup, List.nodup_singleton _, ?_⟩
    rintro other hother _ hlast rfl
    rw [List.mem_singleton.mp hlast] at hother
    exact (hgone channel hother).2 List.mem_cons_self
  · intro other hother
    rcases List.mem_append.mp hother with hother | hother
    · exact ⟨(hgone other hother).1, fun hl => (hgone other hother).2 (List.mem_cons_of_mem _ hl)⟩
    · rw [List.mem_singleton.mp hother]
      exact ⟨hr.lt_length, hchannel⟩
  · rw [List.map_append, List.map_append, hkeys, List.map_singleton, List.map_singleton]
    exact congrArg (fun key => _ ++ [key]) hr

/-- Different checks have different results. -/
theorem Accounted.nodup (h : Accounted asked live produced) (hasked : (asked.map checkKey).Nodup) :
    (produced.map resultKey).Nodup := by
  obtain ⟨channels, hnodup, hgone, hkeys⟩ := h
  have hat : ∀ channel ∈ channels, asked[channel]?.map checkKey = (asked.map checkKey)[channel]? :=
    fun channel _ => List.getElem?_map.symm
  have hdistinct : (channels.map (asked[·]?.map checkKey)).Nodup := by
    refine hnodup.map_on ?_
    intro a ha b hb heq
    rw [hat a ha, hat b hb] at heq
    have hlt : a < (asked.map checkKey).length := by
      rw [List.length_map]
      exact (hgone a ha).1
    exact (List.getElem?_inj hlt hasked).mp heq
  rw [hkeys] at hdistinct
  apply List.Nodup.of_map some
  rw [List.map_map]
  exact hdistinct

/-- A result is of some check that was asked for. -/
theorem Accounted.exists_asked (h : Accounted asked live produced) {result : CheckResult}
    (hr : result ∈ produced) : ∃ q ∈ asked, checkKey q = resultKey result := by
  obtain ⟨channels, -, -, hkeys⟩ := h
  have hmem : some (resultKey result) ∈ channels.map (asked[·]?.map checkKey) := by
    rw [hkeys]
    exact List.mem_map_of_mem hr
  obtain ⟨channel, -, hkey⟩ := List.mem_map.mp hmem
  obtain ⟨q, hq, hkey⟩ := Option.map_eq_some_iff.mp hkey
  exact ⟨q, List.mem_of_getElem? hq, hkey⟩

end

/-! ## The book -/

/-- The executor has been asked for these checks, all of them uptime checks, and for no other. -/
structure Booked (asked : List (Tick × CheckConfig)) (e : CheckExecutor) : Prop where
  opened : asked.length = e.opened
  live : ∀ check ∈ e.live,
    check.kind = .uptime ∧ asked[check.resolveTx]? = some (check.tick, check.config)
  sent : ∀ channel result, (e.oneshots channel).message = .sent result →
    ∃ r ∈ e.produced, result = some r ∧ Reports asked channel r
  accounted : Accounted asked e.channels e.produced

section
variable {asked : List (Tick × CheckConfig)} {e e' : CheckExecutor} {conf : ExecutorConfig}
  {check : ScheduledCheck} {readings : CheckReadings}

theorem booked_new : Booked [] new where
  opened := rfl
  live _ hcheck := (List.not_mem_nil hcheck).elim
  sent _ _ h := by cases h
  accounted := ⟨[], List.nodup_nil, nofun, rfl⟩

/-- Fewer live checks, and nothing sent. -/
private theorem Booked.of_subset (h : Booked asked e) (hopened : e'.opened = e.opened)
    (hlive : e'.live ⊆ e.live)
    (hsent : ∀ channel result, (e'.oneshots channel).message = .sent result →
      (e.oneshots channel).message = .sent result)
    (hproduced : e'.produced = e.produced) : Booked asked e' := by
  refine ⟨h.opened.trans hopened.symm, fun check hc => h.live check (hlive hc), ?_, ?_⟩
  · intro channel result hmessage
    rw [hproduced]
    exact h.sent channel result (hsent channel result hmessage)
  · rw [hproduced]
    exact h.accounted.mono fun channel hc => .inl (List.map_subset _ hlive hc)

theorem Booked.dropReceivers (h : Booked asked e) (channels : List Nat) :
    Booked asked (e.dropReceivers channels) := by
  refine h.of_subset rfl (List.Subset.refl _) ?_ rfl
  intro channel result hsent
  rwa [message_dropReceivers] at hsent

theorem Booked.cancel (h : Booked asked e) : Booked asked e.cancel := by
  refine h.of_subset rfl (List.subset_append_right _ _) ?_ rfl
  intro channel result hsent
  simp only [CheckExecutor.cancel] at hsent
  split at hsent
  · cases hsent
  · exact hsent

theorem Booked.start (h : Booked asked e) (hs : e.start conf = some e') : Booked asked e' := by
  obtain ⟨check, rest, hqueue, -, rfl⟩ := start_eq_some hs
  refine h.of_subset rfl ?_ (fun _ _ hsent => hsent) rfl
  intro other hother
  simp only [CheckExecutor.live, hqueue, List.mem_append, List.mem_cons, List.not_mem_nil,
    or_false] at hother ⊢
  tauto

/-- A new check is written at the end of the book. -/
theorem Booked.queueCheck (h : Booked asked e) {tick : Tick} {config : CheckConfig} {channel : Nat}
    (hq : e.queueCheck tick config .uptime = some (e', channel)) :
    Booked (asked ++ [(tick, config)]) e' := by
  obtain ⟨-, -, rfl⟩ := queueCheck_eq_some hq
  refine ⟨?_, ?_, ?_, ?_⟩
  · rw [List.length_append, h.opened]
    rfl
  · intro check hcheck
    have hcases : check ∈ e.live ∨ check = .new .uptime tick config false e.opened := by
      simp only [CheckExecutor.live, List.mem_append, List.mem_singleton] at hcheck ⊢
      tauto
    rcases hcases with hold | rfl
    · obtain ⟨hkind, hasked⟩ := h.live check hold
      refine ⟨hkind, ?_⟩
      rw [List.getElem?_append_left (List.getElem?_eq_some_iff.mp hasked).1]
      exact hasked
    · refine ⟨rfl, ?_⟩
      show (asked ++ [(tick, config)])[e.opened]? = _
      rw [← h.opened, List.getElem?_concat_length]
      rfl
  · intro other result hsent
    by_cases hother : other = e.opened
    · simp only [hother, if_true] at hsent
      cases hsent
    · simp only [if_neg hother] at hsent
      obtain ⟨r, hr, hresult, hreports⟩ := h.sent other result hsent
      exact ⟨r, hr, hresult, hreports.append _⟩
  · refine Accounted.append (h.accounted.mono ?_) _
    intro other hother
    simp only [CheckExecutor.channels, CheckExecutor.live, List.map_append, List.map_cons,
      List.map_nil, List.mem_append, List.mem_singleton] at hother ⊢
    rcases hother with (hqueue | hnew) | hrunning
    · exact .inl (.inl hqueue)
    · exact .inr (Nat.le_of_eq (h.opened.trans hnew.symm))
    · exact .inl (.inr hrunning)

/-- The result of an uptime check is of that check, whether it was run or missed. -/
theorem resultKey_checkResult (region : String) (hkind : check.kind = .uptime)
    (hanswer : resultKey readings.checkUrl = checkKey (check.tick, check.config)) :
    ∃ result, checkResult region check readings = some result ∧
      resultKey result = checkKey (check.tick, check.config) := by
  unfold checkResult
  split
  · exact ⟨_, rfl, rfl⟩
  · rw [hkind]
    exact ⟨_, rfl, hanswer⟩

/-- The end of a check produces one result at most. -/
theorem produced_finish {i : Nat} (hf : e.finish conf i readings = some e') :
    ∃ results : List CheckResult, results.length ≤ 1 ∧ e'.produced = e.produced ++ results := by
  obtain ⟨check, -, hdo⟩ := finish_eq_some hf
  cases hdo with
  | resolved result | receiverGone result => exact ⟨[result], Nat.le_refl 1, rfl⟩
  | _ => exact ⟨[], Nat.zero_le 1, (List.append_nil _).symm⟩

/-- The end of a check that the checker has answered for. -/
theorem Booked.finish (h : Booked asked e) (hwf : e.WellFormed) {i : Nat}
    (hi : e.running[i]? = some check)
    (hanswer : resultKey readings.checkUrl = checkKey (check.tick, check.config))
    (hf : e.finish conf i readings = some e') : Booked asked e' := by
  have hmem : check ∈ e.live := List.mem_append_right _ (List.mem_of_getElem? hi)
  obtain ⟨hkind, hasked⟩ := h.live check hmem
  have hperm := channels_eraseIdx hi
  have hgone := (List.nodup_cons.mp (hperm.nodup_iff.mp hwf.nodup)).1
  have herase : e.running.eraseIdx i ⊆ e.running := List.eraseIdx_subset
  have h₀ : Booked asked { e with running := e.running.eraseIdx i } :=
    h.of_subset rfl (List.append_subset.mpr ⟨List.subset_append_left _ _,
      fun _ hc => List.mem_append_right _ (herase hc)⟩) (fun _ _ hsent => hsent) rfl
  obtain ⟨result, hresult, hkey⟩ := resultKey_checkResult conf.region hkind hanswer
  have hreports : Reports asked check.resolveTx result := by
    rw [Reports, hasked, hkey]
    rfl
  have haccounted := (h.accounted.mono fun channel hc => .inl (hperm.mem_iff.mpr hc)).resolve
    hgone hreports
  rw [CheckExecutor.finish, hi, Option.map_some, Option.some.injEq] at hf
  subst hf
  unfold doCheck
  rw [hresult]
  dsimp only
  split
  · -- Retried, unless the queue is closed.
    unfold queueCheckForRetry expect
    split
    · refine ⟨h₀.opened, ?_, h₀.sent, h.accounted.mono ?_⟩
      · intro other hother
        simp only [Option.getD_some, CheckExecutor.live, List.mem_append,
          List.mem_singleton] at hother
        rcases hother with (hqueue | rfl) | hrunning
        · exact h₀.live other (List.mem_append_left _ hqueue)
        · exact ⟨hkind, hasked⟩
        · exact h₀.live other (List.mem_append_right _ hrunning)
      · intro channel hc
        refine .inl (hperm.mem_iff.mpr ?_)
        simp only [Option.getD_some, CheckExecutor.channels, CheckExecutor.live, List.map_append,
          List.map_cons, List.map_nil, List.mem_append, List.mem_cons, List.not_mem_nil,
          or_false] at hc ⊢
        tauto
    · exact ⟨h₀.opened, h₀.live, h₀.sent, h₀.accounted⟩
  · have hsent : ∀ channel outcome, (e.oneshots channel).message = .sent outcome →
        ∃ r ∈ e.produced ++ [result], outcome = some r ∧ Reports asked channel r := by
      intro channel outcome hmessage
      obtain ⟨r, hr, houtcome, hreports⟩ := h.sent channel outcome hmessage
      exact ⟨r, List.mem_append_left _ hr, houtcome, hreports⟩
    unfold recordResult expect
    split
    · refine ⟨h₀.opened, h₀.live, ?_, haccounted⟩
      intro channel outcome hmessage
      by_cases hchannel : channel = check.resolveTx
      · simp only [Option.getD_some, setMessage, hchannel, if_true, Message.sent.injEq] at hmessage
        exact ⟨result, List.mem_append_right _ List.mem_cons_self, hmessage.symm,
          hchannel ▸ hreports⟩
      · simp only [Option.getD_some, setMessage, if_neg hchannel] at hmessage
        exact hsent channel outcome hmessage
    · exact ⟨h₀.opened, h₀.live, hsent, haccounted⟩

end

end UptimeChecker.CheckExecutor
