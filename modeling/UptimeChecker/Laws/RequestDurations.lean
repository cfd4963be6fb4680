import Mathlib.Data.List.Forall2
import UptimeChecker.Types.Result

/-!
# Laws of the request durations

The text of the durations counts every phase from the start of the DNS lookup. A phase that was not
timed starts with the request, and so before a DNS lookup that was. `DnsFirst` says of a request
that none of its phases does; those are the requests whose durations can be formatted.
-/

namespace UptimeChecker

/-! ## The formatter -/

theorem toTimings_isSome_iff {reference start : Nat} {duration : UInt64} :
    (toTimings reference start duration).isSome ↔ reference ≤ start := by
  unfold toTimings
  split
  · rename_i hle
    simp [hle]
  · rename_i hlt
    simp [hlt]

private theorem isSome_bind_iff {α β : Type} {o : Option α} {f : α → Option β} {p : Prop}
    (h : ∀ a, (f a).isSome ↔ p) : (o.bind f).isSome ↔ o.isSome ∧ p := by
  cases o with
  | none => simp
  | some a => simpa using h a

/-- The durations have a text when no phase that is in it starts before the DNS lookup. -/
theorem RequestDurations.fmt_isSome_iff (durations : RequestDurations) :
    durations.fmt.isSome ↔
      durations.dnsLookup.startUs ≤ durations.tcpConnection.startUs ∧
      durations.dnsLookup.startUs ≤ durations.tlsHandshake.startUs ∧
      durations.dnsLookup.startUs ≤ durations.sendRequest.startUs ∧
      durations.dnsLookup.startUs ≤ durations.receiveResponse.startUs := by
  refine Iff.trans (isSome_bind_iff fun dnsLookup => isSome_bind_iff fun tcpConnection =>
    isSome_bind_iff fun tlsHandshake => isSome_bind_iff fun sendRequest =>
      isSome_bind_iff fun receiveResponse => iff_of_true Option.isSome_some trivial) ?_
  simp only [toTimings_isSome_iff, Nat.le_refl, true_and, and_true]

/-! ## The requests it works for -/

namespace RedirectStats

variable (newPooled : Instant → Nat → ConnectionStats) (rs : RedirectStats)

/-- The stats of the connection the request went over. -/
def connStats : ConnectionStats :=
  rs.connectionStats.getD (newPooled rs.requestStart rs.requestStartTimestamp)

/-- The whole microseconds from the start of the request to an instant. -/
def sinceStartUs (instant : Instant) : Nat := (instant - rs.requestStart) / 1000

/-- What was timed of the request was timed after its start. -/
structure AfterStart : Prop where
  dnsResolve : ∀ d, (rs.connStats newPooled).dnsResolve = some d →
    rs.requestStart ≤ d.start ∧ rs.requestStart ≤ d.stop
  connect : ∀ d, (rs.connStats newPooled).connect = some d →
    rs.requestStart ≤ d.start ∧ rs.requestStart ≤ d.stop
  tlsConnect : ∀ d, (rs.connStats newPooled).tlsConnect = some d →
    rs.requestStart ≤ d.start ∧ rs.requestStart ≤ d.stop
  requestSent : ∀ i, rs.requestSent = some i → rs.requestStart ≤ i
  responseStart : ∀ i, rs.responseStart = some i → rs.requestStart ≤ i

/-- In whole microseconds, the DNS lookup starts with the request, or every other phase was timed
and starts no earlier than it. The request is sent from the end of the TLS handshake on. -/
def DnsFirst : Prop :=
  ∀ dns, (rs.connStats newPooled).dnsResolve = some dns →
    rs.sinceStartUs dns.start = 0 ∨
    (∃ connect, (rs.connStats newPooled).connect = some connect ∧
      rs.sinceStartUs dns.start ≤ rs.sinceStartUs connect.start) ∧
    (∃ tls, (rs.connStats newPooled).tlsConnect = some tls ∧
      rs.sinceStartUs dns.start ≤ rs.sinceStartUs tls.start ∧
      rs.sinceStartUs dns.start ≤ rs.sinceStartUs tls.stop) ∧
    ∃ response, rs.responseStart = some response ∧
      rs.sinceStartUs dns.start ≤ rs.sinceStartUs response

variable {newPooled rs}

@[simp] theorem sinceStartUs_requestStart : rs.sinceStartUs rs.requestStart = 0 := by
  simp [sinceStartUs]

/-- A phase that falls back to the start of the request is no earlier only than what starts with the
request. -/
private theorem le_sinceStartUs_getD_iff {α : Type} (instant : α → Instant) {phase : Option α}
    {empty : α} (hempty : instant empty = rs.requestStart) {n : Nat} :
    n ≤ rs.sinceStartUs (instant (phase.getD empty)) ↔
      n = 0 ∨ ∃ a, phase = some a ∧ n ≤ rs.sinceStartUs (instant a) := by
  cases phase with
  | none => simp [hempty]
  | some a =>
    simp only [Option.getD_some, Option.some.injEq, exists_eq_left']
    omega

/-- The durations of a request have a text when each phase in it starts no earlier than the DNS
lookup, those that were not timed with the request. -/
private theorem fmt_toRequestInfo_isSome_iff {method : RequestMethod} {empty : AbsoluteDuration}
    (hempty : empty = ⟨rs.requestStart, rs.requestStart⟩) {n : Nat}
    (hn : n = rs.sinceStartUs ((rs.connStats newPooled).dnsResolve.getD empty).start) :
    (toRequestInfo newPooled method rs).durations.fmt.isSome ↔
      n ≤ rs.sinceStartUs ((rs.connStats newPooled).connect.getD empty).start ∧
      n ≤ rs.sinceStartUs ((rs.connStats newPooled).tlsConnect.getD empty).start ∧
      n ≤ rs.sinceStartUs ((rs.connStats newPooled).tlsConnect.getD
        ((rs.connStats newPooled).connect.getD empty)).stop ∧
      n ≤ rs.sinceStartUs (rs.responseStart.getD rs.requestStart) := by
  subst hempty hn
  refine (RequestDurations.fmt_isSome_iff _).trans ?_
  apply and_congr Nat.add_le_add_iff_left
  apply and_congr Nat.add_le_add_iff_left
  exact and_congr Nat.add_le_add_iff_left Nat.add_le_add_iff_left

/-- The durations of a request have a text exactly when its DNS lookup comes first. -/
theorem fmt_toRequestInfo_iff_dnsFirst (method : RequestMethod) :
    (toRequestInfo newPooled method rs).durations.fmt.isSome ↔ rs.DnsFirst newPooled := by
  rw [fmt_toRequestInfo_isSome_iff rfl rfl]
  unfold DnsFirst
  cases hdns : (rs.connStats newPooled).dnsResolve with
  | none => simp
  | some dns =>
    simp only [Option.getD_some, Option.some.injEq, forall_eq']
    by_cases hzero : rs.sinceStartUs dns.start = 0
    · simp [hzero]
    · simp only [hzero, false_or]
      constructor
      · intro ⟨hconnect, htls, hsend, hresponse⟩
        rw [le_sinceStartUs_getD_iff AbsoluteDuration.start rfl] at hconnect htls
        obtain ⟨tls, htls, hstart⟩ := htls.resolve_left hzero
        rw [htls] at hsend
        exact ⟨hconnect.resolve_left hzero, ⟨tls, htls, hstart, hsend⟩,
          ((le_sinceStartUs_getD_iff id rfl).mp hresponse).resolve_left hzero⟩
      · intro ⟨hconnect, ⟨tls, htls, hstart, hstop⟩, hresponse⟩
        refine ⟨?_, ?_, ?_, ?_⟩
        · exact (le_sinceStartUs_getD_iff AbsoluteDuration.start rfl).mpr (.inr hconnect)
        · rw [htls]
          exact hstart
        · rw [htls]
          exact hstop
        · exact (le_sinceStartUs_getD_iff id rfl).mpr (.inr hresponse)

end RedirectStats

/-- For every request, the durations built from it can be formatted exactly when its DNS lookup
comes first. -/
theorem requestDurations_fmt_iff (newPooled : Instant → Nat → ConnectionStats)
    (stats : List RedirectStats) (method : RequestMethod) :
    List.Forall₂ (fun rs info => info.durations.fmt.isSome ↔ rs.DnsFirst newPooled) stats
      (toRequestInfoList newPooled stats method) := by
  unfold toRequestInfoList
  rw [List.forall₂_map_right_iff, List.forall₂_same]
  intro rs _
  exact rs.fmt_toRequestInfo_iff_dnsFirst method

/-- A request without TLS whose DNS lookup starts a microsecond after it, in nanoseconds. -/
def plainHttpStats : RedirectStats where
  connectionStats := some
    { dnsResolve := some ⟨1000, 5000⟩, connect := some ⟨5000, 9000⟩, tlsConnect := none }
  requestStart := 0
  requestStartTimestamp := 1717614062978000
  requestSent := some 10000
  responseStart := some 20000
  requestEnd := 30000
  statusCode := 200
  requestBodySize := 0
  url := "http://santry.ayo/"
  certificate := none

/-- All its phases are timed after its start, and yet its durations have no text: the TLS handshake
starts with the request. -/
theorem requestDurations_fmt_plainHttp :
    ∃ rs, rs = plainHttpStats ∧ ∀ newPooled, rs.AfterStart newPooled ∧
      (toRequestInfoList newPooled [rs] .get).map (·.durations.fmt) = [none] := by
  refine ⟨plainHttpStats, rfl, fun newPooled => ⟨⟨?_, ?_, nofun, ?_, ?_⟩, ?_⟩⟩
  case refine_5 =>
    -- Its connection was set up for it: there is nothing to take from a pool.
    have hown : toRequestInfoList newPooled [plainHttpStats] .get =
        toRequestInfoList (fun _ _ => ⟨none, none, none⟩) [plainHttpStats] .get := rfl
    rw [hown]
    rfl
  all_goals
    intro _ h
    cases h
    decide

end UptimeChecker
