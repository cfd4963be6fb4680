import UptimeChecker.Laws.ManagerHandle
import UptimeChecker.Laws.ResultIdentity

/-!
# What goes with what in a result

The fields of a result depend on each other: a check that was made has a duration and one that was
not has no requests, a failure has its reason, and the details of a reason are those of its type. A
result of the reqwest checker keeps to that whatever it meets with, and so do a result for a missed
check and one for a page that robots may not read. No other result is ever handed to the producer
(`produced_coherent`).
-/

namespace UptimeChecker

open Assertions.Compiled (Externals)

/-- The details of a reason are those of its type, and described by it. -/
def CheckStatusReason.Coherent (reason : CheckStatusReason) : Prop :=
  match reason.details with
  | none => reason.statusType ≠ .assertionCompilationError ∧
      reason.statusType ≠ .assertionEvaluationError
  | some (.assertionCompilationError err) =>
    reason.statusType = .assertionCompilationError ∧ reason.description = err.display
  | some (.assertionEvaluationError err) =>
    reason.statusType = .assertionEvaluationError ∧ reason.description = err.display

/-- The fields of a result go together. -/
structure CheckResult.Coherent (result : CheckResult) : Prop where
  scheduledCheckTimeUs : result.scheduledCheckTimeUs = result.scheduledCheckTime
  actualCheckTimeUs : result.actualCheckTimeUs = result.actualCheckTime
  durationUs : result.durationUs = result.duration
  /-- A check that was made has a duration. -/
  duration : result.duration.isSome ↔ result.status = .success ∨ result.status = .failure
  /-- A check that was not made has no requests. -/
  requestInfoList : result.duration = none → result.requestInfoList = []
  requestInfo : result.requestInfo = result.requestInfoList.getLast?
  statusReason : result.statusReason.isSome ↔
    result.status = .failure ∨ result.status = .missedWindow
  reason : ∀ reason ∈ result.statusReason, reason.Coherent
  missed : ∀ reason ∈ result.statusReason,
    reason.statusType = .missProduced ↔ result.status = .missedWindow
  notBackfilled : ∀ reason ∈ result.statusReason, reason.statusType ≠ .missBackfill
  /-- What an assertion failed on is there only where it failed. -/
  assertionFailureData : result.assertionFailureData.isSome → result.status = .failure ∧
    result.statusReason = some ⟨.failure, "Assertion failed", none⟩

/-! ## The checks of the reqwest checker -/

/-- A check comes to a success, or to a failure with a reason. -/
structure Check.Coherent (check : Check) : Prop where
  result : check.result = .success ∧ check.reason = none ∨
    check.result = .failure ∧ ∃ reason, check.reason = some reason ∧ reason.Coherent ∧
      reason.statusType ≠ .missProduced ∧ reason.statusType ≠ .missBackfill
  assertPath : check.assertPath.isSome → check.result = .failure ∧
    check.reason = some ⟨.failure, "Assertion failed", none⟩

/-- What a request may fail for. -/
def requestFailures : List CheckStatusReasonType :=
  [.timeout, .dnsError, .tlsError, .connectionError, .redirectError, .failure]

/-- A request that failed has a reason without details. -/
private theorem Check.coherent_otherFailure {reason : CheckStatusReason}
    (hdetails : reason.details = none) (htype : reason.statusType ∈ requestFailures)
    (requestInfos : List RequestInfo) : (Check.otherFailure reason requestInfos).Coherent := by
  have hother : ∀ statusType ∉ requestFailures, reason.statusType ≠ statusType := by
    rintro statusType hnot rfl
    exact hnot htype
  refine ⟨.inr ⟨rfl, reason, rfl, ?_, hother _ (by decide), hother _ (by decide)⟩, nofun⟩
  unfold CheckStatusReason.Coherent
  rw [hdetails]
  exact ⟨hother _ (by decide), hother _ (by decide)⟩

private theorem Check.coherent_success : Check.success.Coherent := ⟨.inl ⟨rfl, rfl⟩, nofun⟩

/-- An error of hyper is one of the connection, or any other. -/
private theorem ReqwestError.hyperError_type {err : ReqwestError}
    {statusType : CheckStatusReasonType} {message : String}
    (h : err.hyperError = some (statusType, message) ∨
      err.hyperUtilError = some (statusType, message)) :
    statusType = .connectionError ∨ statusType = .failure := by
  rcases h with h | h <;>
  · obtain ⟨source, -, hsource⟩ := List.exists_of_findSome?_eq_some h
    split at hsource
    · simp only [Option.some_inj, Prod.mk.injEq] at hsource
      obtain ⟨rfl, -⟩ := hsource
      split
      · exact .inl rfl
      · exact .inr rfl
    · cases hsource

/-- Whatever the error, its reason is one without details. -/
private theorem ReqwestError.toReason_plain (err : ReqwestError) :
    err.toReason.details = none ∧ err.toReason.statusType ∈ requestFailures := by
  unfold toReason
  split
  · exact ⟨rfl, by simp [requestFailures]⟩
  · split
    · exact ⟨rfl, by simp [requestFailures]⟩
    · split
      · exact ⟨rfl, by simp [requestFailures]⟩
      · exact ⟨rfl, by simp [requestFailures]⟩
      · exact ⟨rfl, by simp [requestFailures]⟩
      · rename_i hhyper
        rcases hyperError_type (.inl hhyper) with rfl | rfl <;>
        · exact ⟨rfl, by simp [requestFailures]⟩
      · rename_i hhyperUtil
        rcases hyperError_type (.inr hhyperUtil) with rfl | rfl <;>
        · exact ⟨rfl, by simp [requestFailures]⟩
      · exact ⟨rfl, by simp [requestFailures]⟩

namespace ReqwestChecker

variable {lib : Externals} {ext : CheckerExternals} {checker : ReqwestChecker lib}

private theorem coherent_checkOfStatus (ext : CheckerExternals) (r : HttpResponse) :
    (checkOfStatus ext r).Coherent := by
  unfold checkOfStatus
  split
  · exact Check.coherent_success
  · exact Check.coherent_otherFailure rfl (by simp [requestFailures]) []

private theorem coherent_checkOfEval (outcome : Except Assertions.Compiled.RuntimeError
    Assertions.Compiled.EvalResult) : (checkOfEval outcome).Coherent := by
  cases outcome with
  | ok e =>
    simp only [checkOfEval]
    split
    · exact Check.coherent_success
    · exact ⟨.inr ⟨rfl, _, rfl, ⟨nofun, nofun⟩, nofun, nofun⟩, fun _ => ⟨rfl, rfl⟩⟩
  | error err => exact ⟨.inr ⟨rfl, _, rfl, ⟨rfl, rfl⟩, nofun, nofun⟩, nofun⟩

/-- The body that a check keeps does not matter. -/
private theorem SameOutcome.coherent {a b : Check} (h : SameOutcome a b) (hb : b.Coherent) :
    a.Coherent := by
  obtain ⟨hresult, hpath⟩ := hb
  exact ⟨by rwa [h.result, h.reason], by rwa [h.assertPath, h.result, h.reason]⟩

private theorem coherent_toCheckResult (config : CheckConfig) (r : HttpResponse) :
    (toCheckResult ext checker config r).check.Coherent := by
  cases hassertion : config.assertion with
  | none =>
    rw [toCheckResult_status ext checker (.inr hassertion) r]
    exact coherent_checkOfStatus ext r
  | some assertion =>
    refine (toCheckResult_outcome ext checker hassertion r).coherent ?_
    unfold checkOfBody
    split
    · exact coherent_checkOfStatus ext r
    · split
      · exact ⟨.inr ⟨rfl, _, rfl, ⟨rfl, rfl⟩, nofun, nofun⟩, nofun⟩
      · exact coherent_checkOfEval _

private theorem coherent_checkOf (check : ScheduledCheck) (readings : UrlReadings) :
    (checkOf ext checker check readings).Coherent := by
  cases hr : readings.response with
  | ok r =>
    exact (checkOf_outcome ext checker check hr).coherent (coherent_toCheckResult check.config r)
  | error err =>
    unfold checkOf
    rw [hr]
    obtain ⟨hdetails, htype⟩ := err.toReason_plain
    exact Check.coherent_otherFailure hdetails htype _

/-- What a result carries beside the check it was made from. -/
private theorem checkUrl_rest {check : ScheduledCheck} {region : String} {readings : UrlReadings}
    {result : CheckResult} (h : (checkUrl ext checker check region readings).1 = some result) :
    result.scheduledCheckTimeUs = result.scheduledCheckTime ∧
      result.actualCheckTimeUs = result.actualCheckTime ∧
      result.durationUs = result.duration ∧ result.duration.isSome ∧
      (result.assertionFailureData.isSome →
        (checkOf ext checker check readings).assertPath.isSome) := by
  unfold checkUrl at h
  unfold checkOf
  cases hr : readings.response with
  | error err =>
    rw [hr] at h
    dsimp only at h
    obtain ⟨data, hdata, rfl⟩ := Option.map_eq_some_iff.mp h
    cases hdata
    exact ⟨rfl, rfl, rfl, rfl, nofun⟩
  | ok r =>
    rw [hr] at h
    dsimp only at h ⊢
    obtain ⟨data, hdata, rfl⟩ := Option.map_eq_some_iff.mp h
    refine ⟨rfl, rfl, rfl, rfl, fun hsome => ?_⟩
    cases hpath : (checkResponse ext checker check r readings.stats).1.assertPath with
    | none =>
      rw [hpath] at hdata
      cases hdata
      cases hsome
    | some path => rfl

/-- Whatever a check meets with, its result is coherent. -/
theorem coherent_checkUrl {check : ScheduledCheck} {region : String} {readings : UrlReadings}
    {result : CheckResult} (h : (checkUrl ext checker check region readings).1 = some result) :
    result.Coherent := by
  obtain ⟨hstatus, hreason, hinfo, hinfos⟩ := checkUrl_eq_some h
  obtain ⟨hscheduled, hactual, hdurationUs, hduration, hdata⟩ := checkUrl_rest h
  have hcheck : (checkOf ext checker check readings).Coherent := coherent_checkOf check readings
  have hmade : result.status = .success ∧ result.statusReason = none ∨
      result.status = .failure ∧ ∃ reason, result.statusReason = some reason ∧ reason.Coherent ∧
        reason.statusType ≠ .missProduced ∧ reason.statusType ≠ .missBackfill := by
    rw [hstatus, hreason]
    exact hcheck.result
  have hfailed : result.assertionFailureData.isSome → result.status = .failure ∧
      result.statusReason = some ⟨.failure, "Assertion failed", none⟩ := by
    rw [hstatus, hreason]
    exact fun hsome => hcheck.assertPath (hdata hsome)
  have hrequest : result.requestInfo = result.requestInfoList.getLast? := by
    rw [hinfo, hinfos]
  have hnot : result.duration = none → result.requestInfoList = [] := by
    intro hnone
    rw [hnone] at hduration
    cases hduration
  rcases hmade with ⟨hok, hnone⟩ | ⟨hfailure, reason, hsome, hcoherent, hmissed, hbackfill⟩
  · exact ⟨hscheduled, hactual, hdurationUs, by simp [hduration, hok], hnot, hrequest,
      by simp [hnone, hok], by simp [hnone], by simp [hnone], by simp [hnone], hfailed⟩
  · exact ⟨hscheduled, hactual, hdurationUs, by simp [hduration, hfailure], hnot, hrequest,
      by simp [hsome, hfailure], by simpa [hsome] using hcoherent,
      by simp [hsome, hfailure, hmissed], by simpa [hsome] using hbackfill, hfailed⟩

/-- A result for a page that robots may not read. -/
theorem coherent_checkRobots {robots : RobotsExternals} {check : ScheduledCheck} {region : String}
    {readings : RobotsReadings robots} {result : CheckResult}
    (h : checkRobots ext robots check region readings = some result) : result.Coherent := by
  unfold checkRobots at h
  dsimp only at h
  split at h
  · cases h
  · split at h
    · cases h
    · split at h
      · cases h
      · split at h
        · cases h
        · cases h
          exact ⟨rfl, rfl, rfl, by simp, fun _ => rfl, rfl, by simp, nofun, nofun, nofun, nofun⟩

end ReqwestChecker

namespace CheckExecutor

/-- A result for a check that came too late. -/
theorem coherent_missedFrom (check : ScheduledCheck) (region : String) (now : DateTime)
    (guid : Uuid) (spanId : SpanId) : (missedFrom check region now guid spanId).Coherent := by
  refine ⟨rfl, rfl, rfl, by simp [missedFrom], fun _ => rfl, rfl, by simp [missedFrom], ?_, ?_, ?_,
    nofun⟩
  · rintro reason ⟨⟩
    exact ⟨nofun, nofun⟩
  · rintro reason ⟨⟩
    exact iff_of_true rfl rfl
  · rintro reason ⟨⟩
    nofun

/-- A run of `do_check` in which the reqwest checker answers, whatever it knows and meets with. -/
structure Answered (lib : Externals) (ext : CheckerExternals) (robots : RobotsExternals)
    (region : String) (check : ScheduledCheck) (readings : CheckReadings) : Prop where
  checkUrl : check.kind = .uptime →
    ∃ (checker : ReqwestChecker lib) (met : ReqwestChecker.UrlReadings),
      (checker.checkUrl ext check region met).1 = some readings.checkUrl
  checkRobots : check.kind = .robots → ∃ met : ReqwestChecker.RobotsReadings robots,
    ReqwestChecker.checkRobots ext robots check region met = readings.checkRobots

section
variable {lib : Externals} {ext : CheckerExternals} {robots : RobotsExternals}
  {conf : ExecutorConfig} {e e' : CheckExecutor} {check : ScheduledCheck}
  {readings : CheckReadings} {result : CheckResult}

/-- What `do_check` comes to is coherent. -/
theorem Answered.coherent (h : Answered lib ext robots conf.region check readings)
    (hresult : checkResult conf.region check readings = some result) : result.Coherent := by
  unfold checkResult at hresult
  split at hresult
  · cases hresult
    exact coherent_missedFrom check conf.region _ _ _
  · cases hkind : check.kind with
    | uptime =>
      rw [hkind] at hresult
      cases hresult
      obtain ⟨checker, met, hanswer⟩ := h.checkUrl hkind
      exact ReqwestChecker.coherent_checkUrl hanswer
    | robots =>
      rw [hkind] at hresult
      obtain ⟨met, hanswer⟩ := h.checkRobots hkind
      exact ReqwestChecker.coherent_checkRobots (hanswer.trans hresult)

/-- Recording a result hands nothing to the producer, whatever the caller goes on with where that
fails. -/
private theorem produced_recordResult (outcome : Option CheckResult) {fallback : CheckExecutor}
    (h : fallback.produced = e.produced) :
    ((e.recordResult check outcome).getD fallback).produced = e.produced := by
  unfold recordResult
  split
  · rfl
  · exact h

private theorem produced_queueCheckForRetry :
    (e.expect (e.queueCheckForRetry check)).produced = e.produced := by
  unfold expect queueCheckForRetry
  split <;> rfl

/-- A result that is handed to the producer is the one that `do_check` came to. -/
theorem mem_produced_doCheck (h : result ∈ (doCheck conf e check readings).produced) :
    result ∈ e.produced ∨ checkResult conf.region check readings = some result := by
  unfold doCheck at h
  cases hcome : checkResult conf.region check readings with
  | none =>
    rw [hcome] at h
    exact .inl (produced_recordResult none rfl ▸ h)
  | some other =>
    rw [hcome] at h
    dsimp only at h
    split at h
    · exact .inl (produced_queueCheckForRetry ▸ h)
    · have hproduced := @produced_recordResult { e with produced := e.produced ++ [other] } check
        (some other) { e with produced := e.produced ++ [other], panicked := true } rfl
      rcases List.mem_append.mp (hproduced ▸ h) with hold | hnew
      · exact .inl hold
      · rw [List.mem_singleton.mp hnew]
        exact .inr rfl

theorem mem_produced_finish {i : Nat} (hi : e.running[i]? = some check)
    (hf : e.finish conf i readings = some e') (h : result ∈ e'.produced) :
    result ∈ e.produced ∨ checkResult conf.region check readings = some result := by
  unfold finish at hf
  rw [hi] at hf
  cases hf
  let started := { e with running := e.running.eraseIdx i }
  exact @mem_produced_doCheck conf started check readings result h

end

end CheckExecutor

/-! ## Any run of the process -/

namespace ManagerHandle

variable {lib : Externals} {ext : CheckerExternals} {robots : RobotsExternals}
  {conf : ExecutorConfig} {vectorExt : VectorProducer.Externals}
  {vectorConf : VectorProducer.VectorRequestWorkerConfig} {s s' : State} {a : Action}

/-- The process with its checks run by the reqwest checker. -/
def checked (lib : Externals) (ext : CheckerExternals) (robots : RobotsExternals)
    (conf : ExecutorConfig) (vectorExt : VectorProducer.Externals)
    (vectorConf : VectorProducer.VectorRequestWorkerConfig) : Transition State Action where
  init s := s = initial
  step s a s' := (system conf vectorExt vectorConf).step s a s' ∧
    (a = .finishCheck → ∃ i check readings, s.executor.running[i]? = some check ∧
      CheckExecutor.Answered lib ext robots conf.region check readings ∧
      s.executor.finish conf i readings = some s'.executor)

/-- Only the end of a check has a result handed to the producer. -/
private theorem Step.produced_eq (hstep : Step conf vectorExt vectorConf s a s')
    (hfinish : a ≠ .finishCheck) : s'.executor.produced = s.executor.produced := by
  cases hstep with
  | queueCheck hq =>
    obtain ⟨-, -, rfl⟩ := CheckExecutor.queueCheck_eq_some hq
    rfl
  | startCheck hst =>
    obtain ⟨check, rest, -, -, rfl⟩ := CheckExecutor.start_eq_some hst
    rfl
  | finishCheck => exact absurd rfl hfinish
  | _ => rfl

/-- In any run of the process, every result that was handed to the producer is coherent. -/
theorem produced_coherent
    (hs : (checked lib ext robots conf vectorExt vectorConf).Reachable s) :
    ∀ result ∈ s.executor.produced, result.Coherent := by
  refine hs.invariant (P := fun s => ∀ result ∈ s.executor.produced, result.Coherent) ?_ ?_
  · rintro s rfl result hmem
    exact absurd hmem List.not_mem_nil
  · intro s a s' h ⟨hstep, hanswered⟩ result hmem
    by_cases hfinish : a = .finishCheck
    · obtain ⟨i, check, readings, hi, hanswer, hf⟩ := hanswered hfinish
      rcases CheckExecutor.mem_produced_finish hi hf hmem with hold | hcome
      · exact h result hold
      · exact hanswer.coherent hcome
    · rw [hstep.2.produced_eq hfinish] at hmem
      exact h result hmem

/-- A site without a robots.txt. -/
private def plainRobots : RobotsExternals where
  Url := String
  parseUrl := some
  setPath url path := url ++ "/" ++ path
  asStr := id
  Robot := Unit
  newRobot _ _ := none
  allowed _ _ := true

/-- A server answers the one check, which is a success. -/
theorem produced_coherent_one : ∃ (s : State) (result : CheckResult),
    (checked Assertions.Compiled.plainExternals ReqwestChecker.plainCheckerExternals plainRobots
      oneRetry VectorProducer.missedExternals ⟨10, true, true⟩).Reachable s ∧
    result ∈ s.executor.produced ∧ result.status = .success ∧ result.Coherent := by
  let check : ScheduledCheck := .new .uptime (.fromTime missedReadings.now) .default false 0
  obtain ⟨result, hresult⟩ := @ReqwestChecker.checkUrl_of_assertPath _
    ReqwestChecker.plainCheckerExternals ReqwestChecker.plainChecker check "us"
    ReqwestChecker.hiReadings rfl
  have hstatus : result.status = .success :=
    (ReqwestChecker.checkUrl_eq_some hresult).1.trans rfl
  let readings : CheckReadings := ⟨missedReadings.now, missedReadings.now, 0, 0, result, none⟩
  let ended := CheckExecutor.doCheck oneRetry { oneRunning with running := [] } check readings
  have hproduced : ended.produced = [result] := by
    have hcome : CheckExecutor.checkResult oneRetry.region check readings = some result := rfl
    simp only [ended, CheckExecutor.doCheck, hcome, CheckExecutor.willRetry, hstatus]
    rfl
  let sys := checked Assertions.Compiled.plainExternals ReqwestChecker.plainCheckerExternals
    plainRobots oneRetry VectorProducer.missedExternals ⟨10, true, true⟩
  have h0 : sys.Reachable initial := .init rfl
  have h1 := h0.step ⟨⟨rfl, .queueCheck (show CheckExecutor.new.queueCheck
    (Tick.fromTime missedReadings.now) .default .uptime = some (_, _) from rfl)⟩,
    fun h => by cases h⟩
  have h2 := h1.step ⟨⟨rfl, .startCheck rfl⟩, fun h => by cases h⟩
  have h3 := h2.step ⟨⟨rfl, .finishCheck (show oneRunning.finish oneRetry 0 readings = some ended
    from rfl)⟩, fun _ => ⟨0, check, readings, rfl,
    ⟨fun _ => ⟨_, _, hresult⟩, fun h => by cases h⟩, rfl⟩⟩
  have hmem : result ∈ ended.produced := hproduced ▸ List.mem_singleton_self result
  exact ⟨_, result, h3, hmem, hstatus, produced_coherent h3 result hmem⟩

end ManagerHandle

end UptimeChecker
