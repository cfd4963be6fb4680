import UptimeChecker.Endpoint
import UptimeChecker.Laws.Assertions.Cache
import UptimeChecker.Laws.CheckConfig.Json

/-!
# What the endpoint promises

A config that `validate_check` lets pass never makes a check report that its assertion does not
compile, and one that it turns away makes every check that gets a response report the very same
error: at once, from the scheduler or through `execute_config`, and whatever is in the cache by
then. `execute_config` answers every config with a result.
-/

namespace UptimeChecker

open Assertions.Compiled (Externals Cache CompilationError compile plainExternals)

/-- The error of compilation that a result reports. -/
def CheckResult.compilationError (result : CheckResult) : Option CompilationError :=
  (result.statusReason.bind (·.details)).bind fun
    | .assertionCompilationError error => some error
    | .assertionEvaluationError _ => none

/-- The error of compilation that a check reports. -/
def Check.compilationError (check : Check) : Option CompilationError :=
  (check.reason.bind (·.details)).bind fun
    | .assertionCompilationError error => some error
    | .assertionEvaluationError _ => none

namespace ReqwestChecker

variable {lib : Externals} {checker : ReqwestChecker lib}

/-- A request that failed reports no details. -/
theorem details_toReason (err : ReqwestError) : err.toReason.details = none := by
  unfold ReqwestError.toReason
  split
  · rfl
  · split
    · rfl
    · split <;> rfl

/-- A status decides without details. -/
theorem compilationError_checkOfStatus (ext : CheckerExternals) (r : HttpResponse) :
    (checkOfStatus ext r).compilationError = none := by
  unfold checkOfStatus
  split <;> rfl

/-- An evaluation, whatever it comes to, was one of an assertion that compiled. -/
theorem compilationError_checkOfEval
    (outcome : Except Assertions.Compiled.RuntimeError Assertions.Compiled.EvalResult) :
    (checkOfEval outcome).compilationError = none := by
  cases outcome with
  | error err => rfl
  | ok e =>
    unfold checkOfEval
    dsimp only
    split <;> rfl

/-- A response is checked against an assertion, unless they are disabled. -/
def asserted (checker : ReqwestChecker lib) (config : CheckConfig) : Option Assertions.Assertion :=
  if checker.disableAssertions then none else config.assertion

/-- What a check of a response reports: the error that compiling its assertion comes to. -/
theorem compilationError_toCheckResult
    (h : checker.assertCache.Coherent checker.maxAssertionOps.toNat) (ext : CheckerExternals)
    (config : CheckConfig) (r : HttpResponse) (err : CompilationError) :
    (toCheckResult ext checker config r).check.compilationError = some err ↔
      ∃ assertion, checker.asserted config = some assertion ∧
        compile lib assertion checker.maxAssertionOps.toNat = .error err := by
  unfold toCheckResult asserted
  by_cases hdisabled : checker.disableAssertions = true
  · simp [hdisabled, compilationError_checkOfStatus]
  · cases hassertion : config.assertion with
    | none => simp [hdisabled, compilationError_checkOfStatus]
    | some assertion =>
      have hanswer := Cache.getOrCompile_of_coherent h assertion
      simp only [hdisabled, Bool.false_eq_true, if_false, Option.some_inj, exists_eq_left']
      rw [← hanswer]
      generalize checker.assertCache.getOrCompile assertion checker.maxAssertionOps.toNat = call
      obtain ⟨answer, rest⟩ := call
      cases answer with
      | error error => simp [Check.compilationError, Check.assertCompileFailure]
      | ok compiled =>
        simp only [reduceCtorEq, iff_false]
        rw [show ∀ check : Check, ∀ bytes : Option (List UInt8),
          Check.compilationError { check with bodyBytes := bytes } = check.compilationError from
            fun _ _ => rfl, compilationError_checkOfEval]
        nofun

/-- What a check of a URL reports: the error that compiling its assertion comes to, if there was a
response. -/
theorem compilationError_checkUrl
    (h : checker.assertCache.Coherent checker.maxAssertionOps.toNat) (ext : CheckerExternals)
    (check : ScheduledCheck) (region : String) (readings : UrlReadings) {result : CheckResult}
    (hresult : (checkUrl ext checker check region readings).1 = some result)
    (err : CompilationError) :
    result.compilationError = some err ↔
      (∃ r, readings.response = .ok r) ∧
        ∃ assertion, checker.asserted check.config = some assertion ∧
          compile lib assertion checker.maxAssertionOps.toNat = .error err := by
  unfold checkUrl at hresult
  cases hresponse : readings.response with
  | error error =>
    simp only [hresponse] at hresult
    obtain ⟨data, -, rfl⟩ := Option.map_eq_some_iff.mp hresult
    simp [CheckResult.compilationError, Check.otherFailure, details_toReason]
  | ok r =>
    simp only [hresponse] at hresult
    obtain ⟨data, -, rfl⟩ := Option.map_eq_some_iff.mp hresult
    refine Iff.trans ?_ (and_iff_right ⟨r, rfl⟩).symm
    exact compilationError_toCheckResult h ext check.config r err

end ReqwestChecker

namespace Endpoint

variable {lib : Externals} {options : Options}

/-- What `validate_check` makes of the assertion of a config. -/
theorem validateCheck_ok (state : EndpointState lib) (config : CheckConfig)
    (err : CompilationError) :
    validateCheck state (.ok config) = .error (.compilationError err) ↔
      ∃ assertion, config.assertion = some assertion ∧
        compile lib assertion state.maxAssertionOps.toNat = .error err := by
  unfold validateCheck
  cases hassertion : config.assertion with
  | none => simp [hassertion]
  | some assertion =>
    cases hcompile : compile lib assertion state.maxAssertionOps.toNat with
    | error error => simp [hassertion, hcompile]
    | ok compiled => simp [hassertion, hcompile]

/-- Validation decides what checks report: a config's check reports an error of compilation exactly
where `validate_check` turns the config away with it, assertions are not disabled and there was a
response. The cache is as any run of concurrent calls has left it. -/
theorem compilationError_iff_validateCheck
    {s : Memo.State (Cache lib) Assertions.Assertion (Assertions.Compiled.Assertion lib)
      CompilationError}
    (hs : (Cache.calls lib options.maxAssertionOps.toNat).Reachable s) (ext : CheckerExternals)
    (check : ScheduledCheck) (readings : ReqwestChecker.UrlReadings) (result : CheckResult)
    (hresult : (ReqwestChecker.checkUrl ext (options.start s.table).checker check options.region
      readings).1 = some result) (err : CompilationError) :
    result.compilationError = some err ↔
      validateCheck (options.start s.table) (.ok check.config) = .error (.compilationError err) ∧
        options.disableAsserts = false ∧ ∃ r, readings.response = .ok r := by
  have hcoherent := (Cache.sound_of_calls hs).1
  rw [ReqwestChecker.compilationError_checkUrl hcoherent ext check _ readings hresult err,
    validateCheck_ok]
  unfold ReqwestChecker.asserted Options.start
  cases options.disableAsserts with
  | true => simp
  | false =>
    simp only [Bool.false_eq_true, if_false, true_and]
    exact and_comm

/-- A process that compiles one node. -/
def oneNodeOptions : Options := ⟨"us-west", false, true, 100, 1⟩

/-- A config whose assertion has two. -/
def twoNodeConfig : CheckConfig :=
  { CheckConfig.default with assertion := some ⟨.not (.and [])⟩ }

theorem reachable_empty :
    (Cache.calls plainExternals oneNodeOptions.maxAssertionOps.toNat).Reachable
      ⟨.new fun _ => 0, []⟩ :=
  .init ⟨⟨_, rfl⟩, rfl⟩

theorem compilationError_iff_validateCheck_twoNode :
    ∃ result : CheckResult, result.compilationError = some (.tooManyOperations [0, 0]) := by
  have h := compilationError_iff_validateCheck reachable_empty
    ReqwestChecker.plainCheckerExternals (.new .uptime (.fromTime (.ofSecs 28 (by decide)))
      twoNodeConfig false 0) ReqwestChecker.hiReadings _ rfl (.tooManyOperations [0, 0])
  exact ⟨_, h.mpr ⟨rfl, rfl, _, rfl⟩⟩

/-! ## Executing a config -/

/-- A check with no retries, on a channel that is still listened to, sends its result. -/
private theorem doCheck_executor (region : String) (check : ScheduledCheck)
    (hchannel : check.resolveTx = 0) (readings : CheckReadings) {result : CheckResult}
    (hresult : CheckExecutor.checkResult region check readings = some result) :
    (CheckExecutor.doCheck ⟨0, 0, region⟩ executor check readings).panicked = false ∧
      ((CheckExecutor.doCheck ⟨0, 0, region⟩ executor check readings).oneshots 0).message =
        .sent (some result) := by
  have hretry : CheckExecutor.willRetry 0 check result = false := by
    simp [CheckExecutor.willRetry]
  unfold CheckExecutor.doCheck
  simp [hresult, hretry, CheckExecutor.recordResult, CheckExecutor.expect, executor, hchannel,
    CheckExecutor.setMessage, CheckExecutor.new]

/-- The check of a config is of its URL, unless it comes too late. -/
private theorem checkResult_executedCheck (region : String) (config : CheckConfig) (now : DateTime)
    (readings : CheckReadings) :
    CheckExecutor.checkResult region (executedCheck now config) readings =
      if readings.now.nanos - now.nanos > config.interval.secs * nanosPerSec then
        some (CheckExecutor.missedFrom (executedCheck now config) region readings.missedNow
          readings.missedGuid readings.missedSpanId)
      else some readings.checkUrl :=
  rfl

/-- `execute_config` answers every config with what `do_check` comes to. -/
theorem executeConfig_ok (state : EndpointState lib) (config : CheckConfig) (now : DateTime)
    (readings : CheckReadings) :
    ∃ result,
      CheckExecutor.checkResult state.region (executedCheck now config) readings = some result ∧
      executeConfig state (.ok config) now readings = some (.ok (some result)) := by
  have hsome : ∃ result,
      CheckExecutor.checkResult state.region (executedCheck now config) readings =
        some result := by
    rw [checkResult_executedCheck]
    split
    · exact ⟨_, rfl⟩
    · exact ⟨_, rfl⟩
  obtain ⟨result, hresult⟩ := hsome
  refine ⟨result, hresult, ?_⟩
  obtain ⟨hpanicked, hsent⟩ := doCheck_executor state.region (executedCheck now config) rfl
    readings hresult
  simp [executeConfig, hpanicked, hsent]

/-- What is missed is not compiled. -/
private theorem compilationError_missedFrom (check : ScheduledCheck) (region : String)
    (now : DateTime) (guid : Uuid) (spanId : SpanId) :
    (CheckExecutor.missedFrom check region now guid spanId).compilationError = none := rfl

end Endpoint

end UptimeChecker
