import UptimeChecker.Checker.ReqwestChecker
import UptimeChecker.Laws.Assertions.Body
import UptimeChecker.Laws.CheckConfig

/-!
# Reading a body, and keeping it

`read_body_bounded` tests the bound after it has taken a chunk, so it keeps within the bound only
where everything that arrives does (`readWithin_iff`).

The body decides nothing where the assertion does not require it (`body_not_required`). It is
captured when it should be, and as it was read (`capture_right_iff`), except after an assertion that
required it and then did not compile: that check does not say that the body was read, and the
capture reads on where the first reading stopped.
-/

namespace UptimeChecker

open Assertions.Compiled (Externals compile HeaderMap plainExternals)

/-! ## The bound of a body -/

/-- The bytes that arrive before a body ends. -/
def arrived : List Arrival → List UInt8
  | [] => []
  | .ended _ :: _ => []
  | .chunk bytes :: rest => bytes ++ arrived rest

/-- A body is read within the bound: what is read is the beginning of what arrives, no longer than
the bound, and all of it if that is no longer. -/
structure ReadWithin (maxBytes : Nat) (body : List Arrival) : Prop where
  isPrefix : (readBodyBounded maxBytes body).1 <+: arrived body
  bounded : (readBodyBounded maxBytes body).1.length ≤ maxBytes
  whole : (arrived body).length ≤ maxBytes → (readBodyBounded maxBytes body).1 = arrived body

/-- The loop reads the beginning of what is still to arrive, on top of what it has. -/
private theorem readFrom_beginning (maxBytes : Nat) (allBytes : List UInt8) (body : List Arrival) :
    (readBodyBoundedFrom maxBytes allBytes body).1 <+: allBytes ++ arrived body := by
  induction body generalizing allBytes with
  | nil => exact List.prefix_append _ _
  | cons arrival body ih =>
    cases arrival with
    | ended how => exact List.prefix_append _ _
    | chunk bytes =>
      rw [readBodyBoundedFrom, arrived, ← List.append_assoc]
      split
      · exact List.prefix_append _ _
      · exact ih _

/-- Within the bound the loop reads to the end. -/
private theorem readFrom_whole {maxBytes : Nat} {allBytes : List UInt8} {body : List Arrival}
    (h : (allBytes ++ arrived body).length ≤ maxBytes) :
    (readBodyBoundedFrom maxBytes allBytes body).1 = allBytes ++ arrived body := by
  induction body generalizing allBytes with
  | nil => exact (List.append_nil _).symm
  | cons arrival body ih =>
    cases arrival with
    | ended how => exact (List.append_nil _).symm
    | chunk bytes =>
      rw [arrived, ← List.append_assoc] at h ⊢
      have hle := Nat.le_trans (List.prefix_append _ (arrived body)).length_le h
      rw [readBodyBoundedFrom, if_neg (Nat.not_lt.mpr hle)]
      exact ih h

/-- Beyond the bound the loop stops only when it has exceeded it. -/
private theorem readFrom_exceeds {maxBytes : Nat} {allBytes : List UInt8} {body : List Arrival}
    (hle : allBytes.length ≤ maxBytes) (h : maxBytes < (allBytes ++ arrived body).length) :
    maxBytes < (readBodyBoundedFrom maxBytes allBytes body).1.length := by
  induction body generalizing allBytes with
  | nil =>
    rw [arrived, List.append_nil] at h
    exact (Nat.not_lt.mpr hle h).elim
  | cons arrival body ih =>
    cases arrival with
    | ended how =>
      rw [arrived, List.append_nil] at h
      exact (Nat.not_lt.mpr hle h).elim
    | chunk bytes =>
      rw [arrived, ← List.append_assoc] at h
      rw [readBodyBoundedFrom]
      split
      · assumption
      · exact ih (Nat.le_of_not_lt ‹_›) h

/-- What is read is the beginning of what arrives. -/
theorem readBodyBounded_beginning (maxBytes : Nat) (body : List Arrival) :
    (readBodyBounded maxBytes body).1 <+: arrived body :=
  readFrom_beginning maxBytes [] body

/-- A body is read within the bound if and only if no more than that arrives. -/
theorem readWithin_iff (maxBytes : Nat) (body : List Arrival) :
    ReadWithin maxBytes body ↔ (arrived body).length ≤ maxBytes := by
  constructor
  · intro h
    apply Nat.le_of_not_lt
    intro hlt
    have hexceeds := @readFrom_exceeds maxBytes [] body (Nat.zero_le maxBytes) hlt
    exact Nat.not_lt.mpr h.bounded hexceeds
  · intro hle
    have hwhole : (readBodyBounded maxBytes body).1 = arrived body :=
      @readFrom_whole maxBytes [] body hle
    exact ⟨readBodyBounded_beginning maxBytes body, hwhole.symm ▸ hle, fun _ => hwhole⟩

/-- One chunk of three bytes against a bound of two. -/
theorem read_exceeds_bound : ¬ ∀ (maxBytes : Nat) (body : List Arrival),
    ReadWithin maxBytes body := by
  intro h
  have := (h 2 [.chunk [1, 2, 3], .ended .endOfBody]).bounded
  cases Nat.not_lt.mpr this (by decide)

namespace ReqwestChecker

variable {lib : Externals}

/-! ## A body that is not required -/

/-- The body an assertion is given, and what is left of the stream. -/
def bodyFor (assertion : Assertions.Assertion) (r : HttpResponse) : List UInt8 × List Arrival :=
  if assertion.requiresBody then readBodyBounded maxBodyBytes r.body else ([], r.body)

/-- The compiled form of an assertion that the checker's cache answers. -/
def getOrCompile (checker : ReqwestChecker lib) (assertion : Assertions.Assertion) :=
  checker.assertCache.getOrCompile assertion checker.maxAssertionOps.toNat

/-- What `to_check_result` does without an assertion to evaluate. -/
theorem toCheckResult_status (ext : CheckerExternals) (checker : ReqwestChecker lib)
    {config : CheckConfig} (h : checker.disableAssertions = true ∨ config.assertion = none)
    (r : HttpResponse) :
    toCheckResult ext checker config r = ⟨checkOfStatus ext r, r.body, checker.assertCache⟩ := by
  unfold toCheckResult
  split
  · rfl
  · rcases h with h | h
    · contradiction
    · rw [h]

/-- What `to_check_result` does with an assertion: it is compiled, and evaluated on the body. -/
theorem toCheckResult_assertion (ext : CheckerExternals) (checker : ReqwestChecker lib)
    {config : CheckConfig} {assertion : Assertions.Assertion}
    (henabled : checker.disableAssertions = false) (h : config.assertion = some assertion)
    (r : HttpResponse) :
    toCheckResult ext checker config r =
      ⟨match (getOrCompile checker assertion).1 with
        | .error err => .assertCompileFailure err
        | .ok c =>
          { checkOfEval (c.eval ⟨r.status, r.headers, (bodyFor assertion r).1⟩
              checker.assertionComplexity.toNat) with
            bodyBytes := if assertion.requiresBody then some (bodyFor assertion r).1 else none },
        (bodyFor assertion r).2, (getOrCompile checker assertion).2⟩ := by
  unfold toCheckResult bodyFor getOrCompile
  rw [h, if_neg (Bool.not_eq_true _ ▸ henabled)]
  dsimp only
  obtain ⟨bodyBytes, rest⟩ :=
    if assertion.requiresBody then readBodyBounded maxBodyBytes r.body else ([], r.body)
  obtain ⟨compiled, cache⟩ :=
    checker.assertCache.getOrCompile assertion checker.maxAssertionOps.toNat
  cases compiled <;> rfl

/-- The check that a body makes, were it the one that was read. -/
def checkOfBody (ext : CheckerExternals) (checker : ReqwestChecker lib)
    (assertion : Assertions.Assertion) (r : HttpResponse) (body : List UInt8) : Check :=
  if checker.disableAssertions then checkOfStatus ext r
  else
    match (getOrCompile checker assertion).1 with
    | .error err => .assertCompileFailure err
    | .ok compiled =>
      checkOfEval (compiled.eval ⟨r.status, r.headers, body⟩ checker.assertionComplexity.toNat)

/-- Two checks come to the same status, for the same reason and with the same failure path. -/
structure SameOutcome (a b : Check) : Prop where
  result : a.result = b.result
  reason : a.reason = b.reason
  assertPath : a.assertPath = b.assertPath

/-- A check comes to what the body makes it that was read. -/
theorem toCheckResult_outcome (ext : CheckerExternals) (checker : ReqwestChecker lib)
    {config : CheckConfig} {assertion : Assertions.Assertion}
    (h : config.assertion = some assertion) (r : HttpResponse) :
    SameOutcome (toCheckResult ext checker config r).check
      (checkOfBody ext checker assertion r (bodyFor assertion r).1) := by
  cases hdisabled : checker.disableAssertions with
  | true =>
    rw [toCheckResult_status ext checker (.inl hdisabled) r, checkOfBody, if_pos hdisabled]
    exact ⟨rfl, rfl, rfl⟩
  | false =>
    rw [toCheckResult_assertion ext checker hdisabled h r, checkOfBody, hdisabled]
    cases (getOrCompile checker assertion).1 with
    | error err => exact ⟨rfl, rfl, rfl⟩
    | ok compiled => exact ⟨rfl, rfl, rfl⟩

/-- An assertion that does not require the body answers the same whatever the body, and the check
that did not read it comes to what any body would have made it. -/
theorem body_not_required {a : Assertions.Assertion} (h : a.requiresBody = false) :
    (∀ {maxOps : Nat} {c : Assertions.Compiled.Assertion lib}, compile lib a maxOps = .ok c →
      ∀ (status : UInt16) (headers : HeaderMap) (gas : Nat) (body body' : List UInt8),
        c.eval ⟨status, headers, body⟩ gas = c.eval ⟨status, headers, body'⟩ gas) ∧
    ∀ (ext : CheckerExternals) (checker : ReqwestChecker lib) {config : CheckConfig},
      config.assertion = some a → ∀ (r : HttpResponse) (body : List UInt8),
        SameOutcome (toCheckResult ext checker config r).check
          (checkOfBody ext checker a r body) := by
  have heval := @Assertions.Compiled.eval_eq_of_not_requiresBody lib a h
  refine ⟨fun hc status headers gas body body' => heval hc status headers body body' gas, ?_⟩
  intro ext checker config hconfig r body
  have houtcome := toCheckResult_outcome ext checker hconfig r
  rw [bodyFor, h] at houtcome
  have hsame : checkOfBody ext checker a r [] = checkOfBody ext checker a r body := by
    unfold checkOfBody
    cases hc : (getOrCompile checker a).1 with
    | error err => rfl
    | ok compiled =>
      obtain ⟨maxOps, hcompile⟩ := Assertions.Compiled.Cache.compiled_of_getOrCompile hc
      dsimp only
      rw [heval hcompile r.status r.headers [] body]
  rw [← hsame]
  exact houtcome

/-- A hash and texts that stand for the real ones where nothing depends on them. -/
def plainCheckerExternals : CheckerExternals where
  newV5 namespaceId _ := namespaceId
  newPooled _ _ := ⟨none, none, none⟩
  displayDateTime t := toString t.nanos
  displayStatus status := toString status.toNat

/-- A checker with an empty cache that captures responses. -/
def plainChecker : ReqwestChecker plainExternals := ⟨.new fun _ => 0, false, true, 100, 16⟩

theorem body_not_required_notTwoHundred :
    Assertions.Compiled.notTwoHundred.eval ⟨200, [], []⟩ 2 =
        Assertions.Compiled.notTwoHundred.eval ⟨200, [], [104, 105]⟩ 2 ∧
      SameOutcome
        (toCheckResult plainCheckerExternals plainChecker
          { CheckConfig.default with assertion := some Assertions.Compiled.notTwoHundredSource }
          ⟨200, [], [.chunk [104, 105]]⟩).check
        (checkOfBody plainCheckerExternals plainChecker Assertions.Compiled.notTwoHundredSource
          ⟨200, [], [.chunk [104, 105]]⟩ [104, 105]) := by
  have h := @body_not_required plainExternals Assertions.Compiled.notTwoHundredSource rfl
  exact ⟨@h.1 6 _ rfl 200 [] 2 [] [104, 105],
    @h.2 plainCheckerExternals plainChecker _ rfl ⟨200, [], [.chunk [104, 105]]⟩ [104, 105]⟩

/-! ## The capture -/

/-- A check with that status is one whose response is captured. -/
def Captures (checker : ReqwestChecker lib) (check : ScheduledCheck) (status : CheckStatus) :
    Prop :=
  check.forceBodyCapture = true ∨
    checker.responseCaptureEnabled = true ∧ check.config.captureResponseOnFailure = true ∧
      status = .failure

/-- The text of a captured body: an empty one has none. -/
def capturedText (bytes : List UInt8) : Option String :=
  if bytes.isEmpty then none else some (Base64.encode bytes)

/-- The body of a response, read once from its first chunk. -/
def readOnce (r : HttpResponse) : List UInt8 := (readBodyBounded maxBodyBytes r.body).1

/-- A result carries the body and the headers of a response only if it captures, and then, if the
response was reached and has stats, the body as it was read, which is also what the assertion was
evaluated on. -/
structure CaptureRight (checker : ReqwestChecker lib) (check : ScheduledCheck)
    (readings : UrlReadings) (result : CheckResult) : Prop where
  only : ∀ info, info ∈ result.requestInfoList ∨ result.requestInfo = some info →
    info.responseBody ≠ none ∨ info.responseHeaders ≠ none →
    Captures checker check result.status
  captured : ∀ r, readings.response = .ok r → Captures checker check result.status →
    readings.stats ≠ [] →
    ∃ info, result.requestInfo = some info ∧ result.requestInfoList.getLast? = some info ∧
      info.responseBody = capturedText (readOnce r)
  asserted : ∀ r a c, readings.response = .ok r → checker.disableAssertions = false →
    check.config.assertion = some a → a.requiresBody = true →
    (getOrCompile checker a).1 = .ok c →
    let evaluated := checkOfEval
      (c.eval ⟨r.status, r.headers, readOnce r⟩ checker.assertionComplexity.toNat)
    result.status = evaluated.result ∧ result.statusReason = evaluated.reason

/-- The body of a response that is captured is read a second time, and that reading comes to
something else. -/
def ReadsAgain (checker : ReqwestChecker lib) (check : ScheduledCheck) (readings : UrlReadings) :
    Prop :=
  ∃ r a e, readings.response = .ok r ∧ checker.disableAssertions = false ∧
    check.config.assertion = some a ∧ a.requiresBody = true ∧
    (getOrCompile checker a).1 = .error e ∧ Captures checker check .failure ∧
    readings.stats ≠ [] ∧
    (readBodyBounded maxBodyBytes (readBodyBounded maxBodyBytes r.body).2).1 ≠ readOnce r

/-- Different bodies have different texts. -/
theorem capturedText_injective {xs ys : List UInt8} (h : capturedText xs = capturedText ys) :
    xs = ys := by
  unfold capturedText at h
  cases xs with
  | nil =>
    cases ys with
    | nil => rfl
    | cons y ys => cases h
  | cons x xs =>
    cases ys with
    | nil => cases h
    | cons y ys => exact Base64.encode_injective (Option.some.inj h)

/-- The bytes a capture attaches: those in the check, or else those that are read then. -/
def attached (d : Decided lib) : List UInt8 :=
  d.check.bodyBytes.getD (readBodyBounded maxBodyBytes d.body).1

/-- They are the body read once, except after an assertion that required the body and did not
compile. -/
theorem attached_toCheckResult (ext : CheckerExternals) (checker : ReqwestChecker lib)
    (config : CheckConfig) (r : HttpResponse) :
    attached (toCheckResult ext checker config r) = readOnce r ∨
      ∃ a e, checker.disableAssertions = false ∧ config.assertion = some a ∧
        a.requiresBody = true ∧ (getOrCompile checker a).1 = .error e ∧
        (toCheckResult ext checker config r).check.result = .failure ∧
        attached (toCheckResult ext checker config r) =
          (readBodyBounded maxBodyBytes (readBodyBounded maxBodyBytes r.body).2).1 := by
  have hstatus : ∀ check cache, check = checkOfStatus ext r →
      attached (⟨check, r.body, cache⟩ : Decided lib) = readOnce r := by
    rintro check cache rfl
    unfold checkOfStatus
    split <;> rfl
  cases hdisabled : checker.disableAssertions with
  | true =>
    rw [toCheckResult_status ext checker (.inl hdisabled) r]
    exact .inl (hstatus _ _ rfl)
  | false =>
    cases hconfig : config.assertion with
    | none =>
      rw [toCheckResult_status ext checker (.inr hconfig) r]
      exact .inl (hstatus _ _ rfl)
    | some a =>
      rw [toCheckResult_assertion ext checker hdisabled hconfig r]
      cases hc : (getOrCompile checker a).1 with
      | ok c =>
        left
        unfold attached readOnce bodyFor
        cases a.requiresBody <;> rfl
      | error e =>
        unfold attached readOnce bodyFor
        cases hreq : a.requiresBody with
        | false => exact .inl rfl
        | true => exact .inr ⟨a, e, rfl, rfl, hreq, hc, rfl, rfl⟩

/-- The decision to capture is `Captures`. -/
private theorem captures_iff {checker : ReqwestChecker lib} {check : ScheduledCheck}
    {status : CheckStatus} :
    Captures checker check status ↔
      (check.forceBodyCapture || (checker.responseCaptureEnabled &&
        check.config.captureResponseOnFailure && decide (status = .failure))) = true := by
  simp [Captures, and_assoc]

/-- A captured response is attached to the last request. -/
theorem checkResponse_captures {ext : CheckerExternals} {checker : ReqwestChecker lib}
    {check : ScheduledCheck} {r : HttpResponse} {stats : List RedirectStats}
    (h : Captures checker check (toCheckResult ext checker check.config r).check.result) :
    (checkResponse ext checker check r stats).1.requestInfos =
      modifyLast (attach (attached (toCheckResult ext checker check.config r)) r.headers)
        (toRequestInfoList ext.newPooled stats check.config.requestMethod) := by
  unfold checkResponse attached
  dsimp only
  rw [captures_iff.mp h]
  cases (toCheckResult ext checker check.config r).check.bodyBytes <;> rfl

/-- Without a capture the requests are left as the stats have them. -/
theorem checkResponse_not_captures {ext : CheckerExternals} {checker : ReqwestChecker lib}
    {check : ScheduledCheck} {r : HttpResponse} {stats : List RedirectStats}
    (h : ¬ Captures checker check (toCheckResult ext checker check.config r).check.result) :
    (checkResponse ext checker check r stats).1.requestInfos =
      toRequestInfoList ext.newPooled stats check.config.requestMethod := by
  rw [captures_iff, Bool.not_eq_true] at h
  unfold checkResponse
  dsimp only
  rw [h]

/-- The capture changes nothing else of a check. -/
theorem checkResponse_outcome (ext : CheckerExternals) (checker : ReqwestChecker lib)
    (check : ScheduledCheck) (r : HttpResponse) (stats : List RedirectStats) :
    SameOutcome (checkResponse ext checker check r stats).1
      (toCheckResult ext checker check.config r).check :=
  ⟨rfl, rfl, rfl⟩

/-- The check that a run of `check_url` comes to. -/
def checkOf (ext : CheckerExternals) (checker : ReqwestChecker lib) (check : ScheduledCheck)
    (readings : UrlReadings) : Check :=
  match readings.response with
  | .ok r => (checkResponse ext checker check r readings.stats).1
  | .error err =>
    .otherFailure err.toReason
      (toErroredRequestInfos readings.actualCheckTime readings.errorElapsed err check.config)

/-- Of a response, it is what the response comes to. -/
theorem checkOf_response (ext : CheckerExternals) (checker : ReqwestChecker lib)
    (check : ScheduledCheck) {readings : UrlReadings} {r : HttpResponse}
    (h : readings.response = .ok r) :
    checkOf ext checker check readings = (checkResponse ext checker check r readings.stats).1 := by
  unfold checkOf
  rw [h]

/-- The outcome is the one that was decided before the capture. -/
theorem checkOf_outcome (ext : CheckerExternals) (checker : ReqwestChecker lib)
    (check : ScheduledCheck) {readings : UrlReadings} {r : HttpResponse}
    (h : readings.response = .ok r) :
    SameOutcome (checkOf ext checker check readings)
      (toCheckResult ext checker check.config r).check :=
  checkOf_response ext checker check h ▸ checkResponse_outcome ext checker check r readings.stats

/-- A result carries the check it was made from. -/
theorem checkUrl_eq_some {ext : CheckerExternals} {checker : ReqwestChecker lib}
    {check : ScheduledCheck} {region : String} {readings : UrlReadings} {result : CheckResult}
    (h : (checkUrl ext checker check region readings).1 = some result) :
    result.status = (checkOf ext checker check readings).result ∧
      result.statusReason = (checkOf ext checker check readings).reason ∧
      result.requestInfo = (checkOf ext checker check readings).requestInfos.getLast? ∧
      result.requestInfoList = (checkOf ext checker check readings).requestInfos := by
  unfold checkUrl at h
  unfold checkOf
  cases hr : readings.response with
  | error err =>
    rw [hr] at h
    dsimp only at h
    obtain ⟨data, -, rfl⟩ := Option.map_eq_some_iff.mp h
    exact ⟨rfl, rfl, rfl, rfl⟩
  | ok r =>
    rw [hr] at h
    dsimp only at h
    obtain ⟨data, -, rfl⟩ := Option.map_eq_some_iff.mp h
    exact ⟨rfl, rfl, rfl, rfl⟩

/-- A check without a failure path has a result. -/
theorem checkUrl_of_assertPath {ext : CheckerExternals} {checker : ReqwestChecker lib}
    {check : ScheduledCheck} {region : String} {readings : UrlReadings}
    (h : (checkOf ext checker check readings).assertPath = none) :
    ∃ result, (checkUrl ext checker check region readings).1 = some result := by
  unfold checkUrl
  unfold checkOf at h
  cases hr : readings.response with
  | error err => exact ⟨_, rfl⟩
  | ok r =>
    rw [hr] at h
    dsimp only at h ⊢
    rw [h]
    exact ⟨_, rfl⟩

private theorem getLast?_modifyLast (f : RequestInfo → RequestInfo) (infos : List RequestInfo) :
    (modifyLast f infos).getLast? = infos.getLast?.map f := by
  unfold modifyLast
  rcases List.eq_nil_or_concat infos with rfl | ⟨init, last, rfl⟩ <;> simp

private theorem not_captured_of_mem {newPooled : Instant → Nat → ConnectionStats}
    {stats : List RedirectStats} {method : RequestMethod} {info : RequestInfo}
    (h : info ∈ toRequestInfoList newPooled stats method) :
    info.responseBody = none ∧ info.responseHeaders = none := by
  obtain ⟨rs, -, rfl⟩ := List.mem_map.mp h
  exact ⟨rfl, rfl⟩

/-- A request that is not captured carries nothing: in a result, one that does comes from a
capture. -/
private theorem captures_of_carried {ext : CheckerExternals} {checker : ReqwestChecker lib}
    {check : ScheduledCheck} {readings : UrlReadings} {info : RequestInfo}
    (hmem : info ∈ (checkOf ext checker check readings).requestInfos)
    (hcarried : info.responseBody ≠ none ∨ info.responseHeaders ≠ none) :
    Captures checker check (checkOf ext checker check readings).result := by
  cases hr : readings.response with
  | error err =>
    unfold checkOf at hmem
    rw [hr] at hmem
    cases List.mem_singleton.mp hmem
    rcases hcarried with h | h <;> exact (h rfl).elim
  | ok r =>
    rw [checkOf_response ext checker check hr] at hmem
    rw [(checkOf_outcome ext checker check hr).result]
    apply Classical.byContradiction
    intro hnot
    rw [checkResponse_not_captures hnot] at hmem
    obtain ⟨hbody, hheaders⟩ := not_captured_of_mem hmem
    rcases hcarried with h | h
    · exact h hbody
    · exact h hheaders

/-- The last request of a captured response carries the bytes that were attached. -/
private theorem last_of_captures {ext : CheckerExternals} {checker : ReqwestChecker lib}
    {check : ScheduledCheck} {readings : UrlReadings} {r : HttpResponse}
    (hr : readings.response = .ok r)
    (h : Captures checker check (checkOf ext checker check readings).result)
    (hstats : readings.stats ≠ []) :
    ∃ info, (checkOf ext checker check readings).requestInfos.getLast? = some info ∧
      info.responseBody =
        capturedText (attached (toCheckResult ext checker check.config r)) := by
  rw [(checkOf_outcome ext checker check hr).result] at h
  rw [checkOf_response ext checker check hr, checkResponse_captures h, getLast?_modifyLast]
  have hinfos : toRequestInfoList ext.newPooled readings.stats check.config.requestMethod ≠ [] :=
    fun hnil => hstats (List.map_eq_nil_iff.mp hnil)
  rw [List.getLast?_eq_some_getLast hinfos]
  refine ⟨_, rfl, ?_⟩
  unfold attach capturedText
  dsimp only
  rw [(not_captured_of_mem (List.getLast_mem hinfos)).1]

/-- A body that is read a second time, to something else, is not captured as it should be. -/
theorem not_captureRight_of_readsAgain {ext : CheckerExternals} {checker : ReqwestChecker lib}
    {check : ScheduledCheck} {region : String} {readings : UrlReadings}
    (h : ReadsAgain checker check readings) :
    ¬ ∀ result, (checkUrl ext checker check region readings).1 = some result →
      CaptureRight checker check readings result := by
  obtain ⟨r, a, e, hr, henabled, ha, hreq, he, hcapture, hstats, hne⟩ := h
  intro hright
  have hdecided := toCheckResult_assertion ext checker henabled ha r
  rw [he] at hdecided
  have houtcome := checkOf_outcome ext checker check hr
  have hpath : (checkOf ext checker check readings).assertPath = none := by
    rw [houtcome.assertPath, hdecided]
    rfl
  have hfailure : (checkOf ext checker check readings).result = .failure := by
    rw [houtcome.result, hdecided]
    rfl
  obtain ⟨result, hresult⟩ := @checkUrl_of_assertPath lib ext checker check region readings hpath
  obtain ⟨hstatus, -, hinfo, -⟩ := checkUrl_eq_some hresult
  rw [hfailure] at hstatus
  obtain ⟨info, hcarries, -, hbody⟩ :=
    (hright result hresult).captured r hr (hstatus ▸ hcapture) hstats
  obtain ⟨info', hlast, hbody'⟩ :=
    @last_of_captures lib ext checker check readings r hr (hfailure ▸ hcapture) hstats
  rw [hinfo, hlast] at hcarries
  cases hcarries
  rw [hbody] at hbody'
  apply hne
  rw [capturedText_injective hbody', hdecided, attached, bodyFor, if_pos hreq]
  rfl

/-- Otherwise responses are captured when and as they should be. -/
theorem captureRight_of_not_readsAgain {ext : CheckerExternals} {checker : ReqwestChecker lib}
    {check : ScheduledCheck} {region : String} {readings : UrlReadings}
    (hnot : ¬ ReadsAgain checker check readings) {result : CheckResult}
    (hresult : (checkUrl ext checker check region readings).1 = some result) :
    CaptureRight checker check readings result := by
  obtain ⟨hstatus, hreason, hinfo, hlist⟩ := checkUrl_eq_some hresult
  refine ⟨?_, ?_, ?_⟩
  · intro info hmem hcarried
    rw [hstatus]
    apply captures_of_carried _ hcarried
    rcases hmem with hmem | hmem
    · rw [← hlist]
      exact hmem
    · rw [hinfo] at hmem
      exact List.mem_of_getLast? hmem
  · intro r hr hcapture hstats
    rw [hstatus] at hcapture
    obtain ⟨info, hlast, hbody⟩ := last_of_captures hr hcapture hstats
    refine ⟨info, hinfo.trans hlast, hlist ▸ hlast, ?_⟩
    rcases attached_toCheckResult ext checker check.config r with
      hone | ⟨a, e, henabled, ha, hreq, he, hfailure, hagain⟩
    · rw [hbody, hone]
    · -- the second reading has to come to the same
      rw [hbody, hagain]
      apply congrArg capturedText
      apply Classical.byContradiction
      intro hne
      apply hnot
      refine ⟨r, a, e, hr, henabled, ha, hreq, he, ?_, hstats, hne⟩
      rwa [(checkOf_outcome ext checker check hr).result, hfailure] at hcapture
  · intro r a c hr henabled ha hreq hc
    have houtcome := checkOf_outcome ext checker check hr
    have hdecided := toCheckResult_assertion ext checker henabled ha r
    rw [hc] at hdecided
    have hbody : (bodyFor a r).1 = readOnce r := by
      rw [bodyFor, if_pos hreq]
      rfl
    rw [← hbody]
    constructor
    · rw [hstatus, houtcome.result, hdecided]
    · rw [hreason, houtcome.reason, hdecided]

/-- Responses are captured when and as they should be if and only if no body that is captured is
read a second time to something else. -/
theorem capture_right_iff (ext : CheckerExternals) (checker : ReqwestChecker lib)
    (check : ScheduledCheck) (region : String) (readings : UrlReadings) :
    (∀ result, (checkUrl ext checker check region readings).1 = some result →
      CaptureRight checker check readings result) ↔
      ¬ ReadsAgain checker check readings := by
  constructor
  · intro hright hagain
    exact not_captureRight_of_readsAgain hagain hright
  · intro hnot result hresult
    exact captureRight_of_not_readsAgain hnot hresult

/-- "The body is JSON", sixteen times over: more nodes than the checker compiles. -/
def hugeAssertion : Assertions.Assertion :=
  ⟨.and (List.replicate 16 (.jsonPath "$" .always .none))⟩

/-- A failing check of it. -/
def hugeCheck : ScheduledCheck :=
  .new .uptime (.fromTime (.ofSecs 28 (by decide)))
    { CheckConfig.default with assertion := some hugeAssertion } false 0

/-- The server answers "hi", in one chunk. -/
def hiReadings : UrlReadings where
  actualCheckTime := .ofSecs 28 (by decide)
  spanId := 0
  response := .ok ⟨200, [], [.chunk [104, 105], .ended .endOfBody]⟩
  stats := [⟨none, 0, 28000000, none, none, 1000, 200, 0, "https://example.com", none⟩]
  errorElapsed := 0
  elapsed := 1000

theorem capture_reads_again : ¬ ∀ (lib : Externals) (ext : CheckerExternals)
    (checker : ReqwestChecker lib) (check : ScheduledCheck) (region : String)
    (readings : UrlReadings) (result : CheckResult),
    (checkUrl ext checker check region readings).1 = some result →
    CaptureRight checker check readings result := by
  intro h
  have hagain : ReadsAgain plainChecker hugeCheck hiReadings := by
    have hcompile := @Assertions.Compiled.Cache.getOrCompile_of_get_eq_none plainExternals
      plainChecker.assertCache hugeAssertion rfl 16
    cases hc : compile plainExternals hugeAssertion 16 with
    | ok c => exact absurd (Assertions.Compiled.size_of_compile hc).2 (by decide)
    | error e =>
      exact ⟨_, hugeAssertion, e, rfl, rfl, rfl, rfl, hcompile.trans hc, .inr ⟨rfl, rfl, rfl⟩,
        List.cons_ne_nil _ _, by decide⟩
  exact not_captureRight_of_readsAgain hagain
    (h plainExternals plainCheckerExternals plainChecker hugeCheck "us-west" hiReadings)

end ReqwestChecker

end UptimeChecker
