import UptimeChecker.Checker.Request
import UptimeChecker.Laws.ResultIdentity
import UptimeChecker.Laws.Result.Json

/-!
# The trace that a site is told

A site can read from the last header of the request which trace and which span the check is, and
that the trace is not sampled, where it is not. The result of the check tells the same trace and the
same span.
-/

namespace UptimeChecker

open Assertions.Compiled (Externals HeaderValue)

/-- What a site reads of the header: the trace, the span and, if the header says so, whether they
are sampled. -/
def readTraceHeader (header : String) : Option (Uuid × SpanId × Option Bool) :=
  match header.toList.splitOn '-' with
  | [traceId, spanId] => do
    some (← Uuid.parseSimple (.ofList traceId), ← SpanId.parse (.ofList spanId), none)
  | [traceId, spanId, sampled] => do
    some (← Uuid.parseSimple (.ofList traceId), ← SpanId.parse (.ofList spanId),
      some (sampled != ['0']))
  | _ => none

/-- The text of a trace header, cut at its dashes. -/
private theorem toList_makeTraceHeader (config : CheckConfig) (traceId : Uuid) (spanId : SpanId) :
    (makeTraceHeader config traceId spanId).toList =
      hexDigits 32 traceId.toNat ++ '-' :: (hexDigits 16 spanId.toNat ++
        if config.traceSampling then [] else ['-', '0']) := by
  have hdash : "-".toList = ['-'] := rfl
  have hzero : "0".toList = ['0'] := rfl
  unfold makeTraceHeader Uuid.simple SpanId.display
  cases config.traceSampling <;>
    simp [String.toList_append, hdash, hzero]

theorem readTraceHeader_makeTraceHeader (config : CheckConfig) (traceId : Uuid)
    (spanId : SpanId) :
    readTraceHeader (makeTraceHeader config traceId spanId) =
      some (traceId, spanId, if config.traceSampling then none else some false) := by
  have htrace : Uuid.parseSimple (.ofList (hexDigits 32 traceId.toNat)) = some traceId :=
    Uuid.parseSimple_simple traceId
  have hspan : SpanId.parse (.ofList (hexDigits 16 spanId.toNat)) = some spanId :=
    SpanId.parse_display spanId
  unfold readTraceHeader
  rw [toList_makeTraceHeader, List.splitOn_append_cons_self_of_not_mem (dash_not_mem_hexDigits _ _)]
  cases config.traceSampling with
  | true =>
    rw [if_pos rfl, List.append_nil, List.splitOn_eq_singleton (dash_not_mem_hexDigits _ _)]
    simp [htrace, hspan]
  | false =>
    have hzero : ['0'].splitOn '-' = [['0']] := List.splitOn_eq_singleton (by decide)
    rw [if_neg Bool.false_ne_true,
      List.splitOn_append_cons_self_of_not_mem (dash_not_mem_hexDigits _ _), hzero]
    simp [htrace, hspan]

/-- The characters that a header value may always hold. -/
def Visible (c : Char) : Prop := 32 ≤ c.toNat ∧ c.toNat < 127

/-- The bytes of a text of such characters. -/
def headerBytes (text : String) : HeaderValue := text.toList.map fun c => UInt8.ofNat c.toNat

/-- A site gets the bytes and reads the text. -/
private theorem toStr_headerBytes {text : String} (h : ∀ c ∈ text.toList, Visible c) :
    (headerBytes text).toStr = some text := by
  have hback : ∀ c ∈ text.toList, (UInt8.ofNat c.toNat).toNat = c.toNat := fun c hc =>
    UInt8.toNat_ofNat_of_lt' (Nat.lt_trans (h c hc).2 (by decide))
  have hvisible : (headerBytes text).all fun b => (32 ≤ b && b < 127) || b = 9 := by
    rw [headerBytes, List.all_map, List.all_eq_true]
    intro c hc
    have hlow : 32 ≤ UInt8.ofNat c.toNat := UInt8.le_iff_toNat_le.mpr (by
      rw [hback c hc]
      exact (h c hc).1)
    have hhigh : UInt8.ofNat c.toNat < 127 := UInt8.lt_iff_toNat_lt.mpr (by
      rw [hback c hc]
      exact (h c hc).2)
    simp [hlow, hhigh]
  rw [HeaderValue.toStr, if_pos hvisible, headerBytes, List.map_map]
  have hchars : text.toList.map (fun c => Char.ofNat (UInt8.ofNat c.toNat).toNat) =
      text.toList := by
    conv_rhs => rw [← List.map_id text.toList]
    apply List.map_congr_left
    intro c hc
    rw [hback c hc, Char.ofNat_toNat]
    rfl
  exact congrArg some ((congrArg String.ofList hchars).trans String.ofList_toList)

private theorem visible_hexDigits (k n : Nat) : ∀ c ∈ hexDigits k n, Visible c := by
  have hdigit : ∀ d < 16, 32 ≤ (Nat.digitChar d).toNat ∧ (Nat.digitChar d).toNat < 127 := by decide
  intro c hc
  obtain ⟨i, -, rfl⟩ := List.mem_map.mp hc
  exact hdigit _ (Nat.mod_lt _ (by decide))

private theorem visible_makeTraceHeader (config : CheckConfig) (traceId : Uuid)
    (spanId : SpanId) : ∀ c ∈ (makeTraceHeader config traceId spanId).toList, Visible c := by
  have hdash : Visible '-' := by unfold Visible; decide
  have hzero : Visible '0' := by unfold Visible; decide
  intro c hc
  rw [toList_makeTraceHeader] at hc
  rcases List.mem_append.mp hc with htrace | hrest
  · exact visible_hexDigits _ _ c htrace
  · rcases List.mem_cons.mp hrest with rfl | hrest
    · exact hdash
    · rcases List.mem_append.mp hrest with hspan | hend
      · exact visible_hexDigits _ _ c hspan
      · cases hsampling : config.traceSampling with
        | true =>
          rw [hsampling] at hend
          cases hend
        | false =>
          rw [hsampling, if_neg Bool.false_ne_true] at hend
          rcases List.mem_cons.mp hend with rfl | hend
          · exact hdash
          · rw [List.mem_singleton.mp hend]
            exact hzero

namespace ReqwestChecker

variable {lib : Externals} {ext : CheckerExternals} {checker : ReqwestChecker lib}
  {check : ScheduledCheck} {region : String} {readings : UrlReadings} {result : CheckResult}
  {http : HttpExternals}

/-- Where the URL can be parsed a request is sent. Its last header tells the site the trace and the
span of the result, whatever headers the config adds before it. -/
theorem request_tells_trace
    (hvalue : ∀ text : String, (∀ c ∈ text.toList, Visible c) →
      http.headerValue text = some (headerBytes text))
    (hurl : http.urlBuilds check.config.url = true)
    (hresult : (checker.checkUrl ext check region readings).1 = some result) :
    ∃ request value, ReqwestChecker.request http ext check readings.spanId = some request ∧
      request.headers = http.headers check.config ++ [("sentry-trace", value)] ∧
      (HeaderValue.toStr value).bind readTraceHeader =
        some (result.traceId, result.spanId,
          if check.config.traceSampling then none else some false) := by
  have hids : result.traceId = traceId ext check ∧ result.spanId = readings.spanId := by
    unfold checkUrl at hresult
    dsimp only at hresult
    split at hresult
    all_goals
      obtain ⟨data, -, rfl⟩ := Option.map_eq_some_iff.mp hresult
      exact ⟨rfl, rfl⟩
  let header := makeTraceHeader check.config (traceId ext check) readings.spanId
  have hvisible : ∀ c ∈ header.toList, Visible c := visible_makeTraceHeader _ _ _
  have hbuilt : ReqwestChecker.request http ext check readings.spanId = some
      { method := check.config.requestMethod
        url := check.config.url
        timeout := check.config.timeout.toNat
        headers := http.headers check.config ++ [("sentry-trace", headerBytes header)]
        body := check.config.requestBody } := by
    unfold ReqwestChecker.request HttpExternals.doRequest
    rw [if_pos hurl]
    exact congrArg (Option.map _) (hvalue header hvisible)
  refine ⟨_, headerBytes header, hbuilt, rfl, ?_⟩
  rw [toStr_headerBytes hvisible, Option.bind_some, readTraceHeader_makeTraceHeader, hids.1,
    hids.2]

end ReqwestChecker

end UptimeChecker
