import UptimeChecker.Types.Result.Json
import UptimeChecker.Laws.CheckConfig.Json

/-!
# Check results over the wire

A result comes back from the wire with each of its times and durations on a whole unit, and with an
error about a JSONPath as one of the compilation: everything else of it comes back as it was. Only
one whose region is written with an escape does not come back at all.
-/

namespace UptimeChecker

open TaggedUnion

open Assertions.Compiled (Json)

/-! ## What comes back -/

/-- The time that a time written in whole units is read as, if the calendar has it. -/
def DateTime.onWire (unit : Nat) (time : DateTime) : Option DateTime :=
  ofNanos? (roundTo unit time.nanos * unit)

/-- The details that written details are read as. -/
def CheckFailureDetails.onWire : CheckFailureDetails → CheckFailureDetails
  | assertionEvaluationError (.invalidJsonPath assertPath msg) =>
    assertionCompilationError (.invalidJsonPath assertPath msg)
  | details => details

def CheckStatusReason.onWire (reason : CheckStatusReason) : CheckStatusReason :=
  { reason with details := reason.details.map CheckFailureDetails.onWire }

/-- The result that a written result is read as; none is, if its region stands in the text with an
escape. -/
def CheckResult.onWire (result : CheckResult) : Option CheckResult := do
  let scheduledCheckTime ← result.scheduledCheckTime.onWire 1000000
  let scheduledCheckTimeUs ← result.scheduledCheckTimeUs.onWire 1000
  let actualCheckTime ← result.actualCheckTime.onWire 1000000
  let actualCheckTimeUs ← result.actualCheckTimeUs.onWire 1000
  let region ← (Json.string result.region).asBorrowedStr
  some { result with
    region := region
    statusReason := result.statusReason.map CheckStatusReason.onWire
    scheduledCheckTime := scheduledCheckTime
    scheduledCheckTimeUs := scheduledCheckTimeUs
    actualCheckTime := actualCheckTime
    actualCheckTimeUs := actualCheckTimeUs
    duration := result.duration.map fun nanos => roundTo 1000000 nanos * 1000000
    durationUs := result.durationUs.map fun nanos => roundTo 1000 nanos * 1000 }

/-! ## Numbers -/

namespace Assertions.Compiled

@[simp] theorem Json.asU64_ofU64 (n : UInt64) : (Json.ofU64 n).asU64 = some n := rfl

theorem Json.asU128_ofU128 {n : Nat} (h : n < 18446744073709551616) :
    (Json.ofU128 n).asU128 = some n := by
  rw [Json.ofU128, if_pos h]
  exact congrArg some (UInt64.toNat_ofNat_of_lt' h)

/-- What is written of an option is read as an option. -/
theorem Json.asOption_ofOption {α : Type} {serialize : α → Json} {deserialize : Json → Option α}
    {f : α → α} {value : Option α} (hnull : ∀ a, serialize a ≠ .null)
    (h : ∀ a ∈ value, deserialize (serialize a) = some (f a)) :
    Json.asOption deserialize (Json.ofOption serialize value) = some (value.map f) := by
  cases value with
  | none => rfl
  | some a => exact Json.asOption_of_ne_null (hnull a) (h a rfl)

/-- An optional field that is always written. -/
theorem Json.fieldOr_ofOption {α : Type} (serialize : α → Json) (deserialize : Json → Option α)
    (f : α → α) {value : Option α} {name : String} {known : List (String × Option Json)}
    {fields : List (String × Json)} (hfields : Carries known fields)
    (hmem : (name, some (Json.ofOption serialize value)) ∈ known)
    (hnull : ∀ a, serialize a ≠ .null)
    (h : ∀ a ∈ value, deserialize (serialize a) = some (f a)) :
    fieldOr name (Json.asOption deserialize) none fields = some (value.map f) :=
  (hfields.fieldOr_eq hmem _ _).trans (Json.asOption_ofOption hnull h)

/-- An optional field that is not written where there is nothing to write. -/
theorem Json.fieldOr_map {α : Type} (serialize : α → Json) (deserialize : Json → Option α)
    {value : Option α} {name : String} {known : List (String × Option Json)}
    {fields : List (String × Json)} (hfields : Carries known fields)
    (hmem : (name, value.map serialize) ∈ known) (hnull : ∀ a, serialize a ≠ .null)
    (h : ∀ a, deserialize (serialize a) = some a) :
    fieldOr name (Json.asOption deserialize) none fields = some value := by
  refine (hfields.fieldOr_eq hmem _ _).trans ?_
  cases value with
  | none => rfl
  | some a => exact Json.asOption_of_ne_null (hnull a) (h a)

private theorem toInt_ofInt_of_natAbs {n : Int} (h : n.natAbs ≤ 9223372036854775807) :
    (Int64.ofInt n).toInt = n :=
  Int64.toInt_ofInt_of_le (by simp; omega) (by simp; omega)

/-- The calendar has no time that an `i64` of microseconds, or of milliseconds, does not hold. -/
theorem Json.asTimestamp_ofTimestamp {unit : Nat} (hunit : unit = 1000000 ∨ unit = 1000)
    (time : DateTime) : (Json.ofTimestamp unit time).asTimestamp unit = time.onWire unit := by
  have hcount : (roundTo unit time.nanos).natAbs ≤ 9223372036854775807 := by
    refine (natAbs_roundTo_le unit time.nanos).trans ?_
    have hmin := time.min_le
    have hmax := time.lt_max
    rcases hunit with rfl | rfl <;> omega
  rw [Json.asTimestamp, Json.ofTimestamp, Json.asI64_ofSigned, Option.bind_some,
    toInt_ofInt_of_natAbs hcount]
  rfl

theorem Json.asOption_of_ofDuration {unit : Nat} (hunit : unit = 1000000 ∨ unit = 1000)
    {duration : Option Int} {json : Json} (h : Json.ofDuration unit duration = some json) :
    Json.asOption (Json.asDuration unit) json =
      some (duration.map fun nanos => roundTo unit nanos * unit) := by
  cases duration with
  | none =>
    cases h
    rfl
  | some nanos =>
    simp only [Json.ofDuration, Option.ite_none_right_eq_some, Option.some_inj] at h
    obtain ⟨hcount, rfl⟩ := h
    refine Json.asOption_of_ne_null ?_ ?_
    · unfold Json.ofSigned
      split <;> nofun
    · rw [Json.asDuration, Json.asI64_ofSigned, Option.bind_some, toInt_ofInt_of_natAbs hcount,
        if_neg (by rcases hunit with rfl | rfl <;> omega)]

end Assertions.Compiled

theorem SpanId.parse_display (id : SpanId) : SpanId.parse id.display = some id := by
  have hlength : (hexDigits 16 id.toNat).length = 16 := by simp [hexDigits]
  have hvalue : id.toNat % 16 ^ 16 = id.toNat := Nat.mod_eq_of_lt id.isLt
  unfold SpanId.parse SpanId.display
  rw [String.toList_ofList, if_pos hlength, ofHexDigits_hexDigits, Nat.zero_mul, Nat.zero_add,
    hvalue, Option.map_some]
  exact congrArg some (BitVec.ofNat_toNat 64 id)

/-! ## Reasons -/

/-- Details are read as what they are on the wire. -/
theorem CheckFailureDetails.deserialize_serialize (details : CheckFailureDetails) :
    deserialize details.serialize = some details.onWire := by
  have hread : deserialize details.onWire.serialize = some details.onWire := by
    rw [deserialize_serialize_iff]
    cases details with
    | assertionCompilationError error => nofun
    | assertionEvaluationError error => cases error <;> nofun
  have hwritten : details.onWire.serialize = details.serialize := by
    cases details with
    | assertionCompilationError error => rfl
    | assertionEvaluationError error => cases error <;> rfl
  rw [← hwritten, hread]

private theorem CheckFailureDetails.serialize_ne_null (details : CheckFailureDetails) :
    details.serialize ≠ .null := by
  cases details with
  | assertionCompilationError error => cases error <;> nofun
  | assertionEvaluationError error => cases error <;> nofun

theorem CheckStatusReason.deserialize_serialize (reason : CheckStatusReason) :
    deserialize reason.serialize = some reason.onWire := by
  have htype : CheckStatusReasonType.deserialize (.string reason.statusType.asStr) =
      some reason.statusType := by
    cases reason.statusType <;> rfl
  have hdetails : Json.asOption CheckFailureDetails.deserialize
      (Json.ofOption CheckFailureDetails.serialize reason.details) =
        some (reason.details.map CheckFailureDetails.onWire) :=
    Json.asOption_ofOption CheckFailureDetails.serialize_ne_null fun details _ =>
      details.deserialize_serialize
  simp [deserialize, serialize, Json.asObject, field, fieldOr, htype, hdetails, onWire]

/-! ## Request infos -/

theorem Timing.deserialize_serialize {timing : Timing}
    (h : timing.startUs < 18446744073709551616) : deserialize timing.serialize = some timing := by
  simp [deserialize, serialize, Json.asObject, field, Json.asU128_ofU128 h]

def RequestDurations.timings (durations : RequestDurations) : List Timing :=
  [durations.dnsLookup, durations.tcpConnection, durations.tlsHandshake,
    durations.timeToFirstByte, durations.sendRequest, durations.receiveResponse]

theorem RequestDurations.deserialize_serialize {durations : RequestDurations}
    (h : ∀ timing ∈ durations.timings, timing.startUs < 18446744073709551616) :
    deserialize durations.serialize = some durations := by
  have hread : ∀ timing ∈ durations.timings, Timing.deserialize timing.serialize = some timing :=
    fun timing hmem => Timing.deserialize_serialize (h timing hmem)
  simp only [timings, List.forall_mem_cons] at hread
  obtain ⟨h₁, h₂, h₃, h₄, h₅, h₆, -⟩ := hread
  exact bind_of_eq_some rfl <| bind_of_eq_some rfl <| bind_of_eq_some h₁ <|
    bind_of_eq_some rfl <| bind_of_eq_some h₂ <| bind_of_eq_some rfl <| bind_of_eq_some h₃ <|
    bind_of_eq_some rfl <| bind_of_eq_some h₄ <| bind_of_eq_some rfl <| bind_of_eq_some h₅ <|
    bind_of_eq_some rfl <| bind_of_eq_some h₆ rfl

theorem CertificateInfo.deserialize_serialize (info : CertificateInfo) :
    deserialize info.serialize = some info := by
  simp [deserialize, serialize, Json.asObject, field]

namespace RequestInfo

/-- The times of the phases of a request fit 64 bits. -/
def StartsFit (info : RequestInfo) : Prop :=
  ∀ timing ∈ info.durations.timings, timing.startUs < 18446744073709551616

/-- The fields of a request info; the last two may not be there. -/
private def known (info : RequestInfo) : List (String × Option Json) :=
  info.commonFields.map (fun f => (f.1, some f.2)) ++
    [("response_body", info.responseBody.map .string),
      ("response_headers", info.responseHeaders.map fun headers =>
        .array (headers.map .ofStringPair))]

private theorem carries_serialize (info : RequestInfo) :
    ∃ fields, info.serialize = .object fields ∧ Carries info.known fields := by
  refine ⟨present info.known, ?_, .refl (by simp [known, commonFields])⟩
  unfold serialize known
  cases info.responseBody <;> cases info.responseHeaders <;> rfl

theorem deserialize_serialize {info : RequestInfo} (h : info.StartsFit) :
    deserialize info.serialize = some info := by
  obtain ⟨fields, hserialize, hfields⟩ := info.carries_serialize
  have htype : field "request_type" fields = some (.string info.requestType.name) :=
    hfields.field_eq (by simp [known, commonFields])
  have hmethod : RequestMethod.deserialize (.string info.requestType.name) =
      some info.requestType := by
    cases info.requestType <;> rfl
  have hstatus : fieldOr "http_status_code" (Json.asOption Json.asU16) none fields =
      some (info.httpStatusCode.map id) :=
    Json.fieldOr_ofOption .ofU16 Json.asU16 id hfields (by simp [known, commonFields]) nofun
      fun n _ => Json.asU16_ofU16 n
  have hurl : field "url" fields = some (.string info.url) :=
    hfields.field_eq (by simp [known, commonFields])
  have hrequestBody : field "request_body_size_bytes" fields =
      some (.ofU32 info.requestBodySizeBytes) :=
    hfields.field_eq (by simp [known, commonFields])
  have hresponseBody : field "response_body_size_bytes" fields =
      some (.ofU32 info.responseBodySizeBytes) :=
    hfields.field_eq (by simp [known, commonFields])
  have hduration : field "request_duration_us" fields = some (.ofU64 info.requestDurationUs) :=
    hfields.field_eq (by simp [known, commonFields])
  have hdurations : field "durations" fields = some info.durations.serialize :=
    hfields.field_eq (by simp [known, commonFields])
  have hcertificate : fieldOr "certificate_info" (Json.asOption CertificateInfo.deserialize) none
      fields = some (info.certificateInfo.map id) :=
    Json.fieldOr_ofOption CertificateInfo.serialize CertificateInfo.deserialize id hfields
      (by simp [known, commonFields]) nofun fun certificate _ => certificate.deserialize_serialize
  have hbody : fieldOr "response_body" (Json.asOption Json.asStr) none fields =
      some info.responseBody :=
    Json.fieldOr_map .string Json.asStr hfields (by simp [known]) nofun Json.asStr_string
  have hheaders : fieldOr "response_headers" (Json.asOption (Json.asVec Json.asStringPair)) none
      fields = some info.responseHeaders :=
    Json.fieldOr_map (fun headers => .array (headers.map .ofStringPair)) _ hfields
      (by simp [known]) nofun fun headers =>
        Json.asVec_array Json.ofStringPair Json.asStringPair fun _ _ => rfl
  rw [hserialize]
  exact bind_of_eq_some rfl <| bind_of_eq_some htype <| bind_of_eq_some hmethod <|
    bind_of_eq_some hstatus <| bind_of_eq_some hurl <| bind_of_eq_some rfl <|
    bind_of_eq_some hrequestBody <| bind_of_eq_some (Json.asU32_ofU32 _) <|
    bind_of_eq_some hresponseBody <| bind_of_eq_some (Json.asU32_ofU32 _) <|
    bind_of_eq_some hduration <| bind_of_eq_some (Json.asU64_ofU64 _) <|
    bind_of_eq_some hdurations <| bind_of_eq_some (RequestDurations.deserialize_serialize h) <|
    bind_of_eq_some hcertificate <| bind_of_eq_some hbody <| bind_of_eq_some hheaders <| by
      rw [Option.map_id, Option.map_id]
      rfl

end RequestInfo

/-! ## Results -/

/-- A step of reading, and what is read after it. -/
private theorem bind_of_eq {α β : Type} {o o' : Option α} {f g : α → Option β} (h : o = o')
    (hfg : ∀ a, f a = g a) : (o >>= f) = (o' >>= g) := by
  rw [h]
  exact bind_congr hfg

namespace CheckResult

/-- The times of the phases of all its requests fit 64 bits. -/
def StartsFit (result : CheckResult) : Prop :=
  (∀ info ∈ result.requestInfo, info.StartsFit) ∧ ∀ info ∈ result.requestInfoList, info.StartsFit

/-- The fields of a result, with its durations as they are written. -/
private def known (result : CheckResult) (durationMs durationUs : Json) :
    List (String × Option Json) :=
  [("guid", some (.string result.guid.simple)),
    ("subscription_id", some (.string result.subscriptionId.simple)),
    ("status", some (.string result.status.name)),
    ("status_reason", some (.ofOption CheckStatusReason.serialize result.statusReason)),
    ("trace_id", some (.string result.traceId.simple)),
    ("span_id", some (.string result.spanId.display)),
    ("scheduled_check_time_ms", some (.ofTimestamp 1000000 result.scheduledCheckTime)),
    ("scheduled_check_time_us", some (.ofTimestamp 1000 result.scheduledCheckTimeUs)),
    ("actual_check_time_ms", some (.ofTimestamp 1000000 result.actualCheckTime)),
    ("actual_check_time_us", some (.ofTimestamp 1000 result.actualCheckTimeUs)),
    ("duration_ms", some durationMs),
    ("duration_us", some durationUs),
    ("request_info", some (.ofOption RequestInfo.serialize result.requestInfo)),
    ("request_info_list", some (.array (result.requestInfoList.map RequestInfo.serialize))),
    ("region", some (.string result.region)),
    ("assertion_failure_data",
      some (.ofOption Assertions.Assertion.serialize result.assertionFailureData))]

private theorem carries_serialize {result : CheckResult} {json : Json}
    (h : result.serialize = some json) : ∃ durationMs durationUs fields,
      Json.ofDuration 1000000 result.duration = some durationMs ∧
      Json.ofDuration 1000 result.durationUs = some durationUs ∧
      json = .object fields ∧ Carries (result.known durationMs durationUs) fields := by
  obtain ⟨durationMs, hms, h⟩ := Option.bind_eq_some_iff.mp h
  obtain ⟨durationUs, hus, h⟩ := Option.bind_eq_some_iff.mp h
  exact ⟨durationMs, durationUs, _, hms, hus, (Option.some.inj h).symm, .refl (by simp [known])⟩

/-- A written result is read as what it is on the wire. -/
theorem deserialize_of_serialize {result : CheckResult} {json : Json}
    (hjson : result.serialize = some json) (h : result.StartsFit) :
    deserialize json = result.onWire := by
  obtain ⟨durationMs, durationUs, fields, hms, hus, rfl, hfields⟩ := carries_serialize hjson
  have hguid : field "guid" fields = some (.string result.guid.simple) :=
    hfields.field_eq (by simp [known])
  have hsubscription : field "subscription_id" fields =
      some (.string result.subscriptionId.simple) :=
    hfields.field_eq (by simp [known])
  have hstatus : field "status" fields = some (.string result.status.name) :=
    hfields.field_eq (by simp [known])
  have hname : CheckStatus.deserialize (.string result.status.name) = some result.status := by
    cases result.status <;> rfl
  have hreason : fieldOr "status_reason" (Json.asOption CheckStatusReason.deserialize) none
      fields = some (result.statusReason.map CheckStatusReason.onWire) :=
    Json.fieldOr_ofOption CheckStatusReason.serialize CheckStatusReason.deserialize _ hfields
      (by simp [known]) nofun fun reason _ => reason.deserialize_serialize
  have htrace : field "trace_id" fields = some (.string result.traceId.simple) :=
    hfields.field_eq (by simp [known])
  have hspan : field "span_id" fields = some (.string result.spanId.display) :=
    hfields.field_eq (by simp [known])
  have hscheduledMs : field "scheduled_check_time_ms" fields =
      some (.ofTimestamp 1000000 result.scheduledCheckTime) :=
    hfields.field_eq (by simp [known])
  have hscheduledUs : field "scheduled_check_time_us" fields =
      some (.ofTimestamp 1000 result.scheduledCheckTimeUs) :=
    hfields.field_eq (by simp [known])
  have hactualMs : field "actual_check_time_ms" fields =
      some (.ofTimestamp 1000000 result.actualCheckTime) :=
    hfields.field_eq (by simp [known])
  have hactualUs : field "actual_check_time_us" fields =
      some (.ofTimestamp 1000 result.actualCheckTimeUs) :=
    hfields.field_eq (by simp [known])
  have hdurationMs : fieldOr "duration_ms" (Json.asOption (Json.asDuration 1000000)) none fields =
      some (result.duration.map fun nanos => roundTo 1000000 nanos * 1000000) :=
    (hfields.fieldOr_eq (show ("duration_ms", some durationMs) ∈ _ by simp [known]) _ _).trans
      (Json.asOption_of_ofDuration (.inl rfl) hms)
  have hdurationUs : fieldOr "duration_us" (Json.asOption (Json.asDuration 1000)) none fields =
      some (result.durationUs.map fun nanos => roundTo 1000 nanos * 1000) :=
    (hfields.fieldOr_eq (show ("duration_us", some durationUs) ∈ _ by simp [known]) _ _).trans
      (Json.asOption_of_ofDuration (.inr rfl) hus)
  have hinfo : fieldOr "request_info" (Json.asOption RequestInfo.deserialize) none fields =
      some (result.requestInfo.map id) :=
    Json.fieldOr_ofOption RequestInfo.serialize RequestInfo.deserialize id hfields
      (by simp [known]) nofun fun info hinfo => RequestInfo.deserialize_serialize (h.1 info hinfo)
  have hlist : field "request_info_list" fields =
      some (.array (result.requestInfoList.map RequestInfo.serialize)) :=
    hfields.field_eq (by simp [known])
  have hinfos : Json.asVec RequestInfo.deserialize
      (.array (result.requestInfoList.map RequestInfo.serialize)) = some result.requestInfoList :=
    Json.asVec_array RequestInfo.serialize RequestInfo.deserialize fun info hinfo =>
      RequestInfo.deserialize_serialize (h.2 info hinfo)
  have hregion : field "region" fields = some (.string result.region) :=
    hfields.field_eq (by simp [known])
  have hassertion : fieldOr "assertion_failure_data"
      (Json.asOption Assertions.Assertion.deserialize) none fields =
        some (result.assertionFailureData.map id) :=
    Json.fieldOr_ofOption Assertions.Assertion.serialize Assertions.Assertion.deserialize id
      hfields (by simp [known]) nofun fun assertion _ =>
        Assertions.Assertion.deserialize_of_tells assertion.tells_serialize
  unfold onWire
  -- the times are read in the order in which they are rounded
  refine bind_of_eq_some rfl <| bind_of_eq_some hguid <| bind_of_eq_some rfl <|
    bind_of_eq_some (Uuid.parseSimple_simple _) <| bind_of_eq_some hsubscription <|
    bind_of_eq_some rfl <| bind_of_eq_some (Uuid.parseSimple_simple _) <|
    bind_of_eq_some hstatus <| bind_of_eq_some hname <| bind_of_eq_some hreason <|
    bind_of_eq_some htrace <| bind_of_eq_some rfl <|
    bind_of_eq_some (Uuid.parseSimple_simple _) <| bind_of_eq_some hspan <|
    bind_of_eq_some rfl <| bind_of_eq_some (SpanId.parse_display _) <|
    bind_of_eq_some hscheduledMs <|
    bind_of_eq (Json.asTimestamp_ofTimestamp (.inl rfl) _) fun scheduledCheckTime =>
    bind_of_eq_some hscheduledUs <|
    bind_of_eq (Json.asTimestamp_ofTimestamp (.inr rfl) _) fun scheduledCheckTimeUs =>
    bind_of_eq_some hactualMs <|
    bind_of_eq (Json.asTimestamp_ofTimestamp (.inl rfl) _) fun actualCheckTime =>
    bind_of_eq_some hactualUs <|
    bind_of_eq (Json.asTimestamp_ofTimestamp (.inr rfl) _) fun actualCheckTimeUs =>
    bind_of_eq_some hdurationMs <| bind_of_eq_some hdurationUs <| bind_of_eq_some hinfo <|
    bind_of_eq_some hlist <| bind_of_eq_some hinfos <| bind_of_eq_some hregion <|
    bind_of_eq rfl fun region => bind_of_eq_some hassertion ?_
  rw [Option.map_id, Option.map_id]
  rfl

/-! ## What comes back as it was -/

/-- A result that is on whole units, whose details are not taken for others, and whose region stands
in the text as it is. -/
structure OnUnits (result : CheckResult) : Prop where
  scheduledCheckTime : 1000000 ∣ result.scheduledCheckTime.nanos
  scheduledCheckTimeUs : 1000 ∣ result.scheduledCheckTimeUs.nanos
  actualCheckTime : 1000000 ∣ result.actualCheckTime.nanos
  actualCheckTimeUs : 1000 ∣ result.actualCheckTimeUs.nanos
  duration : ∀ nanos ∈ result.duration, 1000000 ∣ nanos
  durationUs : ∀ nanos ∈ result.durationUs, 1000 ∣ nanos
  details : ∀ reason ∈ result.statusReason, ∀ assertPath msg,
    reason.details ≠ some (.assertionEvaluationError (.invalidJsonPath assertPath msg))
  region : Assertions.Compiled.verbatim result.region = true

private theorem map_eq_self_iff {α : Type} {f : α → α} {value : Option α} :
    value.map f = value ↔ ∀ a ∈ value, f a = a := by
  cases value <;> simp

private theorem time_onWire_eq_iff {unit : Nat} (hunit : 0 < unit) (time : DateTime) :
    time.onWire unit = some time ↔ (unit : Int) ∣ time.nanos := by
  rw [← roundTo_mul_eq_iff hunit]
  constructor
  · exact fun h => (DateTime.nanos_of_ofNanos? h).symm
  · intro h
    rw [DateTime.onWire, h, DateTime.ofNanos?, dif_pos ⟨time.min_le, time.lt_max⟩]

private theorem duration_onWire_eq_iff {unit : Nat} (hunit : 0 < unit) (duration : Option Int) :
    (duration.map fun nanos => roundTo unit nanos * unit) = duration ↔
      ∀ nanos ∈ duration, (unit : Int) ∣ nanos := by
  simp only [map_eq_self_iff, roundTo_mul_eq_iff hunit]

private theorem region_onWire_eq_iff (region : String) :
    (Json.string region).asBorrowedStr = some region ↔
      Assertions.Compiled.verbatim region = true := by
  rw [Json.asBorrowedStr, Json.asStr, Option.filter_eq_some_iff]
  exact and_iff_right rfl

private theorem reason_onWire_eq_iff (reason : CheckStatusReason) :
    reason.onWire = reason ↔ ∀ assertPath msg,
      reason.details ≠ some (.assertionEvaluationError (.invalidJsonPath assertPath msg)) := by
  obtain ⟨statusType, description, details⟩ := reason
  cases details with
  | none => exact iff_of_true rfl nofun
  | some details =>
    cases details with
    | assertionCompilationError error => exact iff_of_true rfl nofun
    | assertionEvaluationError error =>
      cases error with
      | invalidJsonPath assertPath msg =>
        refine iff_of_false ?_ fun h => h assertPath msg rfl
        rw [CheckStatusReason.onWire, CheckStatusReason.mk.injEq]
        rintro ⟨-, -, h⟩
        cases h
      | tookTooLong | invalidJsonBody | invalidTypeComparison => exact iff_of_true rfl nofun

/-- A result is on the wire what it was exactly where it is on whole units and its region needs no
escape. -/
theorem onWire_eq_iff (result : CheckResult) :
    result.onWire = some result ↔ result.OnUnits := by
  have hms : 0 < 1000000 := by decide
  have hus : 0 < 1000 := by decide
  constructor
  · intro h
    obtain ⟨scheduledMs, hscheduledMs, h⟩ := Option.bind_eq_some_iff.mp h
    obtain ⟨scheduledUs, hscheduledUs, h⟩ := Option.bind_eq_some_iff.mp h
    obtain ⟨actualMs, hactualMs, h⟩ := Option.bind_eq_some_iff.mp h
    obtain ⟨actualUs, hactualUs, h⟩ := Option.bind_eq_some_iff.mp h
    obtain ⟨text, htext, h⟩ := Option.bind_eq_some_iff.mp h
    obtain ⟨guid, subscriptionId, status, statusReason, traceId, spanId, scheduledCheckTime,
      scheduledCheckTimeUs, actualCheckTime, actualCheckTimeUs, duration, durationUs, requestInfo,
      requestInfoList, region, assertionFailureData⟩ := result
    simp only [Option.some_inj, CheckResult.mk.injEq, true_and, and_true] at h
    obtain ⟨hreason, rfl, rfl, rfl, rfl, hduration, hdurationUs, rfl⟩ := h
    exact ⟨(time_onWire_eq_iff hms _).mp hscheduledMs, (time_onWire_eq_iff hus _).mp hscheduledUs,
      (time_onWire_eq_iff hms _).mp hactualMs, (time_onWire_eq_iff hus _).mp hactualUs,
      (duration_onWire_eq_iff hms duration).mp hduration,
      (duration_onWire_eq_iff hus durationUs).mp hdurationUs,
      fun reason hmem => (reason_onWire_eq_iff reason).mp (map_eq_self_iff.mp hreason reason hmem),
      (region_onWire_eq_iff _).mp htext⟩
  · intro h
    have hreason : result.statusReason.map CheckStatusReason.onWire = result.statusReason :=
      map_eq_self_iff.mpr fun reason hmem =>
        (reason_onWire_eq_iff reason).mpr (h.details reason hmem)
    have hduration := (duration_onWire_eq_iff hms result.duration).mpr h.duration
    have hdurationUs := (duration_onWire_eq_iff hus result.durationUs).mpr h.durationUs
    unfold onWire
    rw [(time_onWire_eq_iff hms _).mpr h.scheduledCheckTime,
      (time_onWire_eq_iff hus _).mpr h.scheduledCheckTimeUs,
      (time_onWire_eq_iff hms _).mpr h.actualCheckTime,
      (time_onWire_eq_iff hus _).mpr h.actualCheckTimeUs,
      (region_onWire_eq_iff _).mpr h.region, hreason]
    exact congrArg₂ (fun duration durationUs => some { result with duration, durationUs })
      hduration hdurationUs

/-- The wire format of a result: what is written of it is read as the result on whole units if its
region needs no escape, and is not read otherwise; it is read as the result was exactly where that
is on whole units already. -/
theorem wire_roundtrip_on_units {result : CheckResult} {json : Json}
    (hjson : result.serialize = some json) (h : result.StartsFit) :
    deserialize json = result.onWire ∧ (deserialize json = some result ↔ result.OnUnits) := by
  rw [deserialize_of_serialize hjson h]
  exact ⟨rfl, result.onWire_eq_iff⟩

/-- A check that failed at the lookup of its host. -/
private def dnsFailure : CheckResult :=
  let scheduled : DateTime := .timestampNanos 1717614062978000000
  let actual : DateTime := .timestampNanos 1717614068008000000
  let durations : RequestDurations := ⟨⟨0, 0⟩, ⟨1, 1⟩, ⟨2, 2⟩, ⟨3, 3⟩, ⟨4, 4⟩, ⟨5, 5⟩⟩
  let info : RequestInfo :=
    ⟨.head, some 500, "http://www.santry.ayo", 0, 0, 0, durations, none, none, none⟩
  ⟨.fromU128 0x54afc7ed9c53491481919c931f75bae1, .fromU128 0x23d6048d67c948d9a19c0b47979e9a03,
    .failure, some ⟨.dnsError, "Unable to resolve hostname example.xyz", none⟩,
    .fromU128 0x947efba02dac463b9c1d886a44bafc94, 0x9c1d886a44bafc94#64, scheduled, scheduled,
    actual, actual, some 100000000, some 100000000, some info, [], "us-west-1", none⟩

theorem wire_roundtrip_on_units_dnsFailure :
    ∃ json, dnsFailure.serialize = some json ∧ deserialize json = some dnsFailure := by
  have hstarts : dnsFailure.StartsFit := by
    have hlist : dnsFailure.requestInfoList = [] := rfl
    rw [StartsFit, hlist]
    refine ⟨?_, fun info h => (List.not_mem_nil h).elim⟩
    rintro info ⟨⟩
    unfold RequestInfo.StartsFit
    decide
  have hunits : dnsFailure.OnUnits := by
    refine ⟨by decide, by decide, by decide, by decide, ?_, ?_, ?_, by decide⟩
    · rintro nanos ⟨⟩
      decide
    · rintro nanos ⟨⟩
      decide
    · rintro reason ⟨⟩
      nofun
  exact ⟨_, rfl, (wire_roundtrip_on_units rfl hstarts).2.mpr hunits⟩

end CheckResult

end UptimeChecker
