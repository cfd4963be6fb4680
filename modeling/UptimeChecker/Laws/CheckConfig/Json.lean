import Mathlib.Tactic.Ring
import UptimeChecker.Types.CheckConfig.Json
import UptimeChecker.Laws.Assertions.Json
import UptimeChecker.Laws.CheckConfig

/-!
# Check configs over the wire

A config comes back from the wire with its timeout rounded to the nearest millisecond, and so as it
was exactly where the timeout is a whole number of them. It is read of more documents than the one
that is written: the fields may come in any order and with others beside them, and those added later
may be left out where they hold their defaults.
-/

namespace UptimeChecker

open TaggedUnion

open Assertions.Compiled (Json)

namespace Assertions.Compiled

@[simp] theorem Json.asI64_ofSigned (n : Int64) : (Json.ofSigned n).asI64 = some n := by
  unfold Json.ofSigned
  split
  · rename_i hpos
    have hlt : n.toInt.toNat < 9223372036854775808 := by
      have hbound := n.toInt_lt
      omega
    have hnat : (UInt64.ofNat n.toInt.toNat).toNat = n.toInt.toNat :=
      UInt64.toNat_ofNat_of_lt' (Nat.lt_trans hlt (by decide))
    show (if _ then _ else _) = _
    rw [if_pos (by rw [hnat]; exact hlt), hnat, ← Int64.ofInt_eq_ofNat, Int.toNat_of_nonneg hpos,
      Int64.ofInt_toInt]
  · rfl

theorem Json.asOption_of_ne_null {α : Type} {deserialize : Json → Option α} {json : Json} {a : α}
    (hnull : json ≠ .null) (h : deserialize json = some a) :
    Json.asOption deserialize json = some (some a) := by
  cases json with
  | null => exact absurd rfl hnull
  | _ => exact congrArg (Option.map some) h

@[simp] theorem Json.asBool_bool (b : Bool) : (Json.bool b).asBool = some b := rfl

theorem Json.asVec_array {α : Type} (serialize : α → Json) (deserialize : Json → Option α)
    {values : List α} (h : ∀ a ∈ values, deserialize (serialize a) = some a) :
    Json.asVec deserialize (.array (values.map serialize)) = some values := by
  show (values.map serialize).mapM deserialize = some values
  induction values with
  | nil => rfl
  | cons a values ih =>
    obtain ⟨ha, hvalues⟩ := List.forall_mem_cons.mp h
    simp [ha, ih hvalues]

end Assertions.Compiled

/-! ## Identifiers -/

private theorem hexDigits_succ (k n : Nat) :
    hexDigits (k + 1) n = Nat.digitChar (n / 16 ^ k % 16) :: hexDigits k n := by
  unfold hexDigits
  rw [List.range_succ_eq_map, List.map_cons, List.map_map]
  congr 1
  apply List.map_congr_left
  intro i hi
  rw [Function.comp_apply, show k + 1 - 1 - i.succ = k - 1 - i by omega]

private theorem hexValue_digitChar : ∀ d < 16, hexValue (Nat.digitChar d) = some d := by
  decide

/-- Digits that are read back go on from what the digits before them stood for. -/
theorem ofHexDigits_hexDigits (k : Nat) : ∀ m n : Nat,
    ofHexDigits m (hexDigits k n) = some (m * 16 ^ k + n % 16 ^ k) := by
  induction k with
  | zero =>
    intro m n
    simp [hexDigits, ofHexDigits, Nat.mod_one]
  | succ k ih =>
    intro m n
    have hdigit : hexValue (Nat.digitChar (n / 16 ^ k % 16)) = some (n / 16 ^ k % 16) :=
      hexValue_digitChar _ (Nat.mod_lt _ (by decide))
    rw [hexDigits_succ, ofHexDigits, hdigit, Option.bind_some, ih, Nat.mod_pow_succ, Nat.pow_succ]
    congr 1
    ring

theorem Uuid.parseSimple_simple (u : Uuid) : Uuid.parseSimple u.simple = some u := by
  have hlength : (hexDigits 32 u.toNat).length = 32 := by simp [hexDigits]
  have hvalue : u.toNat % 16 ^ 32 = u.toNat := Nat.mod_eq_of_lt u.isLt
  unfold Uuid.parseSimple Uuid.simple
  rw [String.toList_ofList, if_pos hlength, ofHexDigits_hexDigits, Nat.zero_mul, Nat.zero_add,
    hvalue, Option.map_some]
  exact congrArg some (BitVec.ofNat_toNat 128 u)

/-! ## Timeouts -/

/-- The bounds of a `TimeDelta`, in nanoseconds. -/
def timeDeltaMax : Nat := 9223372036854775807 * 1000000

private theorem roundTo_of_dvd {unit : Nat} (hunit : 0 < unit) {nanos : Int}
    (h : (unit : Int) ∣ nanos) : roundTo unit nanos * unit = nanos := by
  obtain ⟨count, rfl⟩ := h
  have habs : ((unit : Int) * count).natAbs = unit * count.natAbs := by
    rw [Int.natAbs_mul, Int.natAbs_natCast]
  have hround : (unit * count.natAbs + unit / 2) / unit = count.natAbs := by
    rw [Nat.mul_add_div hunit, Nat.div_eq_of_lt (Nat.div_lt_self hunit (by decide)), Nat.add_zero]
  have hsign : ((unit : Int) * count).sign = count.sign := by
    rw [Int.sign_mul, Int.sign_natCast_of_ne_zero hunit.ne', one_mul]
  rw [roundTo, habs, hround, hsign, Int.sign_mul_natAbs, mul_comm]

/-- A time comes back from the wire as it was exactly where it is a whole number of units. -/
theorem roundTo_mul_eq_iff {unit : Nat} (hunit : 0 < unit) (nanos : Int) :
    roundTo unit nanos * unit = nanos ↔ (unit : Int) ∣ nanos := by
  refine ⟨fun h => ⟨roundTo unit nanos, ?_⟩, roundTo_of_dvd hunit⟩
  rw [mul_comm]
  exact h.symm

theorem natAbs_roundTo_le (unit : Nat) (nanos : Int) :
    (roundTo unit nanos).natAbs ≤ (nanos.natAbs + unit / 2) / unit := by
  have hsign : nanos.sign.natAbs ≤ 1 := by
    rcases Int.sign_trichotomy nanos with hsign | hsign | hsign <;> simp [hsign]
  rw [roundTo, Int.natAbs_mul, Int.natAbs_natCast]
  exact (Nat.mul_le_mul_right _ hsign).trans_eq (Nat.one_mul _)

private theorem natAbs_roundMillis_le {nanos : Int} (h : nanos.natAbs ≤ timeDeltaMax) :
    (roundMillis nanos).natAbs ≤ 9223372036854775807 := by
  refine (natAbs_roundTo_le 1000000 nanos).trans ?_
  unfold timeDeltaMax at h
  omega

theorem timeDeltaOfMillis_roundMillis {nanos : Int} (h : nanos.natAbs ≤ timeDeltaMax) :
    timeDeltaOfMillis (Int64.ofInt (roundMillis nanos)) = some (roundMillis nanos * 1000000) := by
  have hbound := natAbs_roundMillis_le h
  have hint : (Int64.ofInt (roundMillis nanos)).toInt = roundMillis nanos :=
    Int64.toInt_ofInt_of_le (by simp; omega) (by simp; omega)
  rw [timeDeltaOfMillis, hint, if_neg (by omega)]

/-! ## What a document tells -/

/-- The documents that tell an `Option`. -/
def Json.OptionTells {α : Type} (tells : α → Json → Prop) : Option α → Json → Prop
  | none, json => json = .null
  | some a, json => tells a json

/-- A step of reading that succeeds, and what is read after it. -/
theorem bind_of_eq_some {α β : Type} {o : Option α} {a : α} {f : α → Option β}
    {result : Option β} (h : o = some a) (hf : f a = result) : (o >>= f) = result := by
  rw [h]
  exact hf

namespace CheckConfig

/-- The documents that tell a config. Those fields that were added later may be left out. -/
def Tells (config : CheckConfig) (json : Json) : Prop :=
  ∃ (millis : Int64) (requestMethod requestHeaders requestBody traceSampling activeRegions
      regionScheduleMode assertion captureResponseOnFailure : Option Json),
    timeDeltaOfMillis millis = some config.timeout ∧
    Json.MayOmit .get (fun method json => json = .string method.name)
      config.requestMethod requestMethod ∧
    Json.MayOmit [] (fun headers json => json = .array (headers.map .ofStringPair))
      config.requestHeaders requestHeaders ∧
    Json.MayOmit "" (fun body json => json = .string body) config.requestBody requestBody ∧
    Json.MayOmit false (fun b json => json = .bool b) config.traceSampling traceSampling ∧
    Json.MayOmit none
      (Json.OptionTells fun regions json => json = .array (List.map .string regions))
      config.activeRegions activeRegions ∧
    Json.MayOmit none (Json.OptionTells fun mode json => json = .string mode.name)
      config.regionScheduleMode regionScheduleMode ∧
    Json.MayOmit none (Json.OptionTells Assertions.Assertion.Tells) config.assertion assertion ∧
    Json.MayOmit true (fun b json => json = .bool b)
      config.captureResponseOnFailure captureResponseOnFailure ∧
    json.IsRecord [("subscription_id", some (.string config.subscriptionId.simple)),
      ("interval_seconds", some config.interval.serialize), ("timeout_ms", some (.ofSigned millis)),
      ("url", some (.string config.url)), ("request_method", requestMethod),
      ("request_headers", requestHeaders), ("request_body", requestBody),
      ("trace_sampling", traceSampling), ("active_regions", activeRegions),
      ("region_schedule_mode", regionScheduleMode), ("assertion", assertion),
      ("capture_response_on_failure", captureResponseOnFailure)]

/-- The config that a written config is read as. -/
def onMillis (config : CheckConfig) : CheckConfig :=
  { config with timeout := roundMillis config.timeout * 1000000 }

theorem onMillis_tells_serialize (config : CheckConfig)
    (h : config.timeout.natAbs ≤ timeDeltaMax) : config.onMillis.Tells config.serialize := by
  refine ⟨_, some _, some _, some _, some _, some _, some _, some _, some _,
    timeDeltaOfMillis_roundMillis h, rfl, rfl, rfl, rfl, ?_, ?_, ?_, rfl, _, rfl,
    .refl (by simp)⟩
  · show Json.OptionTells _ config.activeRegions _
    cases config.activeRegions <;> rfl
  · show Json.OptionTells _ config.regionScheduleMode _
    cases config.regionScheduleMode <;> rfl
  · show Json.OptionTells _ config.assertion _
    cases config.assertion with
    | none => rfl
    | some assertion => exact assertion.tells_serialize

/-- A document that tells something other than nothing is read as it. -/
private theorem asOption_of_tells {α : Type} {tells : α → Json → Prop} {read : Json → Option α}
    (hread : ∀ {a json}, tells a json → json ≠ .null ∧ read json = some a) {value : Option α}
    {json : Json} (h : Json.OptionTells tells value json) :
    Json.asOption read json = some value := by
  cases value with
  | none =>
    cases h
    rfl
  | some a =>
    obtain ⟨hnull, hread⟩ := hread h
    exact Json.asOption_of_ne_null hnull hread

/-- Every document that tells a config is read as it. -/
theorem deserialize_of_tells {config : CheckConfig} {json : Json} (h : config.Tells json) :
    deserialize json = some config := by
  obtain ⟨millis, requestMethod, requestHeaders, requestBody, traceSampling, activeRegions,
    regionScheduleMode, assertion, capture, htimeout, hmethod, hheaders, hbody, hsampling,
    hregions, hmode, hassertion, hcapture, fields, rfl, hfields⟩ := h
  have hid : field "subscription_id" fields = some (.string config.subscriptionId.simple) :=
    hfields.field_eq (by simp)
  have hinterval : field "interval_seconds" fields = some config.interval.serialize :=
    hfields.field_eq (by simp)
  have hmillis : field "timeout_ms" fields = some (.ofSigned millis) := hfields.field_eq (by simp)
  have hurl : field "url" fields = some (.string config.url) := hfields.field_eq (by simp)
  have hmethod : fieldOr "request_method" RequestMethod.deserialize .get fields =
      some config.requestMethod := by
    refine (hfields.fieldOr_eq (show ("request_method", requestMethod) ∈ _ by simp) _ _).trans
      (hmethod.elim_eq ?_)
    rintro json rfl
    cases config.requestMethod <;> rfl
  have hheaders : fieldOr "request_headers" (Json.asVec Json.asStringPair) [] fields =
      some config.requestHeaders := by
    refine (hfields.fieldOr_eq (show ("request_headers", requestHeaders) ∈ _ by simp) _ _).trans
      (hheaders.elim_eq ?_)
    rintro json rfl
    exact Json.asVec_array Json.ofStringPair Json.asStringPair fun _ _ => rfl
  have hbody : fieldOr "request_body" Json.asStr "" fields = some config.requestBody := by
    refine (hfields.fieldOr_eq (show ("request_body", requestBody) ∈ _ by simp) _ _).trans
      (hbody.elim_eq ?_)
    rintro json rfl
    rfl
  have hsampling : fieldOr "trace_sampling" Json.asBool false fields =
      some config.traceSampling := by
    refine (hfields.fieldOr_eq (show ("trace_sampling", traceSampling) ∈ _ by simp) _ _).trans
      (hsampling.elim_eq ?_)
    rintro json rfl
    rfl
  have hregions : fieldOr "active_regions" (Json.asOption (Json.asVec Json.asStr)) none fields =
      some config.activeRegions := by
    refine (hfields.fieldOr_eq (show ("active_regions", activeRegions) ∈ _ by simp) _ _).trans
      (hregions.elim_eq fun htells => asOption_of_tells ?_ htells)
    rintro regions json rfl
    exact ⟨nofun, Json.asVec_array Json.string Json.asStr fun _ _ => rfl⟩
  have hmode : fieldOr "region_schedule_mode" (Json.asOption RegionScheduleMode.deserialize) none
      fields = some config.regionScheduleMode := by
    refine (hfields.fieldOr_eq
      (show ("region_schedule_mode", regionScheduleMode) ∈ _ by simp) _ _).trans
      (hmode.elim_eq fun htells => asOption_of_tells ?_ htells)
    rintro mode json rfl
    exact ⟨nofun, by cases mode; rfl⟩
  have hassertion : fieldOr "assertion" (Json.asOption Assertions.Assertion.deserialize) none
      fields = some config.assertion := by
    refine (hfields.fieldOr_eq (show ("assertion", assertion) ∈ _ by simp) _ _).trans
      (hassertion.elim_eq fun htells => asOption_of_tells ?_ htells)
    intro assertion json htells
    refine ⟨?_, Assertions.Assertion.deserialize_of_tells htells⟩
    obtain ⟨-, -, fields, rfl, -⟩ := htells
    nofun
  have hcapture : fieldOr "capture_response_on_failure" Json.asBool defaultCaptureResponse fields =
      some config.captureResponseOnFailure := by
    refine (hfields.fieldOr_eq
      (show ("capture_response_on_failure", capture) ∈ _ by simp) _ _).trans
      (hcapture.elim_eq ?_)
    rintro json rfl
    rfl
  have hsecs : CheckInterval.deserialize config.interval.serialize = some config.interval := by
    cases config.interval <;> rfl
  exact bind_of_eq_some rfl <| bind_of_eq_some hid <| bind_of_eq_some rfl <|
    bind_of_eq_some (Uuid.parseSimple_simple _) <| bind_of_eq_some hinterval <|
    bind_of_eq_some hsecs <| bind_of_eq_some hmillis <|
    bind_of_eq_some (Json.asI64_ofSigned millis) <| bind_of_eq_some htimeout <|
    bind_of_eq_some hurl <| bind_of_eq_some rfl <| bind_of_eq_some hmethod <|
    bind_of_eq_some hheaders <| bind_of_eq_some hbody <| bind_of_eq_some hsampling <|
    bind_of_eq_some hregions <| bind_of_eq_some hmode <| bind_of_eq_some hassertion <|
    bind_of_eq_some hcapture rfl

/-- The wire format of a config: every document that tells it is read as it, and what is written of
it is read as the config with its timeout on a whole millisecond. -/
theorem wire_roundtrip_on_millis (config : CheckConfig)
    (h : config.timeout.natAbs ≤ timeDeltaMax) :
    (∀ json, config.Tells json → deserialize json = some config) ∧
      deserialize config.serialize = some config.onMillis ∧
      (deserialize config.serialize = some config ↔ 1000000 ∣ config.timeout) := by
  have hread : deserialize config.serialize = some config.onMillis :=
    deserialize_of_tells (config.onMillis_tells_serialize h)
  refine ⟨fun _ => deserialize_of_tells, hread, ?_⟩
  rw [hread, Option.some_inj,
    show 1000000 ∣ config.timeout ↔ roundMillis config.timeout * 1000000 = config.timeout from
      (roundTo_mul_eq_iff (by decide : 0 < 1000000) config.timeout).symm]
  constructor
  · intro heq
    exact congrArg CheckConfig.timeout heq
  · intro heq
    rw [onMillis, heq]

/-- At the default config, whose timeout is ten seconds. -/
theorem wire_roundtrip_on_millis_default :
    deserialize CheckConfig.default.serialize = some CheckConfig.default :=
  (wire_roundtrip_on_millis .default (by decide)).2.2.mpr (by decide)

end CheckConfig

end UptimeChecker
