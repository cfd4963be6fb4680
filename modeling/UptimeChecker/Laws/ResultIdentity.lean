import UptimeChecker.Laws.Checker.ReqwestChecker

/-!
# The identity of a result

The trace id of a check is a hash of its key: the subscription id, the time of the tick and the
retry number, with dashes between them. The id is written in as many characters each time and the
number without a dash, so the key determines all three although the id and the time have dashes of
their own.

A result that the reqwest checker has come to carries the trace id. One made for a check that was
missed carries a random id, and is a different result each time.
-/

namespace UptimeChecker

/-! ## Keys -/

/-- The parts of a text around its last separator. -/
private theorem append_cons_inj {α : Type} {sep : α} {a b c d : List α} (hb : sep ∉ b)
    (hd : sep ∉ d) (h : a ++ sep :: b = c ++ sep :: d) : a = c ∧ b = d := by
  rcases List.append_eq_append_iff.mp h with ⟨mid, hc, hmid⟩ | ⟨mid, ha, hmid⟩
  · cases mid with
    | nil => simpa [hc] using hmid
    | cons x mid =>
      obtain ⟨-, hb'⟩ := List.cons.inj hmid
      exact (hb (by simp [hb'])).elim
  · cases mid with
    | nil => simpa [ha, eq_comm] using hmid
    | cons x mid =>
      obtain ⟨-, hd'⟩ := List.cons.inj hmid
      exact (hd (by simp [hd'])).elim

/-- A number is known by its hexadecimal digits. -/
private theorem eq_of_hexDigits {k n m : Nat} (hn : n < 16 ^ k) (hm : m < 16 ^ k)
    (h : ∀ i < k, n / 16 ^ i % 16 = m / 16 ^ i % 16) : n = m := by
  induction k generalizing n m with
  | zero => omega
  | succ k ih =>
    have hlast : n % 16 = m % 16 := by simpa using h 0 (by omega)
    have hrest : n / 16 = m / 16 := by
      apply ih
      · omega
      · omega
      · intro i hi
        have := h (i + 1) (by omega)
        rwa [Nat.pow_succ', ← Nat.div_div_eq_div_mul, ← Nat.div_div_eq_div_mul] at this
    omega

private theorem digitChar_inj : ∀ a < 16, ∀ b < 16, Nat.digitChar a = Nat.digitChar b → a = b := by
  decide

theorem hexDigits_inj {k n m : Nat} (hn : n < 16 ^ k) (hm : m < 16 ^ k)
    (h : hexDigits k n = hexDigits k m) : n = m := by
  apply eq_of_hexDigits hn hm
  intro i hi
  have hat := congrArg (·[k - 1 - i]?) h
  have hlt : k - 1 - i < k := by omega
  have hback : k - 1 - (k - 1 - i) = i := by omega
  simp only [hexDigits, List.getElem?_map, List.getElem?_range hlt, Option.map_some,
    Option.some.injEq, hback] at hat
  exact digitChar_inj _ (Nat.mod_lt _ (by decide)) _ (Nat.mod_lt _ (by decide)) hat

/-- The text of a UUID has 36 characters. -/
theorem Uuid.length_display (u : Uuid) : u.display.toList.length = 36 := by
  simp [Uuid.display, hexDigits]

theorem dash_not_mem_hexDigits (k n : Nat) : '-' ∉ hexDigits k n := by
  have hdigit : ∀ d < 16, Nat.digitChar d ≠ '-' := by decide
  intro hmem
  obtain ⟨i, -, hi⟩ := List.mem_map.mp hmem
  exact hdigit _ (Nat.mod_lt _ (by decide)) hi

/-- Without its dashes the text of a UUID is its digits. -/
private theorem Uuid.filter_display (u : Uuid) :
    u.display.toList.filter (· ≠ '-') = hexDigits 32 u.toNat := by
  unfold Uuid.display
  generalize hdigits : hexDigits 32 u.toNat = digits
  have hkeep : ∀ l : List Char, l ⊆ digits → l.filter (· ≠ '-') = l := by
    intro l hl
    apply List.filter_eq_self.mpr
    intro c hc
    exact decide_eq_true fun heq => dash_not_mem_hexDigits 32 u.toNat (hdigits ▸ heq ▸ hl hc)
  have hpart : ∀ n, (digits.drop n).take 4 ⊆ digits := fun n =>
    List.Subset.trans (List.take_subset _ _) (List.drop_subset _ _)
  have hjoin : ∀ n, (digits.drop n).take 4 ++ digits.drop (n + 4) = digits.drop n := by
    intro n
    rw [← List.drop_drop, List.take_append_drop]
  simp only [String.toList_ofList, List.filter_append, List.filter_cons, ne_eq, not_true_eq_false,
    decide_false, Bool.false_eq_true, if_false]
  rw [hkeep _ (List.take_subset _ _), hkeep _ (hpart 8), hkeep _ (hpart 12), hkeep _ (hpart 16),
    hkeep _ (List.drop_subset _ _)]
  simp only [List.append_assoc, hjoin 16, hjoin 12, hjoin 8, List.take_append_drop]

theorem Uuid.display_inj {u v : Uuid} (h : u.display = v.display) : u = v := by
  apply BitVec.eq_of_toNat_eq
  have hbound : ∀ w : Uuid, w.toNat < 16 ^ 32 := fun w => w.isLt
  apply hexDigits_inj (hbound u) (hbound v)
  rw [← Uuid.filter_display, h, Uuid.filter_display]

/-- The key that `make_trace_id` hashes. -/
def uniqueKey (displayDateTime : DateTime → String) (check : ScheduledCheck) : String :=
  check.config.subscriptionId.display ++ "-" ++ displayDateTime check.tick.time ++ "-" ++
    check.retryCount.toNat.repr

/-- Two checks agree on what the key is made of. -/
def SameKey (a b : ScheduledCheck) : Prop :=
  a.config.subscriptionId = b.config.subscriptionId ∧ a.tick.time = b.tick.time ∧
    a.retryCount = b.retryCount

private theorem toList_uniqueKey (displayDateTime : DateTime → String) (check : ScheduledCheck) :
    (uniqueKey displayDateTime check).toList =
      (check.config.subscriptionId.display.toList ++
        '-' :: (displayDateTime check.tick.time).toList) ++
          '-' :: Nat.toDigits 10 check.retryCount.toNat := by
  have hdash : "-".toList = ['-'] := rfl
  simp only [uniqueKey, String.toList_append, hdash, Nat.toList_repr, List.append_assoc,
    List.singleton_append]

theorem uniqueKey_eq_iff {displayDateTime : DateTime → String} {a b : ScheduledCheck}
    (hdisplay : displayDateTime a.tick.time = displayDateTime b.tick.time →
      a.tick.time = b.tick.time) :
    uniqueKey displayDateTime a = uniqueKey displayDateTime b ↔ SameKey a b := by
  have hdash : ∀ n : UInt16, '-' ∉ Nat.toDigits 10 n.toNat := fun n hmem =>
    absurd (Nat.isDigit_of_mem_toDigits (by decide) (by decide) hmem) (by decide)
  constructor
  · intro h
    have hlist := congrArg String.toList h
    rw [toList_uniqueKey, toList_uniqueKey] at hlist
    obtain ⟨hfront, hretry⟩ := append_cons_inj (hdash _) (hdash _) hlist
    obtain ⟨hid, htime⟩ := List.append_inj hfront (by simp only [Uuid.length_display])
    refine ⟨Uuid.display_inj (String.toList_inj.mp hid),
      hdisplay (String.toList_inj.mp (List.cons.inj htime).2), ?_⟩
    have hnumber := congrArg (Nat.ofDigitChars 10 · 0) hretry
    simp only [Nat.ofDigitChars_toDigits (show 1 < 10 by decide) (Nat.le_refl 10)] at hnumber
    exact UInt16.toNat_inj.mp hnumber
  · intro ⟨hid, htime, hretry⟩
    simp only [uniqueKey, hid, htime, hretry]

/-! ## Results -/

/-- The trace id of a check. -/
def traceId (ext : CheckerExternals) (check : ScheduledCheck) : Uuid :=
  makeTraceId ext.newV5 ext.displayDateTime check.config check.tick check.retryCount

/-- The bytes that are hashed for it. -/
def traceName (ext : CheckerExternals) (check : ScheduledCheck) : List UInt8 :=
  (uniqueKey ext.displayDateTime check).toUTF8.data.toList

theorem traceId_eq (ext : CheckerExternals) (check : ScheduledCheck) :
    traceId ext check = ext.newV5 checkerResultNamespace (traceName ext check) := rfl

theorem traceName_inj {ext : CheckerExternals} {a b : ScheduledCheck}
    (h : traceName ext a = traceName ext b) :
    uniqueKey ext.displayDateTime a = uniqueKey ext.displayDateTime b := by
  unfold traceName at h
  exact String.toByteArray_inj.mp (ByteArray.ext (Array.toList_inj.mp h))

/-- A check processed by `do_check` with the reqwest checker. Where a method of the checker is not
called, its readings are what it would have met with. -/
structure Processing (lib : Assertions.Compiled.Externals) (ext : CheckerExternals)
    (robots : RobotsExternals) where
  checker : ReqwestChecker lib
  region : String
  check : ScheduledCheck
  readings : CheckReadings
  urlReadings : ReqwestChecker.UrlReadings
  robotsReadings : ReqwestChecker.RobotsReadings robots
  checkUrl : (checker.checkUrl ext check region urlReadings).1 = some readings.checkUrl
  checkRobots : ReqwestChecker.checkRobots ext robots check region robotsReadings =
    readings.checkRobots

namespace Processing

variable {lib : Assertions.Compiled.Externals} {ext : CheckerExternals} {robots : RobotsExternals}
  {a b : Processing lib ext robots}

/-- The result, if the processing has one. -/
def result (a : Processing lib ext robots) : Option CheckResult :=
  CheckExecutor.checkResult a.region a.check a.readings

/-- The check is processed more than an interval after its tick. -/
def Late (a : Processing lib ext robots) : Prop :=
  a.readings.now.nanos - a.check.tick.time.nanos > a.check.config.interval.secs * nanosPerSec

/-- What is assumed of the ids and texts that two processings come by: names that are hashed do not
collide, times that differ have different texts, and a random id is no other id. -/
structure Fresh (a b : Processing lib ext robots) : Prop where
  newV5 : ext.newV5 checkerResultNamespace (traceName ext a.check) =
    ext.newV5 checkerResultNamespace (traceName ext b.check) →
      traceName ext a.check = traceName ext b.check
  displayDateTime : ext.displayDateTime a.check.tick.time = ext.displayDateTime b.check.tick.time →
    a.check.tick.time = b.check.tick.time
  newV4 : a.readings.missedGuid ≠ b.readings.missedGuid
  newV4_left : a.readings.missedGuid ≠ traceId ext b.check
  newV4_right : b.readings.missedGuid ≠ traceId ext a.check

theorem Fresh.traceId_eq_iff (h : Fresh a b) :
    traceId ext a.check = traceId ext b.check ↔ SameKey a.check b.check := by
  rw [← uniqueKey_eq_iff h.displayDateTime]
  constructor
  · intro heq
    exact traceName_inj (h.newV5 heq)
  · intro heq
    rw [UptimeChecker.traceId_eq, UptimeChecker.traceId_eq, traceName, traceName, heq]

/-- What `check_robots` makes of a disallowed URL carries the trace id. -/
private theorem guid_of_checkRobots {check : ScheduledCheck} {region : String}
    {readings : ReqwestChecker.RobotsReadings robots} {result : CheckResult}
    (h : ReqwestChecker.checkRobots ext robots check region readings = some result) :
    result.guid = traceId ext check := by
  unfold ReqwestChecker.checkRobots at h
  dsimp only at h
  split at h
  · cases h
  · split at h
    · cases h
    · split at h
      · cases h
      · split at h
        · cases h
        · cases h
          rfl

private theorem guid_of_checkUrl {checker : ReqwestChecker lib} {check : ScheduledCheck}
    {region : String} {readings : ReqwestChecker.UrlReadings} {result : CheckResult}
    (h : (checker.checkUrl ext check region readings).1 = some result) :
    result.guid = traceId ext check := by
  unfold ReqwestChecker.checkUrl at h
  dsimp only at h
  split at h
  all_goals
    obtain ⟨data, -, rfl⟩ := Option.map_eq_some_iff.mp h
    rfl

/-- The id of a result: random for a check that came too late, and else the trace id. -/
theorem guid_of_result {result : CheckResult} (h : a.result = some result) :
    (a.Late → result.guid = a.readings.missedGuid) ∧
      (¬ a.Late → result.guid = traceId ext a.check) := by
  unfold Processing.result CheckExecutor.checkResult at h
  constructor
  · intro hlate
    rw [if_pos (show _ > _ from hlate)] at h
    cases h
    rfl
  · intro hlate
    rw [if_neg (show ¬ _ > _ from hlate)] at h
    cases hkind : a.check.kind with
    | uptime =>
      rw [hkind] at h
      cases h
      exact guid_of_checkUrl a.checkUrl
    | robots =>
      rw [hkind] at h
      exact guid_of_checkRobots (a.checkRobots.trans h)

/-- Ids tell results apart as they should unless the checks are the same and one of them came too
late. -/
theorem guid_eq_iff_sameKey_iff {resultA resultB : CheckResult} (ha : a.result = some resultA)
    (hb : b.result = some resultB) (h : Fresh a b) :
    (resultA.guid = resultB.guid ↔ SameKey a.check b.check) ↔
      (SameKey a.check b.check → ¬ a.Late ∧ ¬ b.Late) := by
  obtain ⟨halate, hatime⟩ := guid_of_result ha
  obtain ⟨hblate, hbtime⟩ := guid_of_result hb
  by_cases hla : a.Late
  · have hne : resultA.guid ≠ resultB.guid := by
      rw [halate hla]
      by_cases hlb : b.Late
      · rw [hblate hlb]
        exact h.newV4
      · rw [hbtime hlb]
        exact h.newV4_left
    simp [hne, hla]
  · by_cases hlb : b.Late
    · have hne : resultA.guid ≠ resultB.guid := by
        rw [hatime hla, hblate hlb]
        exact h.newV4_right.symm
      simp [hne, hlb]
    · rw [hatime hla, hbtime hlb, h.traceId_eq_iff]
      simp [hla, hlb]

/-! ## The default config at the epoch -/

private def epoch : DateTime := .timestampNanos (.ofNat 0)

private def epochCheck : ScheduledCheck := .new .uptime (.fromTime epoch) .default false 0

/-- The libraries as they answer for that check. -/
private def epochExternals : CheckerExternals where
  newV5 _ _ := .fromU128 0x4e15d9cf56685c718a6041bcfe9c2bbe
  newPooled _ _ := ⟨none, none, none⟩
  displayDateTime _ := "1970-01-01 00:00:00 UTC"
  displayStatus status := toString status.toNat

private def allowingRobots : RobotsExternals where
  Url := String
  parseUrl := some
  setPath url path := url ++ "/" ++ path
  asStr := id
  Robot := Unit
  newRobot _ _ := some ()
  allowed _ _ := true

/-- The request times out. -/
private def timedOut : ReqwestChecker.UrlReadings :=
  ⟨epoch, 0, .error ⟨true, false, none, [], ""⟩, [], 0, 0⟩

private def timedOutResult : Option CheckResult :=
  (ReqwestChecker.plainChecker.checkUrl epochExternals epochCheck "us_west" timedOut).1

/-- A processing of the check at a time, with the random id it would take. -/
private def processingAt (now : DateTime) (newV4 : Uuid) :
    Processing Assertions.Compiled.plainExternals epochExternals allowingRobots where
  checker := ReqwestChecker.plainChecker
  region := "us_west"
  check := epochCheck
  readings := ⟨now, now, newV4, 0, timedOutResult.get rfl, none⟩
  urlReadings := timedOut
  robotsReadings := ⟨fun _ => .error ⟨true, false, none, [], ""⟩, epoch, 0⟩
  checkUrl := rfl
  checkRobots := rfl

private theorem result_processingAt_epoch (newV4 : Uuid) :
    (processingAt epoch newV4).result = some (timedOutResult.get rfl) :=
  rfl

private theorem not_late_processingAt_epoch (newV4 : Uuid) : ¬ (processingAt epoch newV4).Late := by
  show ¬ epoch.nanos - epoch.nanos > 60 * nanosPerSec
  decide

/-- A minute and a second later. -/
private def late : DateTime := .timestampNanos (.ofNat 61000000000)

private theorem late_epoch :
    late.nanos - epoch.nanos > CheckConfig.default.interval.secs * nanosPerSec := by decide

private theorem result_processingAt_late (newV4 : Uuid) :
    (processingAt late newV4).result =
      some (CheckExecutor.missedFrom epochCheck "us_west" late newV4 0) := by
  unfold Processing.result CheckExecutor.checkResult
  exact if_pos late_epoch

private theorem fresh_processingAt (now now' : DateTime) :
    Fresh (processingAt now (.fromU128 0x9c5b94b1a3f44f0e8d6c1b2a39485766))
      (processingAt now' (.fromU128 0x1f0e2d3c4b5a4a69b8877695a4b3c2d1)) := by
  refine ⟨fun _ => rfl, fun _ => rfl, ?_, ?_, ?_⟩
  · show Uuid.fromU128 _ ≠ Uuid.fromU128 _
    decide
  · show Uuid.fromU128 _ ≠ Uuid.fromU128 _
    decide
  · show Uuid.fromU128 _ ≠ Uuid.fromU128 _
    decide

/-- Processed in time, and again in time, the check has results with one id. -/
theorem guid_eq_iff_sameKey_iff_epoch :
    ∃ a b : Processing Assertions.Compiled.plainExternals epochExternals allowingRobots,
      ∃ resultA resultB, a.result = some resultA ∧ b.result = some resultB ∧
        (resultA.guid = resultB.guid ↔ SameKey a.check b.check) :=
  ⟨_, _, _, _, result_processingAt_epoch _, result_processingAt_epoch _,
    (guid_eq_iff_sameKey_iff (result_processingAt_epoch _) (result_processingAt_epoch _)
      (fresh_processingAt epoch epoch)).mpr fun _ =>
        ⟨not_late_processingAt_epoch _, not_late_processingAt_epoch _⟩⟩

/-- Missed twice, the check has two ids. -/
theorem guid_ne_of_missed :
    ∃ a b : Processing Assertions.Compiled.plainExternals epochExternals allowingRobots,
      Fresh a b ∧ SameKey a.check b.check ∧ ∃ resultA resultB, a.result = some resultA ∧
        b.result = some resultB ∧ resultA.guid ≠ resultB.guid := by
  refine ⟨_, _, fresh_processingAt late late, ⟨rfl, rfl, rfl⟩, _, _, result_processingAt_late _,
    result_processingAt_late _, ?_⟩
  show Uuid.fromU128 _ ≠ Uuid.fromU128 _
  decide

end Processing

end UptimeChecker
