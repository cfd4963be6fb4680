import UptimeChecker.Producer.VectorProducer

/-!
# What the endpoint gets

Every payload put on the channel is in one batch at most, and the batches are cut from the channel
in order; a batch has one body, which splits at its newlines into the payloads again. So the bodies
that were taken, one after the other, are the payloads of the batches whose `send_batch` returned
`Ok`, in order (`delivered_in_order`): all that were taken off the channel, if errors are retried.

The delay between two attempts is what it is meant to be for the first 57 retries, and then its
multiplication overflows (`backOff_iff`).
-/

namespace UptimeChecker.VectorProducer

variable {ext : Externals} {conf : VectorRequestWorkerConfig} {s s' : State}

/-! ## Bodies -/

theorem batchBody_eq (batch : List Payload) : batchBody batch = batch.flatMap (· ++ [10]) := by
  have hfold : ∀ body, batch.foldl (fun body s => body ++ s ++ [10]) body =
      body ++ batch.flatMap (· ++ [10]) := by
    induction batch with
    | nil => simp
    | cons p batch ih =>
      intro body
      rw [List.foldl_cons, ih, List.flatMap_cons]
      simp only [List.append_assoc]
  exact (hfold []).trans (List.nil_append _)

/-- Bodies one after the other are one body of all their payloads. -/
theorem flatten_bodies (batches : List (List Payload)) :
    (batches.map batchBody).flatten = batchBody batches.flatten := by
  induction batches with
  | nil => rfl
  | cons batch batches ih => simp [ih, batchBody_eq]

/-- Split at its newlines, a body is its payloads again, with nothing behind the last newline. -/
theorem splitOn_batchBody {batch : List Payload} (h : ∀ p ∈ batch, 10 ∉ p) :
    (batchBody batch).splitOn 10 = batch ++ [[]] := by
  rw [batchBody_eq]
  induction batch with
  | nil => rfl
  | cons p batch ih =>
    obtain ⟨hp, hbatch⟩ := List.forall_mem_cons.mp h
    rw [List.flatMap_cons, List.append_assoc, List.singleton_append,
      List.splitOn_append_cons_self_of_not_mem hp, ih hbatch, List.cons_append]

/-! ## The books of the worker -/

/-- The batch in the worker's hands. -/
def Worker.current : Worker → Option (List Payload)
  | .waiting => none
  | .received batch => some batch
  | .requesting batch _ _ => some batch
  | .sleeping batch _ _ _ => some batch
  | .shutdown => none

/-- The body in the worker's hands. -/
def Worker.body : Worker → Option (List UInt8)
  | .requesting _ body _ => some body
  | .sleeping _ body _ _ => some body
  | _ => none

/-- The batches cut from the channel so far, in order. -/
def State.batches (s : State) : List (List Payload) :=
  s.sent.map Prod.fst ++ s.worker.current.toList

/-- The bodies of the requests whose answer made `send_batch` return `Ok`, in order. -/
def State.delivered (s : State) : List (List UInt8) :=
  (s.requests.filter (·.answer.isAccepted)).map (·.body)

/-- The batches whose `send_batch` returned `Ok`, in order. -/
def State.kept (s : State) : List (List Payload) := (s.sent.filter Prod.snd).map Prod.fst

/-- What holds of the worker's books at any moment. -/
structure Books (conf : VectorRequestWorkerConfig) (s : State) : Prop where
  /-- The batches and the channel are the accepted payloads, cut in order. -/
  cut : s.accepted = s.batches.flatten ++ s.queue
  /-- No payload has a newline in it. -/
  compact : ∀ p ∈ s.accepted, 10 ∉ p
  /-- No batch is empty. -/
  nonempty : ∀ batch ∈ s.batches, batch ≠ []
  /-- The body in hand is the one of the batch in hand. -/
  body : ∀ body, s.worker.body = some body →
    ∃ batch, s.worker.current = some batch ∧ body = batchBody batch
  /-- Every request carries the body of its batch. -/
  requests : ∀ r ∈ s.requests, ∃ batch, s.batches[r.batch]? = some batch ∧ r.body = batchBody batch
  delivered : s.delivered = s.kept.map batchBody
  /-- `send_batch` returned `Ok` for the batches that had a request accepted. -/
  flags : ∀ i batch ok, s.sent[i]? = some (batch, ok) →
    (ok = true ↔ ∃ r ∈ s.requests, r.batch = i ∧ r.answer.isAccepted = true)
  /-- No request of the batch in hand has been accepted. -/
  unaccepted : ∀ r ∈ s.requests, s.sent.length ≤ r.batch → r.answer.isAccepted = false
  /-- With retries every batch is sent in the end. -/
  retried : conf.retryVectorErrorsForever = true → ∀ p ∈ s.sent, p.2 = true

theorem books_initial : Books conf initial :=
  ⟨rfl, nofun, nofun, nofun, nofun, rfl, nofun, nofun, fun _ => nofun⟩

/-- What a successful `produce_checker_result` does. -/
theorem produceCheckerResult_eq_ok {result : CheckResult}
    (h : produceCheckerResult ext s result = .ok s') :
    ∃ json, ext.toVec result = .ok json ∧ ext.validateJson json = .ok () ∧
      s.worker ≠ .shutdown ∧
      s' = { s with
        queue := s.queue ++ [json]
        adding := s.adding + 1
        accepted := s.accepted ++ [json] } := by
  unfold produceCheckerResult at h
  cases hjson : ext.toVec result with
  | error e =>
    rw [hjson] at h
    cases h
  | ok json =>
    cases hvalid : ext.validateJson json with
    | error e =>
      rw [hjson] at h
      change ((ext.validateJson json).mapError _ >>= _) = _ at h
      rw [hvalid] at h
      cases h
    | ok u =>
      rw [hjson] at h
      change ((ext.validateJson json).mapError _ >>= _) = _ at h
      rw [hvalid] at h
      change (if s.worker = .shutdown then _ else _) = _ at h
      split at h
      · cases h
      · cases h
        exact ⟨json, rfl, hvalid, ‹_›, rfl⟩

/-- A step that cuts nothing and accepts nothing leaves the cut as it is. -/
private theorem Books.of_batches (h : Books conf s) (hqueue : s'.queue = s.queue)
    (haccepted : s'.accepted = s.accepted) (hbatches : s'.batches = s.batches)
    (hbody : ∀ body, s'.worker.body = some body →
      ∃ batch, s'.worker.current = some batch ∧ body = batchBody batch)
    (hrequests : ∀ r ∈ s'.requests, r ∈ s.requests ∨
      ∃ batch, s.batches[r.batch]? = some batch ∧ r.body = batchBody batch)
    (hdelivered : s'.delivered = s'.kept.map batchBody)
    (hflags : ∀ i batch ok, s'.sent[i]? = some (batch, ok) →
      (ok = true ↔ ∃ r ∈ s'.requests, r.batch = i ∧ r.answer.isAccepted = true))
    (hunaccepted : ∀ r ∈ s'.requests, s'.sent.length ≤ r.batch → r.answer.isAccepted = false)
    (hretried : conf.retryVectorErrorsForever = true → ∀ p ∈ s'.sent, p.2 = true) :
    Books conf s' := by
  refine ⟨?_, ?_, ?_, hbody, ?_, hdelivered, hflags, hunaccepted, hretried⟩
  · rw [haccepted, hbatches, hqueue]
    exact h.cut
  · rw [haccepted]
    exact h.compact
  · rw [hbatches]
    exact h.nonempty
  · intro r hr
    rw [hbatches]
    rcases hrequests r hr with hr | hr
    · exact h.requests r hr
    · exact hr

/-- The books depend on these fields only. -/
theorem Books.of_eq (h : Books conf s) (hqueue : s'.queue = s.queue)
    (hworker : s'.worker.current = s.worker.current) (hbody : s'.worker.body = s.worker.body)
    (haccepted : s'.accepted = s.accepted) (hrequests : s'.requests = s.requests)
    (hsent : s'.sent = s.sent) : Books conf s' := by
  have hbatches : s'.batches = s.batches := by rw [State.batches, State.batches, hsent, hworker]
  refine h.of_batches hqueue haccepted hbatches ?_ ?_ ?_ ?_ ?_ ?_
  · rw [hbody, hworker]
    exact h.body
  · intro r hr
    exact .inl (hrequests ▸ hr)
  · rw [State.delivered, State.kept, hrequests, hsent]
    exact h.delivered
  · rw [hsent, hrequests]
    exact h.flags
  · rw [hsent, hrequests]
    exact h.unaccepted
  · rw [hsent]
    exact h.retried

/-- Producing puts a payload at the end. -/
theorem Books.produce (hcompact : ∀ result json, ext.toVec result = .ok json → 10 ∉ json)
    (h : Books conf s) {result : CheckResult} (hs : produceCheckerResult ext s result = .ok s') :
    Books conf s' := by
  obtain ⟨json, hjson, -, -, rfl⟩ := produceCheckerResult_eq_ok hs
  refine ⟨?_, ?_, h.nonempty, h.body, h.requests, h.delivered, h.flags, h.unaccepted,
    h.retried⟩
  · show s.accepted ++ [json] = s.batches.flatten ++ (s.queue ++ [json])
    rw [h.cut, List.append_assoc]
  · intro p hp
    rcases List.mem_append.mp hp with hp | hp
    · exact h.compact p hp
    · rw [List.mem_singleton.mp hp]
      exact hcompact result json hjson

/-- Receiving cuts a batch off the channel. -/
theorem Books.receive (h : Books conf s) (phase : s.worker = .waiting) {n : Nat} (pos : 0 < n)
    (come : n ≤ s.queue.length) :
    Books conf { s with worker := .received (s.queue.take n), queue := s.queue.drop n } := by
  have hbatches : s.batches = s.sent.map Prod.fst := by
    rw [State.batches, phase]
    exact List.append_nil _
  refine ⟨?_, h.compact, ?_, nofun, ?_, h.delivered, h.flags, h.unaccepted, h.retried⟩
  · show s.accepted = (s.sent.map Prod.fst ++ [s.queue.take n]).flatten ++ s.queue.drop n
    rw [h.cut, hbatches]
    simp
  · intro batch hbatch
    rcases List.mem_append.mp hbatch with hmem | hmem
    · exact h.nonempty batch (hbatches ▸ hmem)
    · cases List.mem_singleton.mp hmem
      intro hnil
      have hlen := congrArg List.length hnil
      rw [List.length_take, List.length_nil] at hlen
      omega
  · intro r hr
    obtain ⟨batch, hbatch, hbody⟩ := h.requests r hr
    refine ⟨batch, ?_, hbody⟩
    rw [hbatches] at hbatch
    exact List.getElem?_append_left (List.getElem?_eq_some_iff.mp hbatch).1 ▸ hbatch

/-- `send_batch` puts the batch into its body. -/
theorem Books.fetchSub (h : Books conf s) {batch : List Payload}
    (phase : s.worker = .received batch) {pendingItems : UInt64} :
    Books conf { (if batch.isEmpty then s.returned batch true
      else { s with worker := .requesting batch (batchBody batch) 0 }) with
      pendingItems := pendingItems } := by
  have hcurrent : s.worker.current = some batch := by rw [phase, Worker.current]
  have hmem : batch ∈ s.batches := by simp [State.batches, hcurrent]
  have hne : batch.isEmpty = false := by
    rw [Bool.eq_false_iff, Ne, List.isEmpty_iff]
    exact h.nonempty batch hmem
  rw [hne]
  refine h.of_batches rfl rfl ?_ ?_ (fun r => .inl) h.delivered h.flags h.unaccepted h.retried
  · rw [State.batches, State.batches, hcurrent]
    rfl
  · intro body hbody
    cases hbody
    exact ⟨batch, rfl, rfl⟩

/-! ## Answers -/

section
variable {batch : List Payload} {body : List UInt8} {numOfRetries : UInt32}

/-- The request of the batch in hand carries its body. -/
private theorem Books.request (h : Books conf s)
    (phase : s.worker = .requesting batch body numOfRetries) :
    s.batches[s.sent.length]? = some batch ∧ body = batchBody batch := by
  constructor
  · simp [State.batches, phase, Worker.current]
  · obtain ⟨b, hb, hbody⟩ := h.body body (by rw [phase, Worker.body])
    rw [phase, Worker.current] at hb
    cases hb
    exact hbody

/-- A request more of the batch in hand still carries the body of its batch. -/
private theorem Books.requests_answered (h : Books conf s)
    (phase : s.worker = .requesting batch body numOfRetries) {answer : Answer} :
    ∀ r ∈ s.requests ++ [⟨s.sent.length, body, answer⟩], r ∈ s.requests ∨
      ∃ batch, s.batches[r.batch]? = some batch ∧ r.body = batchBody batch := by
  intro r hr
  rcases List.mem_append.mp hr with hr | hr
  · exact .inl hr
  · cases List.mem_singleton.mp hr
    exact .inr ⟨batch, h.request phase⟩

private theorem delivered_answered {r : Request} (requests : List Request) :
    ((requests ++ [r]).filter (·.answer.isAccepted)).map (·.body) =
      (requests.filter (·.answer.isAccepted)).map (·.body) ++
        if r.answer.isAccepted then [r.body] else [] := by
  cases hr : r.answer.isAccepted <;> simp [hr]

/-- An answer that makes `send_batch` return. -/
theorem Books.answer_returned (h : Books conf s) (answer : Answer)
    (phase : s.worker = .requesting batch body numOfRetries)
    (hretry : conf.retryVectorErrorsForever = true → answer.isAccepted = true) :
    Books conf { s.returned batch answer.isAccepted with
      requests := s.requests ++ [⟨s.sent.length, body, answer⟩] } := by
  have hbody := (h.request phase).2
  have hunaccepted : ∀ r ∈ s.requests, r.batch = s.sent.length → r.answer.isAccepted = false :=
    fun r hr hbatch => h.unaccepted r hr (Nat.le_of_eq hbatch.symm)
  refine h.of_batches rfl rfl ?_ nofun (h.requests_answered phase) ?_ ?_ ?_ ?_
  · simp [State.batches, State.returned, phase, Worker.current]
  · show ((s.requests ++ _).filter _).map _ = _
    rw [delivered_answered]
    have hdelivered := h.delivered
    simp only [State.delivered, State.kept] at hdelivered
    cases ha : answer.isAccepted <;> simp [State.kept, State.returned, hdelivered, hbody]
  · intro i b ok hi
    show ok = true ↔ ∃ r ∈ s.requests ++ _, _
    by_cases hlt : i < s.sent.length
    · have hold := h.flags i b ok ((List.getElem?_append_left hlt).symm.trans hi)
      rw [hold]
      simp only [List.mem_append, List.mem_singleton, or_and_right, exists_or, exists_eq_left]
      simp only [Nat.ne_of_gt hlt, false_and, or_false]
    · have hlen := (List.getElem?_eq_some_iff.mp hi).1
      simp only [State.returned, List.length_append, List.length_singleton] at hlen
      have hi' : i = s.sent.length := by omega
      subst hi'
      rw [show (s.returned batch answer.isAccepted).sent = s.sent ++ [_] from rfl,
        List.getElem?_concat_length] at hi
      cases hi
      constructor
      · intro hok
        exact ⟨_, List.mem_append_right _ (List.mem_singleton.mpr rfl), rfl, hok⟩
      · intro ⟨r, hr, hbatch, hok⟩
        rcases List.mem_append.mp hr with hr | hr
        · rw [hunaccepted r hr hbatch] at hok
          cases hok
        · cases List.mem_singleton.mp hr
          exact hok
  · intro r hr hlen
    have hlen' : s.sent.length + 1 ≤ r.batch := by
      simpa [State.returned] using hlen
    rcases List.mem_append.mp hr with hr | hr
    · exact h.unaccepted r hr (by omega)
    · cases List.mem_singleton.mp hr
      exact absurd hlen' (Nat.not_succ_le_self _)
  · intro hforever p hp
    rcases List.mem_append.mp hp with hp | hp
    · exact h.retried hforever p hp
    · cases List.mem_singleton.mp hp
      exact hretry hforever

/-- An answer that makes `send_batch` try again. -/
theorem Books.answer_sleeping (h : Books conf s) (answer : Answer)
    (phase : s.worker = .requesting batch body numOfRetries) (hno : answer.isAccepted = false)
    {delay : UInt64} :
    Books conf { s with
      worker := .sleeping batch body (numOfRetries + 1) delay
      requests := s.requests ++ [⟨s.sent.length, body, answer⟩] } := by
  have hbody := (h.request phase).2
  refine h.of_batches rfl rfl ?_ ?_ (h.requests_answered phase) ?_ ?_ ?_ h.retried
  · rw [State.batches, State.batches, phase]
    rfl
  · intro b hb
    cases hb
    exact ⟨batch, rfl, hbody⟩
  · show ((s.requests ++ _).filter _).map _ = _
    rw [delivered_answered, hno]
    exact (List.append_nil _).trans h.delivered
  · intro i b ok hi
    show ok = true ↔ ∃ r ∈ s.requests ++ _, _
    rw [h.flags i b ok hi]
    simp [or_and_right, exists_or, hno]
  · intro r hr hlen
    rcases List.mem_append.mp hr with hr | hr
    · exact h.unaccepted r hr hlen
    · cases List.mem_singleton.mp hr
      exact hno

end

/-! ## Runs -/

/-- Every step keeps the books, if requests can be built. -/
theorem Books.step (hcompact : ∀ result json, ext.toVec result = .ok json → 10 ∉ json)
    (hbuilds : conf.requestBuilds = true) {a : Action} (h : Books conf s)
    (hstep : Step ext conf s a s') : Books conf s' := by
  cases hstep with
  | produce alive hs => exact h.produce hcompact hs
  | fetchAdd hn => exact h.of_eq rfl rfl rfl rfl rfl rfl
  | dropSender idle => exact h.of_eq rfl rfl rfl rfl rfl rfl
  | receive phase pos le come => exact h.receive phase pos come
  | fetchSub phase => exact h.fetchSub phase
  | buildError phase hfails =>
    rw [hbuilds] at hfails
    cases hfails
  | answer answer phase _ =>
    by_cases hok : answer.isAccepted = true
    · rw [if_pos hok]
      have hkeep := h.answer_returned answer phase fun _ => hok
      rwa [hok] at hkeep
    · have hno := Bool.eq_false_iff.mpr hok
      rw [if_neg hok]
      by_cases hforever : conf.retryVectorErrorsForever = true
      · rw [if_pos hforever]
        exact h.answer_sleeping answer phase hno
      · rw [if_neg hforever]
        have hkeep := h.answer_returned answer phase fun h => absurd h hforever
        rwa [hno] at hkeep
  | wake phase =>
    exact h.of_eq rfl (by rw [phase]; rfl) (by rw [phase]; rfl) rfl rfl rfl
  | shutdown phase gone empty =>
    exact h.of_eq rfl (by rw [phase]; rfl) (by rw [phase]; rfl) rfl rfl rfl

theorem books_reachable (hcompact : ∀ result json, ext.toVec result = .ok json → 10 ∉ json)
    (hbuilds : conf.requestBuilds = true) (hs : (system ext conf).Reachable s) : Books conf s := by
  refine hs.invariant ?_ ?_
  · intro s hinit
    cases hinit
    exact books_initial
  · intro s a s' h hstep
    exact h.step hcompact hbuilds hstep

/-- With retries no batch whose `send_batch` returned is left out. -/
private theorem Books.kept_of_forever (h : Books conf s)
    (hforever : conf.retryVectorErrorsForever = true) : s.kept = s.sent.map Prod.fst := by
  rw [State.kept, List.filter_eq_self.mpr (h.retried hforever)]

private theorem Books.compact_kept (h : Books conf s) : ∀ p ∈ s.kept.flatten, 10 ∉ p := by
  intro p hp
  obtain ⟨batch, hbatch, hpb⟩ := List.mem_flatten.mp hp
  obtain ⟨x, hx, rfl⟩ := List.mem_map.mp hbatch
  have hmem : x.1 ∈ s.batches :=
    List.mem_append_left _ (List.mem_map_of_mem (List.mem_filter.mp hx).1)
  apply h.compact
  rw [h.cut]
  exact List.mem_append_left _ (List.mem_flatten_of_mem hmem hpb)

/-- The bodies taken by the endpoint, one after the other, split into the payloads of the batches
kept. -/
theorem Books.splitOn_delivered (h : Books conf s) :
    s.delivered.flatten.splitOn 10 = s.kept.flatten ++ [[]] := by
  rw [h.delivered, flatten_bodies, splitOn_batchBody h.compact_kept]

/-- Whatever the answers, the requests of a batch carry one body; the bodies that were taken split
at their newlines into the accepted payloads, in order and each once, but for the batches that
failed, as a whole, and what has not been sent yet. If errors are retried no batch fails. -/
theorem delivered_in_order (hcompact : ∀ result json, ext.toVec result = .ok json → 10 ∉ json)
    (hbuilds : conf.requestBuilds = true) (hs : (system ext conf).Reachable s) :
    (∀ r₁ ∈ s.requests, ∀ r₂ ∈ s.requests, r₁.batch = r₂.batch → r₁.body = r₂.body) ∧
      (conf.retryVectorErrorsForever = true →
        ∃ n, s.delivered.flatten.splitOn 10 = s.accepted.take n ++ [[]]) ∧
      s.accepted = s.batches.flatten ++ s.queue ∧
      (∀ batch ∈ s.batches, batch ≠ []) ∧
      (∀ i batch ok, s.sent[i]? = some (batch, ok) →
        (ok = true ↔ ∃ r ∈ s.requests, r.batch = i ∧ r.answer.isAccepted = true)) ∧
      s.delivered.flatten.splitOn 10 =
        ((s.sent.filter fun p => p.2).map fun p => p.1).flatten ++ [[]] := by
  have h := books_reachable hcompact hbuilds hs
  refine ⟨?_, ?_, h.cut, h.nonempty, h.flags, h.splitOn_delivered⟩
  · intro r₁ h₁ r₂ h₂ hbatch
    obtain ⟨batch₁, hb₁, hbody₁⟩ := h.requests r₁ h₁
    obtain ⟨batch₂, hb₂, hbody₂⟩ := h.requests r₂ h₂
    rw [hbatch, hb₂] at hb₁
    cases hb₁
    rw [hbody₁, hbody₂]
  · intro hforever
    refine ⟨s.kept.flatten.length, ?_⟩
    have hcut : s.accepted = s.kept.flatten ++ (s.worker.current.toList.flatten ++ s.queue) := by
      rw [h.cut, State.batches, h.kept_of_forever hforever, List.flatten_append,
        List.append_assoc]
    rw [h.splitOn_delivered, hcut, List.take_left]

/-- A check missed at the epoch. -/
def missedAtEpoch : CheckResult :=
  let epoch : DateTime := .timestampNanos (.ofNat 0)
  ⟨.fromU128 0, .fromU128 0, .missedWindow, none, .fromU128 0, 0#64, epoch, epoch, epoch, epoch,
    none, none, none, [], "default", none⟩

def missedAtEpochJson : Payload :=
  ("\x7b\"guid\":\"00000000000000000000000000000000\"," ++
    "\"subscription_id\":\"00000000000000000000000000000000\"," ++
    "\"status\":\"missed_window\",\"status_reason\":null," ++
    "\"trace_id\":\"00000000000000000000000000000000\",\"span_id\":\"0000000000000000\"," ++
    "\"scheduled_check_time_ms\":0,\"scheduled_check_time_us\":0," ++
    "\"actual_check_time_ms\":0,\"actual_check_time_us\":0," ++
    "\"duration_ms\":null,\"duration_us\":null,\"request_info\":null," ++
    "\"request_info_list\":[],\"region\":\"default\"," ++
    "\"assertion_failure_data\":null\x7d").toUTF8.data.toList

/-- Externals that know this result only. -/
def missedExternals : Externals where
  toVec result := if result = missedAtEpoch then .ok missedAtEpochJson else .error "unknown"
  validateJson _ := .ok ()

def retryingConfig : VectorRequestWorkerConfig := ⟨10, true, true⟩

/-- One result was sent: first to a server error, and then it was taken. -/
def retriedState : State where
  queue := []
  senderAlive := true
  adding := 1
  pendingItems := 0 - 1
  worker := .waiting
  accepted := [missedAtEpochJson]
  requests := [⟨0, batchBody [missedAtEpochJson], .status 503⟩,
    ⟨0, batchBody [missedAtEpochJson], .status 200⟩]
  sent := [([missedAtEpochJson], true)]

private theorem retriedState_reachable :
    (system missedExternals retryingConfig).Reachable retriedState := by
  have h₀ : (system missedExternals retryingConfig).Reachable initial := .init rfl
  have hproduce : produceCheckerResult missedExternals initial missedAtEpoch =
      .ok { initial with
        queue := [missedAtEpochJson], adding := 1, accepted := [missedAtEpochJson] } := rfl
  have h₁ := h₀.step (.produce rfl hproduce)
  have h₂ := h₁.step (.receive rfl (by decide) (by decide : 1 ≤ 10) (by decide))
  have h₃ := h₂.step (.fetchSub rfl)
  have h₄ := h₃.step (.answer (.status 503) rfl rfl)
  have h₅ := h₄.step (.wake rfl)
  exact h₅.step (.answer (.status 200) rfl rfl)

theorem missedExternals_compact (result : CheckResult) (json : Payload)
    (h : missedExternals.toVec result = .ok json) : 10 ∉ json := by
  simp only [missedExternals] at h
  split at h
  · cases h
    decide +kernel
  · cases h

theorem delivered_in_order_retried :
    retriedState.requests.length = 2 ∧
      ∃ n, retriedState.delivered.flatten.splitOn 10 = retriedState.accepted.take n ++ [[]] :=
  ⟨rfl, (delivered_in_order missedExternals_compact rfl retriedState_reachable).2.1 rfl⟩

/-! ## The delay -/

/-- The delay is what it is meant to be, after an attempt with so many retries before it. -/
structure BackOffRight (numOfRetries : UInt32) : Prop where
  noOverflow : baseDelayMs.toNat * 2 ^ (min numOfRetries 63).toNat < 2 ^ 64
  delay : (retryDelay numOfRetries).toNat = min (100 * 2 ^ numOfRetries.toNat) 2000
  mono : retryDelay numOfRetries ≤ retryDelay (numOfRetries + 1)
  base : 100 ≤ retryDelay numOfRetries

/-- How often the batch in hand has been tried. -/
def State.attempts (s : State) : Nat := s.requests.countP (·.batch = s.sent.length)

/-- The worker counts the attempts, and sleeps the delay of the count it had before the last. -/
def Counted (s : State) : Prop :=
  match s.worker with
  | .requesting _ _ n =>
    n = UInt32.ofNat s.attempts ∧ ∀ r ∈ s.requests, r.batch ≤ s.sent.length
  | .sleeping _ _ n delay =>
    (n = UInt32.ofNat s.attempts ∧ ∀ r ∈ s.requests, r.batch ≤ s.sent.length) ∧
      ∃ k, s.attempts = k + 1 ∧ delay = retryDelay (UInt32.ofNat k)
  | _ => ∀ r ∈ s.requests, r.batch < s.sent.length

/-- After `send_batch` has returned, every request is of an earlier batch. -/
private theorem counted_returned {requests : List Request} {batch : List Payload} {ok : Bool}
    (h : ∀ r ∈ requests, r.batch ≤ s.sent.length) :
    Counted { s.returned batch ok with requests := requests } := by
  intro r hr
  have hle := h r hr
  simp only [State.returned, List.length_append, List.length_singleton]
  omega

theorem Counted.step {a : Action} (h : Counted s) (hstep : Step ext conf s a s') :
    Counted s' := by
  cases hstep with
  | produce alive hp =>
    obtain ⟨json, -, -, -, rfl⟩ := produceCheckerResult_eq_ok hp
    exact h
  | fetchAdd hn => exact h
  | dropSender idle => exact h
  | receive phase pos le come =>
    simp only [Counted, phase] at h
    exact h
  | @fetchSub batch phase =>
    simp only [Counted, phase] at h
    have hzero : s.attempts = 0 := by
      rw [State.attempts, List.countP_eq_zero]
      intro r hr
      simp [Nat.ne_of_lt (h r hr)]
    split
    · exact counted_returned fun r hr => Nat.le_of_lt (h r hr)
    · exact ⟨congrArg UInt32.ofNat hzero.symm, fun r hr => Nat.le_of_lt (h r hr)⟩
  | buildError phase hfails =>
    simp only [Counted, phase] at h
    exact counted_returned h.2
  | @answer batch body n answer phase hbuilds =>
    simp only [Counted, phase] at h
    have hle : ∀ r ∈ s.requests ++ [⟨s.sent.length, body, answer⟩], r.batch ≤ s.sent.length := by
      intro r hr
      rcases List.mem_append.mp hr with hr | hr
      · exact h.2 r hr
      · cases List.mem_singleton.mp hr
        exact Nat.le_refl _
    have hattempts : (s.requests ++ [(⟨s.sent.length, body, answer⟩ : Request)]).countP
        (fun r => r.batch = s.sent.length) = s.attempts + 1 := by
      simp [State.attempts]
    split
    · exact counted_returned hle
    · split
      · refine ⟨⟨?_, hle⟩, s.attempts, hattempts, ?_⟩
        · show n + 1 = UInt32.ofNat (List.countP _ _)
          rw [hattempts, h.1, UInt32.ofNat_add]
          rfl
        · rw [h.1]
      · exact counted_returned hle
  | wake phase =>
    simp only [Counted, phase] at h
    exact h.1
  | shutdown phase gone empty =>
    simp only [Counted, phase] at h
    exact h

/-- Whenever the worker sleeps, it sleeps the delay after as many retries as there were. -/
theorem sleeping_delay (hs : (system ext conf).Reachable s) {batch : List Payload}
    {body : List UInt8} {n : UInt32} {delay : UInt64}
    (phase : s.worker = .sleeping batch body n delay) :
    ∃ k, s.attempts = k + 1 ∧ delay = retryDelay (UInt32.ofNat k) := by
  have hcounted : Counted s := by
    refine hs.invariant ?_ ?_
    · intro s hinit
      cases hinit
      exact fun _ hr => (List.not_mem_nil hr).elim
    · intro s a s' h hstep
      exact h.step hstep
  simp only [Counted, phase] at hcounted
  exact hcounted.2

private theorem toNat_min_63 (n : UInt32) : (min n 63).toNat = min n.toNat 63 := by
  by_cases h : n ≤ 63
  · have hle : n.toNat ≤ 63 := UInt32.le_iff_toNat_le.mp h
    rw [show min n 63 = n from if_pos h]
    omega
  · have hlt : ¬n.toNat ≤ 63 := fun hle => h (UInt32.le_iff_toNat_le.mpr hle)
    rw [show min n 63 = 63 from if_neg h]
    show 63 = _
    omega

/-- The delay is right for the first 57 retries, and the multiplication overflows after that. -/
theorem backOff_iff (numOfRetries : UInt32) :
    BackOffRight numOfRetries ↔ numOfRetries.toNat ≤ 57 := by
  constructor
  · intro h
    by_cases hle : numOfRetries.toNat ≤ 57
    · exact hle
    · have hpow : 2 ^ 58 ≤ 2 ^ (min numOfRetries 63).toNat := by
        apply Nat.pow_le_pow_right (by decide)
        rw [toNat_min_63]
        omega
      have hover := h.noOverflow
      rw [show baseDelayMs.toNat = 100 from rfl] at hover
      omega
  · intro hle
    have hall : ∀ k < 58, 100 * 2 ^ (min (UInt32.ofNat k) 63).toNat < 2 ^ 64 ∧
        (retryDelay (UInt32.ofNat k)).toNat = min (100 * 2 ^ (UInt32.ofNat k).toNat) 2000 ∧
        retryDelay (UInt32.ofNat k) ≤ retryDelay (UInt32.ofNat k + 1) ∧
        100 ≤ retryDelay (UInt32.ofNat k) := by
      decide +kernel
    have hn := hall numOfRetries.toNat (by omega)
    rw [UInt32.ofNat_toNat] at hn
    exact ⟨hn.1, hn.2.1, hn.2.2.1, hn.2.2.2⟩

/-- After 62 retries the worker does not wait at all. -/
theorem no_delay_after_sixtyTwo : retryDelay 62 = 0 ∧ ¬BackOffRight 62 := by
  have hzero : retryDelay 62 = 0 := by decide
  refine ⟨hzero, ?_⟩
  intro h
  have hbase := h.base
  rw [hzero] at hbase
  exact absurd hbase (by decide)

end UptimeChecker.VectorProducer
