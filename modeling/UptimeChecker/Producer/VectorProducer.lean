import UptimeChecker.Lib.Transition
import UptimeChecker.Types.Result

/-!
# The vector producer

Results are serialised and put on a channel by whoever produces them. One worker takes them off in
batches and posts each batch as one body, a line for each result, and does so again and again if it
is told to retry. A counter of pending items is kept next to the channel: a producer adds to it
after it has sent, the worker subtracts from it after it has received.

Each step is one task going from one of its awaits, or of its operations on what is shared, to the
next. The metrics are left out, and so are the stats of the requests, which only they read.
-/

namespace UptimeChecker

/-- `ExtractCodeError`, with the texts of its sources. -/
inductive ExtractCodeError where
  | serialization (msg : String)
  | schema (msg : String)
  | vectorError (msg : String)
deriving DecidableEq, Repr

namespace VectorProducer

abbrev Payload := List UInt8

/-- What `produce_checker_result` calls. -/
structure Externals where
  /-- `serde_json::to_vec`. -/
  toVec : CheckResult → Except String Payload
  /-- `Schema::validate_json`. -/
  validateJson : Payload → Except String Unit

structure VectorRequestWorkerConfig where
  vectorBatchSize : Nat
  retryVectorErrorsForever : Bool
  /-- Whether a request to the endpoint can be built. -/
  requestBuilds : Bool

/-- What a request comes to: an error on the way, or a status. -/
inductive Answer where
  | transportError
  | status (code : UInt16)
deriving DecidableEq, Repr

/-- `Ok(resp) if !resp.status().is_server_error()`. -/
def Answer.isAccepted : Answer → Bool
  | transportError => false
  | status code => !(500 ≤ code && code < 600)

/-! ## Sending a batch -/

def baseDelayMs : UInt64 := 100

def maxDelayMs : UInt64 := 2000

/-- The delay in milliseconds after an attempt that has had so many retries before it. The
multiplication wraps, as it does in a release build. -/
def retryDelay (numOfRetries : UInt32) : UInt64 :=
  min (baseDelayMs * UInt64.ofNat (2 ^ (min numOfRetries 63).toNat)) maxDelayMs

/-- The body of a batch: each payload with a newline after it. -/
def batchBody (batch : List Payload) : List UInt8 :=
  batch.foldl (fun body s => body ++ s ++ [10]) []

/-- Where the worker is. The batch that `send_batch` has drained into a body is kept beside it. -/
inductive Worker where
  /-- Waiting for the next batch. -/
  | waiting
  /-- It has a batch, and is about to take it off the counter. -/
  | received (batch : List Payload)
  /-- At the top of the loop of `send_batch`. -/
  | requesting (batch : List Payload) (body : List UInt8) (numOfRetries : UInt32)
  | sleeping (batch : List Payload) (body : List UInt8) (numOfRetries : UInt32) (delay : UInt64)
  | shutdown
deriving DecidableEq, Repr

/-- A request of the `batch`-th batch. -/
structure Request where
  batch : Nat
  body : List UInt8
  answer : Answer
deriving DecidableEq, Repr

/-- The shared state and the worker. `adding` counts the producers between their send and their
addition. The last three fields only record what has happened: the payloads sent, the requests, and
the batches for which `send_batch` has returned, with whether it returned `Ok`. -/
structure State where
  queue : List Payload
  senderAlive : Bool
  adding : Nat
  pendingItems : UInt64
  worker : Worker
  accepted : List Payload
  requests : List Request
  sent : List (List Payload × Bool)
deriving DecidableEq, Repr

def initial : State := ⟨[], true, 0, 0, .waiting, [], [], []⟩

variable (ext : Externals) (conf : VectorRequestWorkerConfig)

/-- `produce_checker_result` up to the addition. The channel is closed once the worker is gone. -/
def produceCheckerResult (s : State) (result : CheckResult) : Except ExtractCodeError State := do
  let json ← (ext.toVec result).mapError .serialization
  (ext.validateJson json).mapError .schema
  if s.worker = .shutdown then .error (.vectorError "send failed channel closed")
  else
    .ok { s with
      queue := s.queue ++ [json]
      adding := s.adding + 1
      accepted := s.accepted ++ [json] }

/-- `send_batch` returns: the worker goes on to the next batch. -/
def State.returned (s : State) (batch : List Payload) (ok : Bool) : State :=
  { s with worker := .waiting, sent := s.sent ++ [(batch, ok)] }

/-- The names of the steps. -/
inductive Action where
  | produce | fetchAdd | dropSender
  | receive | fetchSub | buildError | answer | wake | shutdown
deriving DecidableEq, Repr

/-- One step of a producer or of the worker. -/
inductive Step (s : State) : Action → State → Prop where
  /-- A result is put on the channel. -/
  | produce {result : CheckResult} {s' : State} (alive : s.senderAlive = true)
      (h : produceCheckerResult ext s result = .ok s') : Step s .produce s'
  /-- A producer that has sent adds to the counter. -/
  | fetchAdd {n : Nat} (h : s.adding = n + 1) :
      Step s .fetchAdd { s with adding := n, pendingItems := s.pendingItems + 1 }
  /-- The producer is dropped, when no call of it is under way. -/
  | dropSender (idle : s.adding = 0) : Step s .dropSender { s with senderAlive := false }
  /-- `chunks_timeout` hands the worker what has come, a batch at most. -/
  | receive {n : Nat} (phase : s.worker = .waiting) (pos : 0 < n) (le : n ≤ conf.vectorBatchSize)
      (come : n ≤ s.queue.length) :
      Step s .receive
        { s with worker := .received (s.queue.take n), queue := s.queue.drop n }
  /-- The worker subtracts the batch from the counter and calls `send_batch`. -/
  | fetchSub {batch : List Payload} (phase : s.worker = .received batch) :
      Step s .fetchSub
        { (if batch.isEmpty then s.returned batch true
          else { s with worker := .requesting batch (batchBody batch) 0 }) with
          pendingItems := s.pendingItems - UInt64.ofNat batch.length }
  /-- The request cannot be built: `send_batch` returns the error. -/
  | buildError {batch : List Payload} {body : List UInt8} {numOfRetries : UInt32}
      (phase : s.worker = .requesting batch body numOfRetries) (h : conf.requestBuilds = false) :
      Step s .buildError (s.returned batch false)
  /-- The request is answered: done, or a retry after the delay, or the error. -/
  | answer {batch : List Payload} {body : List UInt8} {numOfRetries : UInt32} (answer : Answer)
      (phase : s.worker = .requesting batch body numOfRetries) (h : conf.requestBuilds = true) :
      Step s .answer
        { (if answer.isAccepted then s.returned batch true
          else if conf.retryVectorErrorsForever then
            { s with worker := .sleeping batch body (numOfRetries + 1) (retryDelay numOfRetries) }
          else s.returned batch false) with
          requests := s.requests ++ [⟨s.sent.length, body, answer⟩] }
  /-- The delay is over. -/
  | wake {batch : List Payload} {body : List UInt8} {numOfRetries : UInt32} {delay : UInt64}
      (phase : s.worker = .sleeping batch body numOfRetries delay) :
      Step s .wake { s with worker := .requesting batch body numOfRetries }
  /-- The stream is at its end. -/
  | shutdown (phase : s.worker = .waiting) (gone : s.senderAlive = false) (empty : s.queue = []) :
      Step s .shutdown { s with worker := .shutdown }

/-- Producers and worker, interleaved. -/
def system : Transition State Action where
  init s := s = initial
  step := Step ext conf

end VectorProducer

end UptimeChecker
