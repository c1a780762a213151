import Liqi.Database.Retention
import Liqi.V0.ProbeCreation
import Liqi.V0.RealtimeReader

/-!
# The V0 probe worker

`run_once` claims a batch, decodes all of it or fails, and hands each delivery to a future that applies the probe's
effect and acknowledges the event in one transaction, or schedules a retry. The futures run in a buffer of bounded
size; which of them makes progress next, and what others commit in between, is given by a list of turns.
-/

namespace Liqi.V0

open Postgres Liqi.Database

/-! ### Durations and retries -/

/-- `Duration`, in nanoseconds. -/
abbrev Duration := Nat

def durationMax : Duration := 18446744073709551615 * 1000000000 + 999999999

def outboxLease : Duration := 30 * 1000000000

def outboxMaxAttempts : Nat := 8

def outboxClaimBatchMax : Nat := 50

def probeConsumer : String := "liqi-platform-probe-worker-v0"

/-- Exponential, capped, and less a jitter that the first two bytes of the event id choose. -/
def retryDelay (base maximum : Duration) (attempt : Nat) (eventId : Uuid) : Duration :=
  let exponent := min (attempt - 1) 16
  let exponential := min (base * 2 ^ exponent) durationMax
  let capped := min exponential maximum
  let jitterWindowMs := max (capped / 1000000 / 5) 1
  let seed := match eventId.bytes with
    | first :: second :: _ => first.val * 256 + second.val
    | _ => 0
  let jitterMs := seed % jitterWindowMs
  capped - jitterMs * 1000000

structure OutboxRetry where
  attempt : Nat
  maxAttempts : Nat
  delay : Duration
  reasonCode : String

def OutboxRetry.validate (retry : OutboxRetry) : Except PersistenceError Unit :=
  if retry.attempt = 0 ∨ retry.maxAttempts ≠ outboxMaxAttempts ∨ retry.maxAttempts < retry.attempt
      ∨ 60 * 1000000000 < retry.delay ∨ retry.reasonCode = "" ∨ 64 < retry.reasonCode.utf8ByteSize then
    .error .invalidOperation
  else .ok ()

/-! ### `PostgresAuthorityStore` -/

structure OutboxClaimRequest where
  consumer : String
  eventTypes : List String
  batchSize : Nat
  leaseFor : Duration

def OutboxClaimRequest.validate (request : OutboxClaimRequest) : Except PersistenceError Unit :=
  if request.consumer = "" ∨ 128 < request.consumer.utf8ByteSize ∨ request.eventTypes = []
      ∨ 16 < request.eventTypes.length ∨ request.batchSize = 0 ∨ outboxClaimBatchMax < request.batchSize
      ∨ request.leaseFor ≠ outboxLease then
    .error .invalidOperation
  else .ok ()

structure OutboxDelivery where
  claimToken : Uuid
  attempt : Nat
  event : EventEnvelope
  deriving DecidableEq

def mapClaimedRow (row : ClaimedEvent) : Except PersistenceError OutboxDelivery :=
  match mapEventRow row.eventId row.envelope.content with
  | .error e => .error e
  | .ok event => .ok ⟨row.claimToken, row.attemptNo, event⟩

/-- What a claim reads besides its arguments: the database's clock, the tokens it draws, the rows that others have
locked. -/
structure ClaimReadings where
  clock : ClaimClock
  token : Uuid → Uuid
  skipped : Uuid → Bool

def ClaimReadings.claim (readings : ClaimReadings) (consumer : String) (batch leaseSeconds : Int) : Claim :=
  ⟨some consumer, some batch, some leaseSeconds, readings.clock, readings.token, readings.skipped⟩

/-- The clocks of a future's call: the worker's own and the database's. -/
structure JobReadings where
  utcNow : OffsetDateTime
  database : Timestamp

namespace PostgresAuthorityStore

/-- The rows are leased before any of them is decoded, and one that does not decode fails the whole claim. -/
def claim (readings : ClaimReadings) (request : OutboxClaimRequest) (db : Db) :
    Except PersistenceError (List OutboxDelivery) × Db :=
  match request.validate with
  | .error e => (.error e, db)
  | .ok () =>
    if request.eventTypes ≠ [platformProbeEvent] then (.error .invalidOperation, db)
    else match batchI32 request.batchSize, batchI32 (request.leaseFor / 1000000000) with
      | .ok batchSize, .ok leaseSeconds =>
        match claimOutboxV0 (readings.claim request.consumer batchSize leaseSeconds) db with
        | .error e => (.error (mapSqlx e), db)
        | .ok (rows, db) => (rows.mapM mapClaimedRow, db)
      | _, _ => (.error .invalidOperation, db)

def retry (readings : JobReadings) (eventId claim : Uuid) (consumerId : String) (retry : OutboxRetry) (db : Db) :
    Except PersistenceError Unit × Db :=
  match retry.validate with
  | .error e => (.error e, db)
  | .ok () =>
    match failOutboxV0 readings.database (some eventId) (some claim) (some consumerId) (some retry.reasonCode)
        (some (toTimestamp (readings.utcNow + retry.delay))) db with
    | .error e => (.error (mapSqlx e), db)
    | .ok (status, db) => match status with
      | .retryScheduled | .deadLettered | .alreadyDeadLettered | .alreadySucceeded => (.ok (), db)
      | .staleClaim => (.error .conflict, db)
      | .notFound => (.error .invalidOperation, db)
      | _ => (.error .internal, db)

end PostgresAuthorityStore

inductive ProbeEffectAckOutcome where
  | appliedAndAcknowledged
  | alreadyAcknowledged
  | leaseLost
  | terminalWithoutEffect
  deriving DecidableEq

def PostgresAuthorityStore.applyProbeEffectAndAck (readings : JobReadings) (eventId claim : Uuid) (consumerId : String)
    (db : Db) : Except PersistenceError ProbeEffectAckOutcome × Db :=
  match applyProbeEffectAndAckV0 readings.database (some eventId) (some claim) (some consumerId) db with
  | .error e => (.error (mapSqlx e), db)
  | .ok (status, db) => match status with
    | .acked => (.ok .appliedAndAcknowledged, db)
    | .alreadySucceeded => (.ok .alreadyAcknowledged, db)
    | .staleClaim => (.ok .leaseLost, db)
    | .alreadyDeadLettered => (.ok .terminalWithoutEffect, db)
    | .notFound | .unsupportedEvent => (.error .invalidOperation, db)
    | _ => (.error .internal, db)

/-! ### `PlatformProbeWorker` -/

structure PlatformProbeWorker where
  claimBatch : Nat
  retryBase : Duration
  retryMax : Duration
  concurrency : Nat
  consumerId : String
  batch_bounds : 1 ≤ claimBatch ∧ claimBatch ≤ 50
  concurrent : 1 ≤ concurrency
  identified : consumerId ≠ "" ∧ consumerId.utf8ByteSize ≤ 128

def PlatformProbeWorker.build (claimBatch : Nat) (retryBase retryMax : Duration) (concurrency : Nat) (consumerId : String)
    (identified : consumerId ≠ "" ∧ consumerId.utf8ByteSize ≤ 128) : PlatformProbeWorker where
  claimBatch := max 1 (min claimBatch 50)
  retryBase
  retryMax
  concurrency := max concurrency 1
  consumerId
  batch_bounds := by omega
  concurrent := by omega
  identified

def PlatformProbeWorker.new (claimBatch : Nat) (retryBase retryMax : Duration) (concurrency : Nat) : PlatformProbeWorker :=
  .build claimBatch retryBase retryMax concurrency probeConsumer (by decide)

def PlatformProbeWorker.tryWithConsumerId (claimBatch : Nat) (retryBase retryMax : Duration) (concurrency : Nat)
    (consumerId : String) : Except ApplicationError PlatformProbeWorker :=
  if refused : consumerId = "" ∨ 128 < consumerId.utf8ByteSize then .error .invalidRequest
  else .ok (.build claimBatch retryBase retryMax concurrency consumerId
    ⟨fun empty => refused (.inl empty), Nat.le_of_not_lt fun long => refused (.inr long)⟩)

inductive DeliveryOutcome where
  | retried
  | applied
  | duplicate
  | leaseLost
  | terminal
  deriving DecidableEq

/-- `extract_probe_id`; `parseStr` is `Uuid::parse_str`. -/
def extractProbeId (parseStr : String → Option Uuid) (payload : Jsonb) : Option Uuid :=
  match payload with
  | .object members => match members.lookup "probeId" with
    | some (.string text) => parseStr text
    | _ => none
  | _ => none

/-- A future of `process_delivery`, between two of its calls. -/
inductive Job where
  | starting (delivery : OutboxDelivery)
  | retrying (delivery : OutboxDelivery)

def Job.delivery : Job → OutboxDelivery
  | .starting delivery => delivery
  | .retrying delivery => delivery

/-- A future that goes on, or its result. -/
inductive Progress where
  | pending (job : Job)
  | ready (result : Except ApplicationError DeliveryOutcome)

section Worker

variable (parseStr : String → Option Uuid) (worker : PlatformProbeWorker)

def PlatformProbeWorker.retryDelivery (readings : JobReadings) (delivery : OutboxDelivery) (reasonCode : String) (db : Db) :
    Progress × Db :=
  let retry : OutboxRetry :=
    ⟨delivery.attempt, outboxMaxAttempts,
      retryDelay worker.retryBase worker.retryMax delivery.attempt delivery.event.eventId, reasonCode⟩
  match PostgresAuthorityStore.retry readings delivery.event.eventId delivery.claimToken worker.consumerId retry db with
  | (.ok (), db) => (.ready (.ok .retried), db)
  | (.error e, db) => (.ready (.error e.toApplication), db)

/-- `process_delivery` up to the end of its next call. -/
def PlatformProbeWorker.processDelivery (readings : JobReadings) (job : Job) (db : Db) : Progress × Db :=
  match job with
  | .starting delivery => match extractProbeId parseStr delivery.event.payload with
    | none => worker.retryDelivery readings delivery "invalid_probe_payload" db
    | some _ =>
      match PostgresAuthorityStore.applyProbeEffectAndAck readings delivery.event.eventId delivery.claimToken
          worker.consumerId db with
      | (.ok .appliedAndAcknowledged, db) => (.ready (.ok .applied), db)
      | (.ok .alreadyAcknowledged, db) => (.ready (.ok .duplicate), db)
      | (.ok .leaseLost, db) => (.ready (.ok .leaseLost), db)
      | (.ok .terminalWithoutEffect, db) => (.ready (.ok .terminal), db)
      | (.error .conflict, db) => (.ready (.ok .leaseLost), db)
      | (.error _, db) => (.pending (.retrying delivery), db)
  | .retrying delivery => worker.retryDelivery readings delivery "probe_effect_failed" db

/-- The deliveries that wait for a place in the buffer, the futures in it, and the results so far. -/
structure Pool where
  queued : List OutboxDelivery
  active : List Job
  outcomes : List (Except ApplicationError DeliveryOutcome)

/-- The buffer is filled up to its size. -/
def Pool.fill (limit : Nat) (pool : Pool) : Pool :=
  let room := limit - pool.active.length
  { pool with queued := pool.queued.drop room, active := pool.active ++ (pool.queued.take room).map .starting }

/-- The future at a place of the buffer makes a call. -/
def PlatformProbeWorker.poll (index : Nat) (readings : JobReadings) (state : Pool × Db) : Pool × Db :=
  let pool := state.1.fill worker.concurrency
  match pool.active[index]? with
  | none => (pool, state.2)
  | some job => match worker.processDelivery parseStr readings job state.2 with
    | (.pending job, db) => ({ pool with active := pool.active.set index job }, db)
    | (.ready result, db) =>
      ({ pool with active := pool.active.eraseIdx index, outcomes := pool.outcomes ++ [result] }, db)

/-- Whose turn it is: a future's of the buffer, or somebody else's at the database. -/
inductive Turn where
  | job (index : Nat) (readings : JobReadings)
  | others (step : RetentionStep)

def PlatformProbeWorker.turn (state : Pool × Db) : Turn → Pool × Db
  | .job index readings => worker.poll parseStr index readings state
  | .others step => (state.1, step.after state.2)

/-- What is left in the buffer runs to its end. -/
def PlatformProbeWorker.finish (rest : Nat → JobReadings) : Nat → Pool × Db → Pool × Db
  | 0, state => state
  | n + 1, state => PlatformProbeWorker.finish rest n (worker.poll parseStr 0 (rest n) state)

structure ProbeWorkerOutcome where
  claimed : Nat
  acknowledged : Nat
  retried : Nat
  applied : Nat
  duplicates : Nat
  leaseLost : Nat
  terminalWithoutEffect : Nat
  deriving DecidableEq

def ProbeWorkerOutcome.count (outcome : ProbeWorkerOutcome) : DeliveryOutcome → ProbeWorkerOutcome
  | .retried => { outcome with retried := outcome.retried + 1 }
  | .applied => { outcome with acknowledged := outcome.acknowledged + 1, applied := outcome.applied + 1 }
  | .duplicate => { outcome with acknowledged := outcome.acknowledged + 1, duplicates := outcome.duplicates + 1 }
  | .leaseLost => { outcome with leaseLost := outcome.leaseLost + 1 }
  | .terminal => { outcome with terminalWithoutEffect := outcome.terminalWithoutEffect + 1 }

/-- The readings of one `run_once`: those of its claim, the turns of its futures, and the calls left after them. -/
structure RunReadings where
  claim : ClaimReadings
  turns : List Turn
  rest : Nat → JobReadings

def PlatformProbeWorker.request : OutboxClaimRequest :=
  ⟨worker.consumerId, [platformProbeEvent], worker.claimBatch, outboxLease⟩

/-- The futures of a batch, run to their ends; each of them makes two calls at most. -/
def PlatformProbeWorker.processAll (readings : RunReadings) (deliveries : List OutboxDelivery) (db : Db) : Pool × Db :=
  worker.finish parseStr readings.rest (2 * deliveries.length)
    (readings.turns.foldl (worker.turn parseStr) (⟨deliveries, [], []⟩, db))

def PlatformProbeWorker.runOnce (readings : RunReadings) (db : Db) : Except ApplicationError ProbeWorkerOutcome × Db :=
  match PostgresAuthorityStore.claim readings.claim worker.request db with
  | (.error e, db) => (.error e.toApplication, db)
  | (.ok deliveries, db) =>
    let (pool, db) := worker.processAll parseStr readings deliveries db
    (pool.outcomes.foldlM (fun outcome result => result.map outcome.count) ⟨deliveries.length, 0, 0, 0, 0, 0, 0⟩, db)

/-- One step of a run: a `run_once`, or something that others do. -/
inductive WorkerStep where
  | runOnce (readings : RunReadings)
  | other (step : RetentionStep)

def WorkerStep.after (step : WorkerStep) (db : Db) : Db :=
  match step with
  | .runOnce readings => (worker.runOnce parseStr readings db).2
  | .other step => step.after db

/-- The database before step `n` of a run. -/
def stateAt (start : Db) (run : Nat → WorkerStep) : Nat → Db
  | 0 => start
  | n + 1 => (run n).after parseStr worker (stateAt start run n)

end Worker

end Liqi.V0
