import Liqi.Database.Retention
import Liqi.Realtime.Resume

/-!
# The outbox worker

A poll of `OutboxWorker` claims up to ten events for thirty seconds and processes them one after the other. It
applies the effect of an event whose type it knows, and reports any other as failed, to be retried five seconds later.
Every database call is a transaction of its own; `ProcessReadings.others` is what others commit in between.
-/

namespace Liqi.Runtime

open Postgres Liqi.Database Liqi.Realtime

/-- `@consumer_id`. -/
def workerId : String := "liqi-beam-platform-probe-v1"

/-- What the worker finds when it gets to an event: what others have committed since its last call, its own clock, and
the clock of the database. -/
structure ProcessReadings where
  others : List RetentionStep
  utcNow : Timestamp
  database : Timestamp

/-- What a poll draws from outside: whether the budget has a permit, what the claim reads, and the readings for each
event. -/
structure PollReadings where
  permit : Bool
  clock : ClaimClock
  token : Uuid → Uuid
  skipped : Uuid → Bool
  event : Uuid → ProcessReadings

inductive WorkerError where
  | capacity
  | persistence (code : PersistenceCode)
  deriving DecidableEq

structure WorkerState where
  enabled : Bool
  lastError : Option WorkerError

/-- `RuntimeAdapter.claim_probe_events`. -/
def PollReadings.claim (readings : PollReadings) (consumerId : String) (batchSize : Int) : Claim where
  consumerId := some consumerId
  batchSize := some batchSize
  leaseSeconds := some 30
  clock := readings.clock
  token := readings.token
  skipped := readings.skipped

/-- The answer to a query, and the database after it. -/
def query {α : Type} (result : Except SqlError (α × Db)) (db : Db) : Except WorkerError α × Db :=
  match result with
  | .ok (answer, db') => (.ok answer, db')
  | .error e => (.error (.persistence (.ofSqlState e.state)), db)

def applyProbeEffect (now : Timestamp) (eventId claimToken : Uuid) (consumerId : String) (db : Db) :
    Except WorkerError OutboxStatus × Db :=
  query (applyProbeEffectAndAckV1 now (some eventId) (some claimToken) (some consumerId) db) db

def failEvent (now : Timestamp) (eventId claimToken : Uuid) (consumerId errorCode : String) (retryAt : Timestamp)
    (db : Db) : Except WorkerError OutboxStatus × Db :=
  query (failOutboxV1 now (some eventId) (some claimToken) (some consumerId) (some errorCode) (some retryAt) db) db

def process (readings : ProcessReadings) (event : ClaimedEvent) (db : Db) : Except WorkerError OutboxStatus × Db :=
  if event.envelope.content.eventType = "platform.probe.requested.v1" then
    applyProbeEffect readings.database event.eventId event.claimToken workerId db
  else
    failEvent readings.database event.eventId event.claimToken workerId "unsupported.event"
      (readings.utcNow + 5 * 1000000) db

/-- `Enum.map(events, &process/1)`. -/
def processAll (readings : Uuid → ProcessReadings) :
    List ClaimedEvent → Db → List (Except WorkerError OutboxStatus) × Db
  | [], db => ([], db)
  | event :: events, db =>
    let found := (readings event.eventId).others.foldl RetentionStep.after db
    let (outcome, db₁) := process (readings event.eventId) event found
    let (outcomes, db₂) := processAll readings events db₁
    (outcome :: outcomes, db₂)

def doPoll (readings : PollReadings) (state : WorkerState) (db : Db) :
    Except WorkerError (List (Except WorkerError OutboxStatus)) × WorkerState × Db :=
  if readings.permit then
    match query (claimOutboxV1 (readings.claim workerId 10) db) db with
    | (.ok events, db₁) =>
      let (outcomes, db₂) := processAll readings.event events db₁
      (.ok outcomes, { state with lastError := none }, db₂)
    | (.error reason, db₁) => (.error reason, { state with lastError := some reason }, db₁)
  else (.error .capacity, { state with lastError := some .capacity }, db)

/-! ## Runs -/

/-- The worker and the database it works on. -/
structure Deployment where
  worker : WorkerState
  db : Db

inductive WorkerStep where
  | poll (readings : PollReadings)
  | other (step : RetentionStep)

def WorkerStep.after (deployment : Deployment) : WorkerStep → Deployment
  | .poll readings =>
    let (_, worker, db) := doPoll readings deployment.worker deployment.db
    ⟨worker, db⟩
  | .other step => { deployment with db := step.after deployment.db }

/-- The deployment before step `n` of a run. -/
def stateAt (start : Deployment) (run : Nat → WorkerStep) : Nat → Deployment
  | 0 => start
  | n + 1 => (run n).after (stateAt start run n)

end Liqi.Runtime
