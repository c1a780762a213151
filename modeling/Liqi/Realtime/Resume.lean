import Liqi.Beam.Client
import Liqi.Database.Handoff
import Liqi.Native.Kernel
import Liqi.Realtime.SessionActor

/-!
# Reading the handoff log

The two readers of the committed log: the dispatcher, which polls it and broadcasts what it finds, and
`Resume.repair`, which reads one page for a session, checks that no id is missing and delivers the events of
the session's keys. Both go through the persistence adapter, which turns the `SQLSTATE` of an error into a
code.
-/

namespace Liqi.Realtime

open Postgres Liqi.Database Liqi.Runtime Liqi.Native Beam

/-! ## The adapter -/

/-- The codes of `Error.from_exception` for the errors that the functions raise. -/
inductive PersistenceCode where
  | idempotencyConflict
  | staleAggregateVersion
  | probeIdentityMismatch
  | realtimeCursorGap
  | uniqueViolation
  | foreignKeyViolation
  | checkViolation
  | databaseError
  deriving DecidableEq

def PersistenceCode.ofSqlState : SqlState → PersistenceCode
  | .idempotencyConflict => .idempotencyConflict
  | .staleAggregateVersion => .staleAggregateVersion
  | .probeIdentityMismatch => .probeIdentityMismatch
  | .realtimeCursorGap => .realtimeCursorGap
  | .uniqueViolation => .uniqueViolation
  | .foreignKeyViolation => .foreignKeyViolation
  | .checkViolation => .checkViolation
  | _ => .databaseError

/-- `raised` is an exception in the caller: no clause for the argument, or a parameter that does not fit its
SQL type. -/
inductive HandoffError where
  | persistence (code : PersistenceCode)
  | raised
  deriving DecidableEq

def maxBigint : Int := 9223372036854775807

def maxInteger : Int := 2147483647

/-- `RuntimeAdapter.read_handoff`, with the parameters `$1::bigint` and `$2::integer`. -/
def readHandoff (db : Db) (afterCursor batchSize : Int) : Except HandoffError (List HandoffEvent) :=
  if afterCursor < -maxBigint - 1 ∨ maxBigint < afterCursor ∨ batchSize < -maxInteger - 1 ∨ maxInteger < batchSize then
    .error .raised
  else match readRealtimeHandoffV1 (some afterCursor) (some batchSize) db with
    | .ok rows => .ok rows
    | .error failure => .error (.persistence (.ofSqlState failure.state))

/-- A row of the log as the event that reaches a session. -/
def eventOfRow (row : HandoffEvent) : Event where
  handoffId := some row.handoffId
  eventId := row.eventId
  content := row.envelope.content

/-! ## The dispatcher -/

inductive PollError where
  | capacity
  | handoff (error : HandoffError)
  deriving DecidableEq

structure Dispatcher where
  cursor : Int
  lastError : Option PollError
  config : RuntimeConfig
  enabled : Bool

/-- A local broadcast of `{:committed_event, event}`. -/
structure Broadcast where
  topic : String
  event : Event
  deriving DecidableEq

namespace Dispatcher

def init (config : RuntimeConfig) (enabled : Bool) : Dispatcher where
  cursor := 0
  lastError := none
  config := config
  enabled := enabled

def broadcast (row : HandoffEvent) : Broadcast where
  topic := topic row.envelope.content.aggregateKey
  event := eventOfRow row

/-- `do_poll`: the reply, the new state and what is broadcast. -/
def doPoll (databaseInUse : Int) (db : Db) (dispatcher : Dispatcher) :
    Except PollError Nat × Dispatcher × List Broadcast :=
  match withPermit dispatcher.config.databaseConcurrency databaseInUse .capacity
      ((readHandoff db dispatcher.cursor dispatcher.config.handoffBatchSize).mapError .handoff) with
  | .ok rows =>
    let cursor := rows.foldl (fun cursor row => max (row.handoffId : Int) cursor) dispatcher.cursor
    (.ok rows.length, { dispatcher with cursor, lastError := none }, rows.map broadcast)
  | .error failure => (.error failure, { dispatcher with lastError := some failure }, [])

end Dispatcher

/-- A read whose arguments are of their types and pass the checks. -/
theorem readHandoff_page {db : Db} {afterCursor batchSize : Int} (start : 0 ≤ afterCursor) (bigint : afterCursor ≤ maxBigint)
    (low : 1 ≤ batchSize) (high : batchSize ≤ 128) : readHandoff db afterCursor batchSize
      = if afterCursor.toNat < db.retainedAfterHandoffId then .error (.persistence .realtimeCursorGap)
        else .ok (db.handoffV1.page afterCursor.toNat batchSize.toNat) := by
  have typed : ¬ (afterCursor < -maxBigint - 1 ∨ maxBigint < afterCursor ∨ batchSize < -maxInteger - 1
      ∨ maxInteger < batchSize) := by
    simp only [maxBigint, maxInteger] at bigint ⊢
    omega
  unfold readHandoff
  rw [if_neg typed, readRealtimeHandoffV1_eq start low high]
  split_ifs <;> rfl

/-- `Dispatcher.gap_read`. -/
def gapRead (db : Db) (afterCursor limit : Int) : Except HandoffError (List HandoffEvent) :=
  if afterCursor < 0 then .error .raised else readHandoff db afterCursor limit

/-! ## Repair -/

inductive RepairError where
  | handoff (error : HandoffError)
  | handoffGap (missing : List SequenceRange)
  | sequenceKernel (error : KernelError)
  | actor (error : CallError)
  | session (reason : SessionError)
  | slowConsumer
  /-- No clause matches the reply. -/
  | raised
  deriving DecidableEq

structure Repair where
  delivered : Nat
  scanned : Nat
  cursor : Int
  deriving DecidableEq

abbrev SessionClient := Client Input Reply

def verifySequenceWindow (node : Node) (rows : List HandoffEvent) (afterCursor : Int) : Except RepairError Unit :=
  match rows.getLast? with
  | none => .ok ()
  | some last =>
    match node.sequenceDiff (rows.map fun row => (row.handoffId : Int)) afterCursor last.handoffId with
    | .ok [] => .ok ()
    | .ok missing => .error (.handoffGap missing)
    | .error failure => .error (.sequenceKernel failure)

/-- `deliver_all`; the readings of the deliveries from `index` on. -/
def deliverAll (readings : Nat → Readings) : Nat → List HandoffEvent → SessionClient (Except RepairError Unit)
  | _, [] => .done (.ok ())
  | index, row :: rest => .call { readings := readings index, message := .deliver (eventOfRow row) } fun
    | .ok (.delivered .ok) => deliverAll readings (index + 1) rest
    | .ok (.delivered .duplicate) => deliverAll readings (index + 1) rest
    | .ok (.delivered .slowConsumer) => .done (.error .slowConsumer)
    | .ok (.error reason) => .done (.error (.session reason))
    | .ok _ => .done (.error .raised)
    | .error failure => .done (.error (.actor failure))

def lastCursor (rows : List HandoffEvent) (fallback : Int) : Int :=
  match rows.getLast? with
  | some row => row.handoffId
  | none => fallback

/-- What the session reads during one repair. -/
structure RepairReadings where
  snapshot : Readings
  deliveries : Nat → Readings

/-- `Resume.repair`. -/
def repair (node : Node) (db : Db) (readings : RepairReadings) (afterCursor : Int) :
    SessionClient (Except RepairError Repair) :=
  match gapRead db afterCursor node.config.sessionQueueCapacity with
  | .error failure => .done (.error (.handoff failure))
  | .ok rows =>
    match verifySequenceWindow node rows afterCursor with
    | .error failure => .done (.error failure)
    | .ok _ => .call { readings := readings.snapshot, message := .snapshot } fun
      | .ok (.snapshot snapshot) =>
        let relevant := rows.filter fun row => row.envelope.content.aggregateKey ∈ snapshot.subscriptions
        (deliverAll readings.deliveries 0 relevant).map fun
          | .ok _ => .ok { delivered := relevant.length, scanned := rows.length, cursor := lastCursor rows afterCursor }
          | .error failure => .error failure
      | .ok (.error reason) => .done (.error (.session reason))
      | .ok _ => .done (.error .raised)
      | .error failure => .done (.error (.actor failure))

/-- `ActorRouter.call` makes its calls while the mailbox is shorter than the limit. -/
def admits (config : RuntimeConfig) (mailbox : Int) : Bool := mailbox < config.actorMailboxReject

/-- A client against a session whose mailbox has `mailbox` messages. -/
def callSession {α : Type} (encodedBytes : Frame → Nat) (config : RuntimeConfig) (mailbox : Int)
    (client : SessionClient α) (session : Option Session) : Exchange Session Input Effect α :=
  client.exec (Session.handle encodedBytes) (admits config mailbox) session

end Liqi.Realtime
