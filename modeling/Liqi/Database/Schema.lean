import Liqi.Postgres.Jsonb
import Liqi.Postgres.Logic
import Liqi.Postgres.Program
import Liqi.Postgres.Table
import Liqi.Postgres.Uuid

/-!
# The `platform` schema

The tables of the outbox, the probe and the realtime handoff after the last migration, with their
`CHECK` constraints. The producer columns of an outbox event and of its two handoff copies are one
record, `Envelope`, which carries the proof of its constraints: a row that violates one cannot be
stored. The state columns of an event are one inductive type, since the table's last `CHECK` allows
no other combination of them.
-/

namespace Liqi.Database

open Postgres

/-- Microseconds since the epoch. -/
abbrev Timestamp := Int

/-- The `SQLSTATE` values that the functions raise or let through. -/
inductive SqlState where
  | numericValueOutOfRange
  | invalidParameterValue
  | invalidTextRepresentation
  | notNullViolation
  | foreignKeyViolation
  | uniqueViolation
  | checkViolation
  | featureNotSupported
  | idempotencyConflict
  | staleAggregateVersion
  | probeIdentityMismatch
  | realtimeCursorGap
  deriving DecidableEq

def SqlState.code : SqlState → String
  | .numericValueOutOfRange => "22003"
  | .invalidParameterValue => "22023"
  | .invalidTextRepresentation => "22P02"
  | .notNullViolation => "23502"
  | .foreignKeyViolation => "23503"
  | .uniqueViolation => "23505"
  | .checkViolation => "23514"
  | .featureNotSupported => "0A000"
  | .idempotencyConflict => "LQ001"
  | .staleAggregateVersion => "LQ002"
  | .probeIdentityMismatch => "LQ003"
  | .realtimeCursorGap => "LQ004"

/-- A raised error. For a constraint of a table, `message` is the constraint or column. -/
structure SqlError where
  state : SqlState
  message : String
  detail : Option Jsonb
  deriving DecidableEq

namespace SqlError

def invalidParameter (message : String) : SqlError := ⟨.invalidParameterValue, message, none⟩

def notNull (column : String) : SqlError := ⟨.notNullViolation, column, none⟩

def check (constraint : String) : SqlError := ⟨.checkViolation, constraint, none⟩

def unique (constraint : String) : SqlError := ⟨.uniqueViolation, constraint, none⟩

end SqlError

/-- A `NOT NULL` column. -/
def notNull {α : Type} (column : String) : Option α → Except SqlError α
  | some a => .ok a
  | none => .error (.notNull column)

/-- `text ~ '^[first][rest]{low,high}$'`. -/
def matchesHead (first rest : Char → Bool) (low high : Nat) (text : String) : Bool :=
  match text.toList with
  | [] => false
  | c :: cs => first c && low ≤ cs.length && cs.length ≤ high && cs.all rest

/-- `text ~ '^[allowed]{low,high}$'`. -/
def matchesAll (allowed : Char → Bool) (low high : Nat) (text : String) : Bool :=
  low ≤ text.toList.length && text.toList.length ≤ high && text.toList.all allowed

def isLowerOrDigit (c : Char) : Bool := c.isLower || c.isDigit

/-- `length(text) BETWEEN low AND high`. -/
def lengthBetween (low high : Nat) (text : String) : Bool :=
  low ≤ text.toList.length && text.toList.length ≤ high

inductive Priority where
  | durable
  | realtime
  | ephemeral
  | telemetry
  deriving DecidableEq

def Priority.ofText : String → Option Priority
  | "durable" => some .durable
  | "realtime" => some .realtime
  | "ephemeral" => some .ephemeral
  | "telemetry" => some .telemetry
  | _ => none

/-- The producer columns of an event; they never change once inserted. -/
structure EventContent where
  schemaVersion : Int
  protocolVersion : Int
  eventType : String
  eventVersion : Int
  occurredAt : Timestamp
  producer : String
  correlationId : Option Uuid
  causationId : Option Uuid
  aggregateKey : String
  orderingKey : String
  traceContext : Jsonb
  deadlineAt : Option Timestamp
  priority : Priority
  payload : Jsonb
  metadata : Jsonb
  deriving DecidableEq

/-- The first `CHECK` of `outbox_events` that the columns violate. -/
def EventContent.violation (c : EventContent) : Option String :=
  if c.schemaVersion ≠ 0 then some "outbox_events_schema_version_check"
  else if !matchesHead Char.isLower (fun ch => isLowerOrDigit ch || ch == '_' || ch == '.' || ch == '-') 2 127 c.eventType then
    some "outbox_events_event_type_check"
  else if c.eventVersion < 0 then some "outbox_events_event_version_check"
  else if !("liqi-".toList.isPrefixOf c.producer.toList
      && matchesAll (fun ch => isLowerOrDigit ch || ch == '-') 2 48 (String.ofList (c.producer.toList.drop 5))) then
    some "outbox_events_producer_check"
  else if !lengthBetween 1 160 c.aggregateKey then some "outbox_events_aggregate_key_check"
  else if !lengthBetween 1 128 c.orderingKey then some "outbox_events_ordering_key_check"
  else if !c.payload.isObject then some "outbox_events_payload_check"
  else if !(c.metadata.isObject && c.metadata.octetLength ≤ 4096) then some "outbox_events_metadata_check"
  else if c.protocolVersion < 0 ∨ 1 < c.protocolVersion then some "outbox_events_protocol_version_v1_check"
  else if !(c.traceContext.isObject && c.traceContext.octetLength ≤ 2048) then
    some "outbox_events_trace_context_v1_check"
  else if c.deadlineAt.any (· < c.occurredAt) then some "outbox_events_deadline_v1_check"
  else if 65536 < c.payload.octetLength then some "outbox_events_payload_size_v1_check"
  else none

/-- Columns that pass every constraint. -/
structure Envelope where
  content : EventContent
  checked : content.violation = none
  deriving DecidableEq

/-- The columns `state`, `claim_token`, `claimed_by`, `lease_expires_at`, `completed_at` and
`dead_lettered_at`. -/
inductive EventState where
  | pending
  | processing (claimToken : Uuid) (claimedBy : String) (leaseExpiresAt : Timestamp)
  | succeeded (completedAt : Timestamp)
  | deadLetter (deadLetteredAt : Timestamp)
  deriving DecidableEq

/-- `outbox_events`. -/
structure OutboxEvent where
  eventId : Uuid
  envelope : Envelope
  state : EventState
  availableAt : Timestamp
  attemptCount : Nat
  maxAttempts : Nat
  lastErrorCode : Option String
  deriving DecidableEq

namespace OutboxEvent

def isProcessing (event : OutboxEvent) : Bool :=
  match event.state with
  | .processing .. => true
  | _ => false

def claimToken (event : OutboxEvent) : Option Uuid :=
  match event.state with
  | .processing token _ _ => some token
  | _ => none

def claimedBy (event : OutboxEvent) : Option String :=
  match event.state with
  | .processing _ consumer _ => some consumer
  | _ => none

/-- `state = 'processing' AND lease_expires_at <= now`. -/
def leaseExpired (event : OutboxEvent) (now : Timestamp) : Bool :=
  match event.state with
  | .processing _ _ lease => lease ≤ now
  | _ => false

end OutboxEvent

inductive AttemptOutcome where
  | succeeded
  | retry
  | deadLetter
  | leaseExpired
  deriving DecidableEq

/-- `outbox_attempts`; `finished` is `finished_at` with `outcome`, which are set together. -/
structure OutboxAttempt where
  eventId : Uuid
  attemptNo : Nat
  claimToken : Uuid
  consumerId : String
  claimedAt : Timestamp
  leaseExpiresAt : Timestamp
  finished : Option (Timestamp × AttemptOutcome)
  errorCode : Option String
  deriving DecidableEq

def OutboxAttempt.key (attempt : OutboxAttempt) : Uuid × Nat := (attempt.eventId, attempt.attemptNo)

inductive ProbeStatus where
  | requested
  | completed (completedAt : Timestamp)
  deriving DecidableEq

/-- `probe_state_v0`. -/
structure ProbeState where
  probeId : Uuid
  requestedEventId : Uuid
  status : ProbeStatus
  requestedAt : Timestamp
  aggregateVersion : Nat
  deriving DecidableEq

/-- `probe_effects_v0`. -/
structure ProbeEffect where
  eventId : Uuid
  probeId : Uuid
  appliedAt : Timestamp
  deriving DecidableEq

/-- `realtime_handoff_events_v0` and `realtime_handoff_events_v1`. -/
structure HandoffEvent where
  handoffId : Nat
  eventId : Uuid
  envelope : Envelope
  recordedAt : Timestamp
  deriving DecidableEq

/-- A handoff log and the singleton row that counts it. -/
structure HandoffLog where
  lastHandoffId : Nat
  events : Table HandoffEvent.handoffId
  deriving DecidableEq

inductive Version where
  | v0
  | v1
  deriving DecidableEq

/-- `command_idempotency_v1`. -/
structure IdempotencyRecord where
  scope : String
  idempotencyKey : String
  requestFingerprint : String
  aggregateKey : String
  aggregateVersion : Nat
  eventId : Uuid
  outcome : Jsonb
  completedAt : Timestamp
  expiresAt : Timestamp
  deriving DecidableEq

def IdempotencyRecord.key (record : IdempotencyRecord) : String × String := (record.scope, record.idempotencyKey)

structure Db where
  outboxEvents : Table OutboxEvent.eventId
  outboxAttempts : Table OutboxAttempt.key
  probeState : Table ProbeState.probeId
  probeEffects : Table ProbeEffect.eventId
  handoffV0 : HandoffLog
  handoffV1 : HandoffLog
  retainedAfterHandoffId : Nat
  commandIdempotency : Table IdempotencyRecord.key
  deriving DecidableEq

/-- The database after the migrations. -/
def Db.migrated : Db where
  outboxEvents := .empty
  outboxAttempts := .empty
  probeState := .empty
  probeEffects := .empty
  handoffV0 := ⟨0, .empty⟩
  handoffV1 := ⟨0, .empty⟩
  retainedAfterHandoffId := 0
  commandIdempotency := .empty

namespace Db

def handoff (db : Db) : Version → HandoffLog
  | .v0 => db.handoffV0
  | .v1 => db.handoffV1

def setHandoff (db : Db) (version : Version) (log : HandoffLog) : Db :=
  match version with
  | .v0 => { db with handoffV0 := log }
  | .v1 => { db with handoffV1 := log }

@[simp] theorem handoff_setHandoff_self (db : Db) (version : Version) (log : HandoffLog) :
    (db.setHandoff version log).handoff version = log := by
  cases version <;> rfl

theorem handoff_setHandoff_of_ne (db : Db) {version other : Version} (log : HandoffLog)
    (ne : other ≠ version) : (db.setHandoff version log).handoff other = db.handoff other := by
  cases version <;> cases other <;> first | rfl | exact absurd rfl ne

section Frame

variable (db : Db) (version : Version) (log : HandoffLog)

@[simp] theorem outboxEvents_setHandoff : (db.setHandoff version log).outboxEvents = db.outboxEvents := by
  cases version <;> rfl

@[simp] theorem outboxAttempts_setHandoff : (db.setHandoff version log).outboxAttempts = db.outboxAttempts := by
  cases version <;> rfl

@[simp] theorem probeState_setHandoff : (db.setHandoff version log).probeState = db.probeState := by
  cases version <;> rfl

@[simp] theorem probeEffects_setHandoff : (db.setHandoff version log).probeEffects = db.probeEffects := by
  cases version <;> rfl

@[simp] theorem retained_setHandoff :
    (db.setHandoff version log).retainedAfterHandoffId = db.retainedAfterHandoffId := by
  cases version <;> rfl

@[simp] theorem commandIdempotency_setHandoff :
    (db.setHandoff version log).commandIdempotency = db.commandIdempotency := by
  cases version <;> rfl

end Frame

end Db

/-- The writes of the producer functions. -/
inductive Write where
  | insertOutboxEvent (row : OutboxEvent)
  | insertProbeState (row : ProbeState)
  | setLastHandoffId (version : Version) (id : Nat)
  | insertHandoffEvent (version : Version) (row : HandoffEvent)
  | insertIdempotency (row : IdempotencyRecord)

/-- What a transaction can hold until its end: an advisory lock, named by the text it is hashed
from, a row lock, or the unique index entry of a row it inserted. -/
inductive Lock where
  | advisory (text : String)
  | outboxEvent (eventId : Uuid)
  | probeRow (probeId : Uuid)
  | probeId (probeId : Uuid)
  | probeEvent (eventId : Uuid)
  | handoffCounter (version : Version)
  | handoffId (version : Version) (id : Nat)
  | handoffEvent (version : Version) (eventId : Uuid)
  | idempotencyKey (scope key : String)
  | idempotencyEvent (eventId : Uuid)
  deriving DecidableEq

def Write.apply (db : Db) : Write → Db
  | .insertOutboxEvent row => { db with outboxEvents := db.outboxEvents.insert row }
  | .insertProbeState row => { db with probeState := db.probeState.insert row }
  | .setLastHandoffId version id => db.setHandoff version { db.handoff version with lastHandoffId := id }
  | .insertHandoffEvent version row =>
    db.setHandoff version { db.handoff version with events := (db.handoff version).events.insert row }
  | .insertIdempotency row => { db with commandIdempotency := db.commandIdempotency.insert row }

/-- `scope || chr(31) || key`, the text of a command's advisory lock. -/
def commandLockText (scope key : String) : String := scope ++ "\x1f" ++ key

def Write.touches : Write → List Lock
  | .insertOutboxEvent row => [.outboxEvent row.eventId]
  | .insertProbeState row => [.probeId row.probeId, .probeEvent row.requestedEventId]
  | .setLastHandoffId version _ => [.handoffCounter version]
  | .insertHandoffEvent version row => [.handoffId version row.handoffId, .handoffEvent version row.eventId]
  | .insertIdempotency row =>
    [.advisory (commandLockText row.scope row.idempotencyKey), .idempotencyKey row.scope row.idempotencyKey,
      .idempotencyEvent row.eventId]

instance : Store Db Write Lock := ⟨Write.apply, Write.touches⟩

/-- The body of a producer function. -/
abbrev Body (α : Type) := Program Db Write Lock SqlError α

end Liqi.Database
