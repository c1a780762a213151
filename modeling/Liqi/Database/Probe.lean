import Liqi.Database.Enqueue
import Liqi.Database.Handoff
import Liqi.Database.Outbox

/-!
# Requesting and completing a probe

`request_probe_v0` and `request_probe_v1` create a probe, enqueue its event and publish the event to
the realtime handoff in one transaction. V1 adds durable command idempotency: the first command with
a `(scope, key)` pair records its outcome, and a later one with the same fingerprint is answered
from the record. `apply_probe_effect_and_ack` is the consumer's side: it stores the effect of a leased
probe event, completes the probe and acknowledges the event in one transaction.
-/

namespace Liqi.Database

open Postgres

/-- The clock readings of one request, in the order of its statements. -/
structure RequestClock where
  enqueued : Timestamp
  published : Timestamp
  recorded : Timestamp

/-- The probe that has requested an event. -/
def Db.probeOfEvent (db : Db) (eventId : Uuid) : Option ProbeState :=
  db.probeState.rows.find? fun state => state.requestedEventId = eventId

/-- A new row of `probe_state_v0`. -/
def probeRow (probeId eventId : Option Uuid) (requestedAt : Option Timestamp) (version : Nat) :
    Except SqlError ProbeState := do
  let probeId ← notNull "probe_id" probeId
  let eventId ← notNull "requested_event_id" eventId
  let requestedAt ← notNull "requested_at" requestedAt
  return ⟨probeId, eventId, .requested, requestedAt, version⟩

/-- The index entries of a probe. -/
def ProbeState.keys (state : ProbeState) : List Lock := [.probeId state.probeId, .probeEvent state.requestedEventId]

def probeAggregate (probeId : Uuid) : String := "platform-probe:" ++ probeId.text

/-- The arguments of `request_probe_v0`. -/
structure RequestProbeV0 where
  probeId : Option Uuid
  eventId : Option Uuid
  occurredAt : Option Timestamp
  correlationId : Option Uuid
  causationId : Option Uuid
  metadata : Option Jsonb

/-- The event of a V0 probe. -/
def RequestProbeV0.event (a : RequestProbeV0) (state : ProbeState) : EnqueueV0 where
  eventId := some state.requestedEventId
  schemaVersion := some 0
  eventType := some "platform.probe.requested.v0"
  eventVersion := some 0
  occurredAt := a.occurredAt
  producer := some "liqi-api"
  correlationId := a.correlationId
  causationId := a.causationId
  aggregateKey := some (probeAggregate state.probeId)
  orderingKey := some (probeAggregate state.probeId)
  payload := some (Jsonb.buildObject [("probeId", .string state.probeId.text)])
  metadata := some (a.metadata.getD .empty)
  maxAttempts := some 8

def requestProbeV0 (a : RequestProbeV0) (clock : RequestClock) : Body Uuid :=
  match probeRow a.probeId a.eventId a.occurredAt 1 with
  | .error e => .raise e
  | .ok state =>
    .insert
      (fun db =>
        if (db.probeState.get? state.probeId).isSome then .ok none
        else if (db.probeOfEvent state.requestedEventId).isSome then
          .error (.unique "probe_state_v0_requested_event_id_key")
        else .ok (some state))
      ProbeState.keys .insertProbeState fun _ =>
        .query fun db =>
          if (db.probeState.get? state.probeId).any (·.requestedEventId = state.requestedEventId) then
            (enqueueOutboxV0 (a.event state) clock.enqueued).bind fun _ =>
              (publishRealtimeHandoffV0 clock.published (some state.requestedEventId)).bind fun _ =>
                .ret state.requestedEventId
          else .raise (.unique "probe id already exists with a different event id")

/-- The arguments of `request_probe_v1`. -/
structure RequestProbeV1 where
  probeId : Option Uuid
  eventId : Option Uuid
  scope : Option String
  idempotencyKey : Option String
  requestFingerprint : Option String
  expectedVersion : Option Int
  occurredAt : Option Timestamp
  correlationId : Option Uuid
  causationId : Option Uuid
  traceContext : Option Jsonb
  deadlineAt : Option Timestamp
  metadata : Option Jsonb

/-- The arguments once they passed the checks at the head of the function. -/
structure CommandIdentity where
  scope : String
  idempotencyKey : String
  fingerprint : String
  expectedVersion : Int
  deriving DecidableEq

def validScope (scope : String) : Bool :=
  lengthBetween 1 96 scope && matchesHead isLowerOrDigit
    (fun c => isLowerOrDigit c || c == '.' || c == ':' || c == '-') 0 scope.toList.length scope

def isLowerHex (c : Char) : Bool := c.isDigit || ('a' ≤ c && c ≤ 'f')

/-- The four checks of `request_probe_v1`, in its order. -/
def RequestProbeV1.identity (a : RequestProbeV1) : Except SqlError CommandIdentity :=
  match a.scope.filter validScope with
  | none => .error (.invalidParameter "idempotency scope has invalid format")
  | some scope => match a.idempotencyKey.filter (lengthBetween 1 128) with
    | none => .error (.invalidParameter "idempotency key must contain 1 to 128 characters")
    | some idempotencyKey => match a.expectedVersion.filter (0 ≤ ·) with
      | none => .error (.invalidParameter "expected aggregate version must be zero or greater")
      | some expectedVersion => match a.requestFingerprint.filter (matchesAll isLowerHex 64 64) with
        | none => .error (.invalidParameter "request fingerprint must be lowercase SHA-256 hex")
        | some fingerprint => .ok ⟨scope, idempotencyKey, fingerprint, expectedVersion⟩

/-- One row of the function's result; `status` is `'accepted'` on every path. -/
structure ProbeReceipt where
  probeId : Option Uuid
  eventId : Uuid
  aggregateVersion : Nat
  handoffCursor : Option Int
  duplicate : Bool
  status : String
  outcome : Jsonb
  deriving DecidableEq

/-- The event of a V1 probe. -/
def RequestProbeV1.event (a : RequestProbeV1) (state : ProbeState) : EnqueueV1 where
  eventId := some state.requestedEventId
  eventType := some "platform.probe.requested.v1"
  eventVersion := some 1
  occurredAt := a.occurredAt
  producer := some "liqi-api"
  correlationId := a.correlationId
  causationId := a.causationId
  aggregateKey := some (probeAggregate state.probeId)
  orderingKey := some (probeAggregate state.probeId)
  traceContext := some (a.traceContext.getD .empty)
  deadlineAt := a.deadlineAt
  priority := some "durable"
  payload := some (Jsonb.buildObject [("probeId", .string state.probeId.text),
    ("aggregateVersion", .number state.aggregateVersion)])
  metadata := some ((a.metadata.getD .empty).concat (Jsonb.buildObject [("realtime", .bool true)]))
  maxAttempts := some 8

/-- `created_outcome`. -/
def createdOutcome (state : ProbeState) (handoffCursor : Nat) : Jsonb :=
  Jsonb.buildObject [("probeId", .string state.probeId.text), ("eventId", .string state.requestedEventId.text),
    ("aggregateVersion", .number state.aggregateVersion), ("handoffCursor", .number handoffCursor)]

def createdReceipt (state : ProbeState) (handoffCursor : Nat) : ProbeReceipt :=
  ⟨some state.probeId, state.requestedEventId, state.aggregateVersion, some handoffCursor, false, "accepted",
    createdOutcome state handoffCursor⟩

/-- `text::uuid`, where `NULL` stays `NULL`. -/
def castUuid : Option String → Except SqlError (Option Uuid)
  | none => .ok none
  | some text => match Uuid.ofText text with
    | some id => .ok (some id)
    | none => .error ⟨.invalidTextRepresentation, "invalid input syntax for type uuid", none⟩

theorem castUuid_text (id : Uuid) : castUuid (some id.text) = .ok (some id) := by
  simp [castUuid]

/-- `text::bigint`, where `NULL` stays `NULL`. -/
def castBigint : Option String → Except SqlError (Option Int)
  | none => .ok none
  | some text => match text.toInt? with
    | some n => .ok (some n)
    | none => .error ⟨.invalidTextRepresentation, "invalid input syntax for type bigint", none⟩

/-- The answer to a command that the record already holds. -/
def IdempotencyRecord.receipt (record : IdempotencyRecord) : Except SqlError ProbeReceipt := do
  let probeId ← castUuid (record.outcome.getText "probeId")
  let handoffCursor ← castBigint (record.outcome.getText "handoffCursor")
  return ⟨probeId, record.eventId, record.aggregateVersion, handoffCursor, true, "accepted", record.outcome⟩

/-- Thirty days. -/
def idempotencyRetention : Int := 30 * 24 * 3600 * 1000000

/-- The row that a created probe leaves; the table's `CHECK`s repeat the checks of the arguments. -/
def idempotencyRow (id : CommandIdentity) (state : ProbeState) (handoffCursor : Nat) (now : Timestamp) :
    IdempotencyRecord where
  scope := id.scope
  idempotencyKey := id.idempotencyKey
  requestFingerprint := id.fingerprint
  aggregateKey := probeAggregate state.probeId
  aggregateVersion := state.aggregateVersion
  eventId := state.requestedEventId
  outcome := createdOutcome state handoffCursor
  completedAt := now
  expiresAt := now + idempotencyRetention

def insertIdempotency (row : IdempotencyRecord) (next : Body ProbeReceipt) : Body ProbeReceipt :=
  .insert
    (fun db =>
      if (db.commandIdempotency.get? row.key).isSome then .error (.unique "command_idempotency_v1_pkey")
      else if db.commandIdempotency.rows.any (·.eventId = row.eventId) then
        .error (.unique "command_idempotency_v1_event_id_key")
      else .ok (some row))
    (fun row => [.idempotencyKey row.scope row.idempotencyKey, .idempotencyEvent row.eventId])
    .insertIdempotency fun _ => next

/-- The writes of a first command: probe, event, handoff, idempotency record. -/
def createProbe (a : RequestProbeV1) (id : CommandIdentity) (clock : RequestClock) (state : ProbeState) :
    Body ProbeReceipt :=
  .insert
    (fun db =>
      if (db.probeState.get? state.probeId).isSome then .error (.unique "probe_state_v0_pkey")
      else if (db.probeOfEvent state.requestedEventId).isSome then
        .error (.unique "probe_state_v0_requested_event_id_key")
      else .ok (some state))
    ProbeState.keys .insertProbeState fun _ =>
      (enqueueOutboxV1 (a.event state) clock.enqueued).bind fun _ =>
        (publishRealtimeHandoffV1 clock.published (some state.requestedEventId)).bind fun handoffCursor =>
          insertIdempotency (idempotencyRow id state handoffCursor clock.recorded)
            (.ret (createdReceipt state handoffCursor))

/-- `LQ002`, with both versions. -/
def staleVersion (expected current : Int) : SqlError where
  state := .staleAggregateVersion
  message := "stale aggregate version"
  detail := some (Jsonb.buildObject [("expectedVersion", .number expected), ("currentVersion", .number current)])

/-- `LQ001`. -/
def keyReused : SqlError := ⟨.idempotencyConflict, "idempotency key was already used for a different command", none⟩

/-- The first command with its key: the optimistic version check, then the writes. -/
def firstCommand (a : RequestProbeV1) (id : CommandIdentity) (clock : RequestClock) : Body ProbeReceipt :=
  .stmt
    (fun db => match a.probeId.bind db.probeState.get? with
      | some state => [.probeRow state.probeId]
      | none => [])
    (fun _ => [])
    fun db =>
      let current : Int := ((a.probeId.bind db.probeState.get?).map fun state => (state.aggregateVersion : Int)).getD 0
      if current ≠ id.expectedVersion then .raise (staleVersion id.expectedVersion current)
      else if current ≠ 0 then
        .raise ⟨.featureNotSupported, "V1 platform probe supports only the create transition", none⟩
      else match probeRow a.probeId a.eventId a.occurredAt (current + 1).toNat with
        | .error e => .raise e
        | .ok state => createProbe a id clock state

def requestProbeV1 (a : RequestProbeV1) (clock : RequestClock) : Body ProbeReceipt :=
  match a.identity with
  | .error e => .raise e
  | .ok id =>
    .lock (.advisory (commandLockText id.scope id.idempotencyKey)) <|
      .query fun db => match db.commandIdempotency.get? (id.scope, id.idempotencyKey) with
        | some record =>
          if record.requestFingerprint ≠ id.fingerprint then .raise keyReused
          else match record.receipt with
            | .ok receipt => .ret receipt
            | .error e => .raise e
        | none => firstCommand a id clock

/-- `INSERT INTO probe_effects_v0 ... ON CONFLICT (event_id) DO NOTHING`. -/
def insertEffect (row : ProbeEffect) (db : Db) : Except SqlError Db :=
  if (db.probeEffects.get? row.eventId).isSome then .ok db
  else if db.probeEffects.rows.any (·.probeId = row.probeId) then .error (.unique "probe_effects_v0_probe_id_key")
  else if (db.probeState.get? row.probeId).isNone then
    .error ⟨.foreignKeyViolation, "probe_effects_v0_probe_id_fkey", none⟩
  else .ok { db with probeEffects := db.probeEffects.insert row }

def ProbeState.complete (now : Timestamp) (state : ProbeState) : ProbeState :=
  match state.status with
  | .requested => { state with status := .completed now }
  | .completed _ => state

theorem ProbeState.complete_probeId (now : Timestamp) (state : ProbeState) :
    (state.complete now).probeId = state.probeId := by
  unfold ProbeState.complete
  split <;> rfl

def completeProbe (probeId : Uuid) (now : Timestamp) (db : Db) : Db :=
  { db with
    probeState := db.probeState.update (fun state => decide (state.probeId = probeId)) (ProbeState.complete now)
      (ProbeState.complete_probeId now) }

/-- The events that each version applies. -/
def Version.appliesTo : Version → OutboxEvent → Bool
  | .v0, event =>
    event.envelope.content.eventType == "platform.probe.requested.v0" && event.envelope.content.eventVersion == 0
  | .v1, event =>
    event.envelope.content.protocolVersion == 1 && event.envelope.content.eventType == "platform.probe.requested.v1"
      && event.envelope.content.eventVersion == 1

/-- `apply_probe_effect_and_ack_v0` and `apply_probe_effect_and_ack_v1`. -/
def applyProbeEffectAndAck (version : Version) (now : Timestamp) (eventId token : Option Uuid)
    (consumer : Option String) (db : Db) : Except SqlError (OutboxStatus × Db) :=
  match eventId.bind db.outboxEvents.get? with
  | none => .ok (.notFound, db)
  | some event => match event.state with
    | .succeeded _ => .ok (.alreadySucceeded, db)
    | .deadLetter _ => .ok (.alreadyDeadLettered, db)
    | _ =>
      if event.staleFor token consumer then .ok (.staleClaim, db)
      else if !version.appliesTo event then .ok (.unsupportedEvent, db)
      else do
        let target ← castUuid (event.envelope.content.payload.getText "probeId")
        let probeId ← notNull "probe_id" target
        let db ← insertEffect ⟨event.eventId, probeId, now⟩ db
        return ackOutboxV0 now eventId token consumer (completeProbe probeId now db)

def applyProbeEffectAndAckV0 (now : Timestamp) (eventId token : Option Uuid) (consumer : Option String) (db : Db) :
    Except SqlError (OutboxStatus × Db) :=
  applyProbeEffectAndAck .v0 now eventId token consumer db

def applyProbeEffectAndAckV1 (now : Timestamp) (eventId token : Option Uuid) (consumer : Option String) (db : Db) :
    Except SqlError (OutboxStatus × Db) :=
  applyProbeEffectAndAck .v1 now eventId token consumer db

end Liqi.Database
