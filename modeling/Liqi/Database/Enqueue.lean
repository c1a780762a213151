import Liqi.Database.Schema
import Liqi.Except

/-!
# Enqueueing events

`enqueue_outbox_v0` and `enqueue_outbox_v1` insert one outbox event. A second call with the same
event id is accepted only if the stored event has the same content; what counts as content differs
between the two versions.
-/

namespace Liqi.Database

open Postgres

/-- The arguments of both functions, as they reach the `INSERT`; `none` is `NULL`. -/
structure EventDraft where
  eventId : Option Uuid
  schemaVersion : Option Int
  protocolVersion : Int
  eventType : Option String
  eventVersion : Option Int
  occurredAt : Option Timestamp
  producer : Option String
  correlationId : Option Uuid
  causationId : Option Uuid
  aggregateKey : Option String
  orderingKey : Option String
  traceContext : Jsonb
  deadlineAt : Option Timestamp
  priority : Option String
  payload : Option Jsonb
  metadata : Jsonb
  maxAttempts : Option Int

/-- `priority IN ('durable', 'realtime', 'ephemeral', 'telemetry')`. -/
def checkPriority (text : String) : Except SqlError Priority :=
  match Priority.ofText text with
  | some priority => .ok priority
  | none => .error (.check "outbox_events_priority_v1_check")

/-- The producer columns once no `NOT NULL` column is missing. -/
def EventDraft.content (d : EventDraft) : Except SqlError EventContent := do
  let schemaVersion ← notNull "schema_version" d.schemaVersion
  let eventType ← notNull "event_type" d.eventType
  let eventVersion ← notNull "event_version" d.eventVersion
  let occurredAt ← notNull "occurred_at" d.occurredAt
  let producer ← notNull "producer" d.producer
  let aggregateKey ← notNull "aggregate_key" d.aggregateKey
  let orderingKey ← notNull "ordering_key" d.orderingKey
  let payload ← notNull "payload" d.payload
  let priorityText ← notNull "priority" d.priority
  let priority ← checkPriority priorityText
  return {
    schemaVersion, eventType, eventVersion, occurredAt, producer, aggregateKey, orderingKey, payload, priority,
    protocolVersion := d.protocolVersion, correlationId := d.correlationId, causationId := d.causationId,
    traceContext := d.traceContext, deadlineAt := d.deadlineAt, metadata := d.metadata }

/-- The row that the `INSERT` stores, with the columns' defaults. -/
def EventDraft.row (d : EventDraft) (now : Timestamp) : Except SqlError OutboxEvent := do
  let eventId ← notNull "event_id" d.eventId
  let content ← d.content
  let maxAttempts ← notNull "max_attempts" d.maxAttempts
  if h : content.violation = none then
    if maxAttempts < 1 ∨ 20 < maxAttempts then .error (.check "outbox_events_max_attempts_check")
    else return {
      eventId, envelope := ⟨content, h⟩, state := .pending, availableAt := now, attemptCount := 0,
      maxAttempts := maxAttempts.toNat, lastErrorCode := none }
  else .error (.check (content.violation.getD ""))

/-- The insert, and on a unique violation the search for an event that is `same`. -/
def enqueue (same : OutboxEvent → OutboxEvent → Bool) (d : EventDraft) (now : Timestamp) : Body Uuid :=
  match d.row now with
  | .error e => .raise e
  | .ok row =>
    .insert (fun db => .ok (if (db.outboxEvents.get? row.eventId).isSome then none else some row))
      (fun row => [.outboxEvent row.eventId]) .insertOutboxEvent fun
        | some _ => .ret row.eventId
        | none => .query fun db =>
          if (db.outboxEvents.get? row.eventId).any (same · row) then .ret row.eventId
          else .raise (.unique "outbox event id already exists with different durable content")

/-- What `enqueue_outbox_v0` compares: neither the V1 columns nor `max_attempts`. -/
def sameDurableContentV0 (existing row : OutboxEvent) : Bool :=
  let a := existing.envelope.content
  let b := row.envelope.content
  a.schemaVersion == b.schemaVersion && a.eventType == b.eventType && a.eventVersion == b.eventVersion
    && a.occurredAt == b.occurredAt && a.producer == b.producer
    && isNotDistinctFrom a.correlationId b.correlationId && isNotDistinctFrom a.causationId b.causationId
    && a.aggregateKey == b.aggregateKey && a.orderingKey == b.orderingKey
    && decide (a.payload = b.payload) && decide (a.metadata = b.metadata)

/-- What `enqueue_outbox_v1` compares: every producer column and `max_attempts`. -/
def sameDurableContentV1 (existing row : OutboxEvent) : Bool :=
  decide (existing.envelope.content = row.envelope.content) && existing.maxAttempts == row.maxAttempts

/-- The arguments of `enqueue_outbox_v0`. -/
structure EnqueueV0 where
  eventId : Option Uuid
  schemaVersion : Option Int
  eventType : Option String
  eventVersion : Option Int
  occurredAt : Option Timestamp
  producer : Option String
  correlationId : Option Uuid
  causationId : Option Uuid
  aggregateKey : Option String
  orderingKey : Option String
  payload : Option Jsonb
  metadata : Option Jsonb
  maxAttempts : Option Int

def EnqueueV0.draft (a : EnqueueV0) : EventDraft where
  eventId := a.eventId
  schemaVersion := a.schemaVersion
  protocolVersion := 0
  eventType := a.eventType
  eventVersion := a.eventVersion
  occurredAt := a.occurredAt
  producer := a.producer
  correlationId := a.correlationId
  causationId := a.causationId
  aggregateKey := a.aggregateKey
  orderingKey := a.orderingKey
  traceContext := .empty
  deadlineAt := none
  priority := some "durable"
  payload := a.payload
  metadata := a.metadata.getD .empty
  maxAttempts := a.maxAttempts

def enqueueOutboxV0 (a : EnqueueV0) (now : Timestamp) : Body Uuid := enqueue sameDurableContentV0 a.draft now

/-- The arguments of `enqueue_outbox_v1`. -/
structure EnqueueV1 where
  eventId : Option Uuid
  eventType : Option String
  eventVersion : Option Int
  occurredAt : Option Timestamp
  producer : Option String
  correlationId : Option Uuid
  causationId : Option Uuid
  aggregateKey : Option String
  orderingKey : Option String
  traceContext : Option Jsonb
  deadlineAt : Option Timestamp
  priority : Option String
  payload : Option Jsonb
  metadata : Option Jsonb
  maxAttempts : Option Int

def EnqueueV1.draft (a : EnqueueV1) : EventDraft where
  eventId := a.eventId
  schemaVersion := some 0
  protocolVersion := 1
  eventType := a.eventType
  eventVersion := a.eventVersion
  occurredAt := a.occurredAt
  producer := a.producer
  correlationId := a.correlationId
  causationId := a.causationId
  aggregateKey := a.aggregateKey
  orderingKey := a.orderingKey
  traceContext := a.traceContext.getD .empty
  deadlineAt := a.deadlineAt
  priority := a.priority
  payload := a.payload
  metadata := a.metadata.getD .empty
  maxAttempts := a.maxAttempts

def enqueueOutboxV1 (a : EnqueueV1) (now : Timestamp) : Body Uuid := enqueue sameDurableContentV1 a.draft now

section Row

variable {d : EventDraft} {now : Timestamp} {row : OutboxEvent}

theorem notNull_ok {α : Type} {column : String} {x : Option α} {a : α} (h : notNull column x = .ok a) : x = some a := by
  cases x with
  | none => cases h
  | some b => cases h; rfl

/-- A stored event starts pending, never claimed, with between 1 and 20 attempts. -/
structure Fresh (d : EventDraft) (now : Timestamp) (row : OutboxEvent) : Prop where
  eventId : d.eventId = some row.eventId
  content : d.content = .ok row.envelope.content
  state : row.state = .pending
  attemptCount : row.attemptCount = 0
  maxAttempts : 1 ≤ row.maxAttempts ∧ row.maxAttempts ≤ 20
  availableAt : row.availableAt = now

/-- The columns of an event are those of its draft. -/
structure EventDraft.Columns (d : EventDraft) (c : EventContent) : Prop where
  schemaVersion : d.schemaVersion = some c.schemaVersion
  eventType : d.eventType = some c.eventType
  eventVersion : d.eventVersion = some c.eventVersion
  occurredAt : d.occurredAt = some c.occurredAt
  producer : d.producer = some c.producer
  aggregateKey : d.aggregateKey = some c.aggregateKey
  orderingKey : d.orderingKey = some c.orderingKey
  payload : d.payload = some c.payload
  correlationId : d.correlationId = c.correlationId
  causationId : d.causationId = c.causationId
  metadata : d.metadata = c.metadata

theorem EventDraft.columns {c : EventContent} (h : d.content = .ok c) : d.Columns c := by
  obtain ⟨_, schemaVersion, h⟩ := bind_ok h
  obtain ⟨_, eventType, h⟩ := bind_ok h
  obtain ⟨_, eventVersion, h⟩ := bind_ok h
  obtain ⟨_, occurredAt, h⟩ := bind_ok h
  obtain ⟨_, producer, h⟩ := bind_ok h
  obtain ⟨_, aggregateKey, h⟩ := bind_ok h
  obtain ⟨_, orderingKey, h⟩ := bind_ok h
  obtain ⟨_, payload, h⟩ := bind_ok h
  obtain ⟨_, _, h⟩ := bind_ok h
  obtain ⟨_, _, h⟩ := bind_ok h
  cases h
  exact ⟨notNull_ok schemaVersion, notNull_ok eventType, notNull_ok eventVersion, notNull_ok occurredAt,
    notNull_ok producer, notNull_ok aggregateKey, notNull_ok orderingKey, notNull_ok payload, rfl, rfl, rfl⟩

theorem EventDraft.fresh_row (h : d.row now = .ok row) : Fresh d now row := by
  obtain ⟨eventId, identified, h⟩ := bind_ok h
  obtain ⟨content, stored, h⟩ := bind_ok h
  obtain ⟨maxAttempts, _, h⟩ := bind_ok h
  split at h
  · split at h
    · cases h
    · cases h
      exact ⟨notNull_ok identified, stored, rfl, rfl, by dsimp only; omega, rfl⟩
  · cases h

end Row

end Liqi.Database
