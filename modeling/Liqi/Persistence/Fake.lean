import Liqi.Persistence.RuntimeAdapter

/-!
# The test double

`Liqi.Persistence.Fake` answers the calls of the runtime from a map of probes, a map of idempotency records and a list
of events. `Call` lists the calls that it shares with the runtime adapter, with the clocks that each side reads.
-/

namespace Liqi.Persistence

open Postgres Liqi.Database Liqi.Runtime Liqi.Realtime Liqi.Web

/-- The clock readings of `create_probe`. -/
structure FakeReadings where
  occurredAt : Timestamp
  recordedAt : Timestamp

/-- An event as the double keeps it. -/
structure FakeEvent where
  handoffId : Nat
  eventId : String
  schemaVersion : Int
  eventType : String
  eventVersion : Int
  occurredAt : Timestamp
  producer : String
  correlationId : String
  causationId : String
  aggregateKey : String
  orderingKey : String
  payload : Jsonb
  metadata : Jsonb
  recordedAt : Timestamp
  deriving DecidableEq

/-- What an idempotency record keeps. -/
structure FakeRecord where
  fingerprint : String
  outcome : Accepted
  deriving DecidableEq

/-- The state of the agent; its maps are the lookups in them. -/
structure Fake where
  probes : String → Option Accepted
  idempotency : String × String → Option FakeRecord
  events : List FakeEvent
  effects : Finset String
  nextHandoff : Nat

namespace Fake

/-- `initial`. -/
def initial : Fake where
  probes := fun _ => none
  idempotency := fun _ => none
  events := []
  effects := ∅
  nextHandoff := 1

/-- `Atom.to_string`. -/
def priorityText : Priority → String
  | .durable => "durable"
  | .realtime => "realtime"
  | .ephemeral => "ephemeral"
  | .telemetry => "telemetry"

def event (digests : Digests) (readings : FakeReadings) (command : ProbeCommand) (nextHandoff : Nat) : FakeEvent where
  handoffId := nextHandoff
  eventId := command.eventId digests
  schemaVersion := 1
  eventType := "platform.probe.requested.v1"
  eventVersion := 1
  occurredAt := readings.occurredAt
  producer := "liqi-beam"
  correlationId := command.envelope.correlationId
  causationId := command.envelope.causationId
  aggregateKey := "platform-probe:" ++ command.probeId
  orderingKey := "platform-probe:" ++ command.probeId
  payload := Jsonb.buildObject [("probeId", .string command.probeId), ("aggregateVersion", .number 1)]
  metadata := Jsonb.buildObject [("protocolVersion", .number 1), ("messageId", .string command.envelope.messageId),
    ("actorKey", .string command.envelope.actorKey), ("priority", .string (priorityText command.envelope.priority)),
    ("payloadType", .string command.envelope.payloadType), ("payloadVersion", .number command.envelope.payloadVersion)]
  recordedAt := readings.recordedAt

def outcome (digests : Digests) (command : ProbeCommand) : Accepted where
  probeId := some command.probeId
  eventId := command.eventId digests
  aggregateVersion := 1
  status := "accepted"

def identity (command : ProbeCommand) : String × String := (command.idempotencyScope, command.idempotencyKey)

/-- The state after a created probe. -/
def create (digests : Digests) (readings : FakeReadings) (command : ProbeCommand) (fake : Fake) : Fake :=
  { fake with
    probes := Function.update fake.probes command.probeId (some (outcome digests command))
    idempotency := Function.update fake.idempotency (identity command)
      (some ⟨command.requestFingerprint, outcome digests command⟩)
    events := fake.events ++ [event digests readings command fake.nextHandoff]
    nextHandoff := fake.nextHandoff + 1 }

/-- `create_probe`. -/
def createProbe (digests : Digests) (readings : FakeReadings) (command : ProbeCommand) (fake : Fake) :
    Except Failure Accepted × Fake :=
  if (fake.probes command.probeId).isSome then (.error (.failed (.persistence .staleAggregateVersion)), fake)
  else (.ok (outcome digests command), fake.create digests readings command)

/-- `request_probe`. -/
def requestProbe (digests : Digests) (readings : FakeReadings) (command : ProbeCommand) (fake : Fake) :
    Except Failure Accepted × Fake :=
  match fake.idempotency (identity command) with
  | some record =>
    if record.fingerprint = command.requestFingerprint then (.ok record.outcome, fake)
    else (.error (.failed (.persistence .idempotencyConflict)), fake)
  | none => fake.createProbe digests readings command

/-- `observe_probe`. -/
def observeProbe (probeId eventId : String) (fake : Fake) : Except Failure Observed :=
  match fake.probes probeId with
  | none => .error .notFound
  | some probe =>
    if probe.eventId = eventId then
      let applied := decide (eventId ∈ fake.effects)
      .ok
        { probeId := probeId
          eventId := eventId
          probeStatus := if applied then "completed" else "requested"
          outboxState := if applied then "succeeded" else "pending"
          effectApplied := applied
          terminal := applied
          aggregateVersion := probe.aggregateVersion }
    else .error (.failed (.persistence .probeIdentityMismatch))

def row (event : FakeEvent) : HandoffRow where
  handoffId := event.handoffId
  eventId := event.eventId
  eventType := event.eventType
  aggregateKey := event.aggregateKey
  payload := event.payload

/-- `Enum.take`: a negative count takes from the end. -/
def take {α : Type} (elements : List α) (count : Int) : List α :=
  if 0 ≤ count then elements.take count.toNat else elements.drop (elements.length - count.natAbs)

/-- `read_handoff`. -/
def readHandoff (afterCursor batchSize : Int) (fake : Fake) : List FakeEvent :=
  take (fake.events.filter fun event => decide (afterCursor < event.handoffId)) batchSize

end Fake

/-! ## The calls of both -/

/-- A command with what each side reads while it runs it. -/
structure Request where
  command : ProbeCommand
  adapter : AdapterReadings
  fake : FakeReadings

inductive Call where
  | requestProbe (request : Request)
  | observeProbe (probeId eventId : String)
  | readHandoff (afterCursor batchSize : Int)

inductive Answer where
  | requested (result : Except Failure Accepted)
  | observed (result : Except Failure Observed)
  | read (result : Except Failure (List HandoffRow))
  deriving DecidableEq

/-- A call of the double. -/
def Fake.step (digests : Digests) (fake : Fake) : Call → Answer × Fake
  | .requestProbe request =>
    let (result, fake') := fake.requestProbe digests request.fake request.command
    (.requested result, fake')
  | .observeProbe probeId eventId => (.observed (fake.observeProbe probeId eventId), fake)
  | .readHandoff afterCursor batchSize =>
    (.read (.ok ((fake.readHandoff afterCursor batchSize).map Fake.row)), fake)

/-- What a command gives its caller and leaves in the database; one that fails leaves it as it was. -/
def RuntimeAdapter.settled (db : Db) : Except Failure (Accepted × Db) → Except Failure Accepted × Db
  | .ok (result, db') => (.ok result, db')
  | .error failure => (.error failure, db)

/-- A call of the adapter. -/
def RuntimeAdapter.step (digests : Digests) (db : Db) : Call → Answer × Db
  | .requestProbe request =>
    let (result, db') := settled db (requestProbe digests request.adapter request.command db)
    (.requested result, db')
  | .observeProbe probeId eventId => (.observed (RuntimeAdapter.observeProbe probeId eventId db), db)
  | .readHandoff afterCursor batchSize => (.read (RuntimeAdapter.readHandoff afterCursor batchSize db), db)

end Liqi.Persistence
