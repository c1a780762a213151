import Liqi.Database.EventCopies
import Liqi.Runtime.Config
import Liqi.Runtime.ProbeCommand
import Liqi.V0.Envelope

/-!
# The V0 adapter and the V0 services

`PostgresV0Compatibility.request_probe` writes the event of a probe through `request_probe_v0`, for the Rust services
to claim from the outbox and to read from the V0 handoff log. Its metadata keys are in camel case, and the services
accept no upper-case letter in a key: none of them can read an event that the adapter wrote.
-/

namespace Liqi.Persistence.PostgresV0Compatibility

open Postgres Liqi.Database Liqi.Runtime Liqi.V0

/-! ## The adapter -/

/-- The reasons of `{:error, reason}`. -/
inductive Reason where
  | capacity
  | databaseCapacity
  | idempotencyConflict
  | postgres (code : String)
  | databaseUnavailable
  | databaseError
  | unexpectedEventId (returned : String)
  deriving DecidableEq

/-- The errors of `SQL.query`: the `SQLSTATE` of a `Postgrex.Error`, a `DBConnection.ConnectionError`, any other. -/
inductive QueryError where
  | postgres (code : String)
  | connection
  | other

def classify : QueryError → Reason
  | .postgres code => if code = SqlState.code .uniqueViolation then .idempotencyConflict else .postgres code
  | .connection => .databaseUnavailable
  | .other => .databaseError

def normalizeTransaction {α : Type} : Except Reason α → Except Reason α
  | .ok result => .ok result
  | .error .capacity => .error .databaseCapacity
  | .error reason => .error reason

/-- The parameters of the query; the driver takes identifiers as text. -/
structure Params where
  probeId : String
  eventId : String
  occurredAt : Timestamp
  correlationId : String
  causationId : String
  metadata : Jsonb

def params (digests : Digests) (command : ProbeCommand) (utcNow : Timestamp) : Params where
  probeId := command.probeId
  eventId := command.eventId digests
  occurredAt := utcNow
  correlationId := command.envelope.correlationId
  causationId := command.envelope.causationId
  metadata := Jsonb.buildObject [("protocolVersion", .string command.envelope.protocolVersion),
    ("messageId", .string command.envelope.messageId), ("deadline", .number command.envelope.deadline)]

/-- The arguments of `request_probe_v0` after their casts. -/
def Params.arguments (params : Params) : Except SqlError RequestProbeV0 := do
  let probeId ← castUuid (some params.probeId)
  let eventId ← castUuid (some params.eventId)
  let correlationId ← castUuid (some params.correlationId)
  let causationId ← castUuid (some params.causationId)
  return {
    probeId, eventId, correlationId, causationId
    occurredAt := some params.occurredAt
    metadata := some params.metadata }

/-- The query on a connection that answers; a document with a NUL cannot be bound. -/
def Params.query (params : Params) (clock : RequestClock) (db : Db) : Except QueryError (Uuid × Db) :=
  if params.metadata.storable then
    (do let arguments ← params.arguments
        (requestProbeV0 arguments clock).run db).mapError fun failure : SqlError => .postgres failure.state.code
  else .error (.postgres "22P05")

/-- What a request finds: the permits of the database budget, the clocks, and an error of the connection if it has
one, as when the query exceeds its `timeout`. -/
structure Readings where
  limit : Int
  inUse : Int
  utcNow : Timestamp
  clock : RequestClock
  failure : Option QueryError

structure Accepted where
  probeId : String
  eventId : String
  status : String
  deriving DecidableEq

/-- The body of the transaction: an event id other than its own rolls it back, as any error does. -/
def transaction (digests : Digests) (readings : Readings) (command : ProbeCommand) (db : Db) :
    Except Reason (Accepted × Db) :=
  match readings.failure with
  | some failure => .error (classify failure)
  | none => match (params digests command readings.utcNow).query readings.clock db with
    | .ok (returned, db') =>
      if returned.text = command.eventId digests then
        .ok (⟨command.probeId, command.eventId digests, "accepted"⟩, db')
      else .error (.unexpectedEventId returned.text)
    | .error failure => .error (classify failure)

def requestProbe (digests : Digests) (readings : Readings) (command : ProbeCommand) (db : Db) :
    Except Reason (Accepted × Db) :=
  normalizeTransaction (withPermit readings.limit readings.inUse .capacity (transaction digests readings command db))

/-! ## What it leaves in the tables -/

section Written

variable {digests : Digests} {readings : Readings} {command : ProbeCommand} {db db' : Db} {accepted : Accepted}

/-- A request that is accepted has run `request_probe_v0` for the event that it answers. -/
theorem requestProbe_ok (ran : requestProbe digests readings command db = .ok (accepted, db')) :
    ∃ arguments eventId, arguments.metadata = some (params digests command readings.utcNow).metadata
      ∧ (requestProbeV0 arguments readings.clock).run db = .ok (eventId, db') ∧ accepted.eventId = eventId.text := by
  have inside : transaction digests readings command db = .ok (accepted, db') := by
    unfold requestProbe withPermit at ran
    split at ran
    · cases ran
    · generalize transaction digests readings command db = result at ran ⊢
      rcases result with reason | result
      · cases reason <;> cases ran
      · exact ran
  unfold transaction at inside
  split at inside
  · cases inside
  split at inside
  next returned after ranQuery =>
    split at inside
    next same =>
      cases inside
      unfold Params.query at ranQuery
      split at ranQuery
      · obtain ⟨arguments, cast, ranQuery⟩ := bind_ok (mapError_ok ranQuery)
        iterate 4 obtain ⟨_, _, cast⟩ := bind_ok cast
        cases cast
        exact ⟨_, returned, rfl, ranQuery, same.symm⟩
      · cases ranQuery
    next => cases inside
  next => cases inside

/-- The outbox holds the event of the request with the metadata of its parameters, also where it held it before. -/
theorem written (ran : requestProbe digests readings command db = .ok (accepted, db')) :
    ∃ eventId envelope, accepted.eventId = eventId.text ∧ db'.Holds eventId envelope
      ∧ envelope.content.metadata = (params digests command readings.utcNow).metadata
      ∧ ∃ row ∈ db'.handoffV0.events, row.eventId = eventId := by
  obtain ⟨arguments, eventId, metadata, ranV0, same⟩ := requestProbe_ok ran
  obtain ⟨state, enqueued, id, db₁, db₂, _, _, ranEnqueue, ranPublish, rfl⟩ := requestV0_calls ranV0
  obtain ⟨row, drafted, _, stored, agrees⟩ := enqueue_run ranEnqueue
  obtain ⟨_, requested, published⟩ := publish_run ranPublish
  cases requested
  have fresh := EventDraft.fresh_row drafted
  have key : row.eventId = state.requestedEventId := (Option.some.inj fresh.eventId).symm
  have columns : row.envelope.content.metadata = (params digests command readings.utcNow).metadata := by
    rw [← (EventDraft.columns fresh.content).metadata]
    simp [RequestProbeV0.event, EnqueueV0.draft, metadata]
  refine ⟨state.requestedEventId, ?_⟩
  suffices held : ∃ envelope, db₂.Holds state.requestedEventId envelope ∧ envelope.content.metadata = row.envelope.content.metadata by
    obtain ⟨envelope, ⟨event, found, names, is⟩, equal⟩ := held
    exact ⟨envelope, same, ⟨event, published.outboxEvents ▸ found, names, is⟩, equal.trans columns, published.logged⟩
  cases stored with
  | @stored existing present =>
    have equal := agrees existing present
    simp only [sameDurableContentV0, Bool.and_eq_true, decide_eq_true_eq] at equal
    obtain ⟨found, names⟩ := Table.get?_eq_some.1 present
    exact ⟨existing.envelope, ⟨existing, found, names.trans key, rfl⟩, equal.2⟩
  | inserted absent => exact ⟨row.envelope, ⟨row, (Table.mem_insert absent).2 (.inr rfl), key, rfl⟩, rfl⟩

end Written

/-! ## What the services make of it -/

theorem metadataError_of_key {metadata : List (String × Jsonb)} {entry : String × Jsonb} (listed : entry ∈ metadata)
    (refused : validMetadataKey entry.1 = false) : metadataError metadata ≠ none := by
  induction metadata with
  | nil => cases listed
  | cons first rest ih =>
    obtain ⟨key, value⟩ := first
    unfold metadataError
    split_ifs with badKey badValue
    · simp
    · simp
    · rcases List.mem_cons.1 listed with rfl | later
      · simp [refused] at badKey
      · exact ih later

/-- A row with a metadata key that is refused is refused. -/
theorem mapEventRow_of_key {eventId : Uuid} {row : EventContent} {metadata : List (String × Jsonb)}
    {entry : String × Jsonb} (object : row.metadata = .object metadata) (listed : entry ∈ metadata)
    (refused : validMetadataKey entry.1 = false) : mapEventRow eventId row = .error .invalidOperation := by
  have invalid : ∀ most, (rowEnvelope eventId row metadata).validate most ≠ .ok () := by
    intro most valid
    unfold EventEnvelope.validate at valid
    have error := metadataError_of_key listed refused
    rcases found : metadataError metadata with _ | e
    · exact error found
    · simp only [rowEnvelope, found] at valid
      split at valid
      · cases valid
      · split_ifs at valid
  unfold mapEventRow
  rw [object]
  dsimp only
  split_ifs
  all_goals try rfl
  split
  next valid => exact absurd valid (invalid 4096)
  next => rfl

/-- The key of the message id is one of those that are refused. -/
theorem messageId_listed (digests : Digests) (command : ProbeCommand) (utcNow : Timestamp) :
    ∃ metadata entry, (params digests command utcNow).metadata = .object metadata ∧ entry ∈ metadata
      ∧ validMetadataKey entry.1 = false := by
  have first : Jsonb.keyBefore "messageId" "protocolVersion" = true := by decide
  have later : Jsonb.keyBefore "deadline" "messageId" = true := by decide
  have bad : validMetadataKey "messageId" = false := by decide
  exact ⟨_, ("messageId", .string command.envelope.messageId), rfl, by simp [Jsonb.setMember, first, later], bad⟩

/-- The event is in the outbox and in the V0 log, and `map_event_row` accepts it from both. -/
structure Readable (db : Db) (eventId : String) : Prop where
  claimed : ∃ event ∈ db.outboxEvents, event.eventId.text = eventId
    ∧ ∃ envelope, mapEventRow event.eventId event.envelope.content = .ok envelope
  handedOff : ∃ row ∈ db.handoffV0.events, row.eventId.text = eventId
    ∧ ∃ envelope, mapEventRow row.eventId row.envelope.content = .ok envelope

/-- The event is in the outbox and in the V0 log, and `map_event_row` refuses it from both. -/
structure Refused (db : Db) (eventId : String) : Prop where
  stored : ∃ event ∈ db.outboxEvents, event.eventId.text = eventId
  logged : ∃ row ∈ db.handoffV0.events, row.eventId.text = eventId
  claimed : ∀ event ∈ db.outboxEvents, event.eventId.text = eventId →
    mapEventRow event.eventId event.envelope.content = .error .invalidOperation
  handedOff : ∀ row ∈ db.handoffV0.events, row.eventId.text = eventId →
    mapEventRow row.eventId row.envelope.content = .error .invalidOperation

/-- Both readers refuse the event of a request, in whatever state the calls and prunes before it left the database. -/
theorem requestProbe_refused {digests : Digests} {readings : Readings} {command : ProbeCommand} {accepted : Accepted}
    {steps : List RetentionStep} {db' : Db}
    (ran : requestProbe digests readings command (runSteps steps) = .ok (accepted, db')) :
    Refused db' accepted.eventId := by
  obtain ⟨eventId, written, same, held, columns, row, inLog, rowNames⟩ := written ran
  obtain ⟨metadata, entry, object, listed, bad⟩ := messageId_listed digests command readings.utcNow
  have refused : mapEventRow eventId written.content = .error .invalidOperation :=
    mapEventRow_of_key (columns.trans object) listed bad
  have copied : Copied db' := by
    obtain ⟨arguments, _, _, ranV0, _⟩ := requestProbe_ok ran
    have after : RetentionStep.after (runSteps steps) (.call (.requestV0 arguments readings.clock)) = db' := by
      simp [RetentionStep.after, RetentionStep.exec, Call.exec, reply, ranV0, Except.map, Except.toOption]
    exact after ▸ (RetentionStep.copied (runSteps_copied steps) _).1
  refine ⟨?_, ⟨row, inLog, by rw [rowNames, same]⟩, fun event stored names => ?_, fun row stored names => ?_⟩
  · obtain ⟨event, found, names, _⟩ := held
    exact ⟨event, found, by rw [names, same]⟩
  · have id : event.eventId = eventId := Uuid.text_injective (names.trans same)
    have envelope : event.envelope = written := Db.Holds.unique ⟨event, stored, id, rfl⟩ held
    rw [id, envelope, refused]
  · have id : row.eventId = eventId := Uuid.text_injective (names.trans same)
    have copy := copied.rows .v0 row stored
    rw [id] at copy
    rw [id, copy.unique held, refused]

/-- **V0 events of the BEAM.** No event that the adapter writes for a command of a valid envelope is readable. -/
theorem v0_event_never_readable {digests : Digests} {envelope : Runtime.Envelope} {probeId idempotencyKey : String}
    {command : ProbeCommand} {readings : Readings} {accepted : Accepted} {db' : Db} (steps : List RetentionStep)
    (_valid : envelope.validate = .ok envelope)
    (_made : ProbeCommand.new digests envelope probeId idempotencyKey = some command)
    (ran : requestProbe digests readings command (runSteps steps) = .ok (accepted, db')) :
    ¬ Readable db' accepted.eventId := by
  rintro ⟨⟨event, stored, same, envelope, mapped⟩, _⟩
  rw [(requestProbe_refused ran).claimed event stored same] at mapped
  cases mapped

def sampleDigests : Digests where
  fingerprint := fun _ _ _ => ""
  deterministicUuid := fun _ _ => sampleUuid 2

def sampleReadings : Readings := ⟨1, 0, 0, ⟨0, 0, 0⟩, none⟩

def sampleId : String := "12345678-1234-4234-8234-123456789abc"

def sampleEnvelope : Runtime.Envelope where
  messageId := sampleId
  correlationId := sampleId
  causationId := sampleId
  traceContext := .empty
  deadline := 1000
  actorKey := "platform-probe:" ++ sampleId
  priority := .durable
  payloadType := "platform.probe.requested"
  payloadVersion := 1
  payload := .empty

def sampleCommand : ProbeCommand where
  envelope := sampleEnvelope
  probeId := sampleId
  idempotencyScope := probeScope
  idempotencyKey := "key"
  requestFingerprint := ""
  expectedVersion := 0

theorem sample_accepted : ∃ accepted db',
    requestProbe sampleDigests sampleReadings sampleCommand (runSteps []) = .ok (accepted, db') := by
  have answered : (requestProbe sampleDigests sampleReadings sampleCommand (runSteps [])).isOk = true := by
    decide +kernel
  revert answered
  cases requestProbe sampleDigests sampleReadings sampleCommand (runSteps []) with
  | error => nofun
  | ok result => exact fun _ => ⟨result.1, result.2, rfl⟩

theorem sample_never_readable : ∃ accepted db', ¬ Readable db' accepted.eventId
    ∧ requestProbe sampleDigests sampleReadings sampleCommand (runSteps []) = .ok (accepted, db') := by
  obtain ⟨accepted, db', ran⟩ := sample_accepted
  have made : ProbeCommand.new sampleDigests sampleEnvelope sampleId "key" = some sampleCommand := if_pos (by decide)
  exact ⟨accepted, db', v0_event_never_readable [] (by rfl) made ran, ran⟩

/-- The first request of a database: its event is in the outbox and in the log, and is refused from both. -/
theorem first_event_refused : ∃ accepted db', Refused db' accepted.eventId
    ∧ requestProbe sampleDigests sampleReadings sampleCommand (runSteps []) = .ok (accepted, db') := by
  obtain ⟨accepted, db', ran⟩ := sample_accepted
  exact ⟨accepted, db', requestProbe_refused ran, ran⟩

end Liqi.Persistence.PostgresV0Compatibility
