import Liqi.Database.CommandIdempotency

/-!
# The answers of a command

What `request_probe_v1` answers when it runs alone: from the record of its key, with `LQ001` or `LQ002`, or with the
rows of a new probe (`FirstCommand`), for which the handoff counter must have room.
-/

namespace Liqi.Database

open Postgres Store

section Recorded

variable {a : RequestProbeV1} {id : CommandIdentity} {clock : RequestClock} {record : IdempotencyRecord} {db : Db}

theorem request_of_record {receipt : ProbeReceipt} (identified : a.identity = .ok id)
    (found : db.commandIdempotency.get? id.key = some record) (same : record.requestFingerprint = id.fingerprint)
    (answer : record.receipt = .ok receipt) : (requestProbeV1 a clock).run db = .ok (receipt, db) := by
  unfold requestProbeV1
  rw [identified]
  rw [Program.run_lock, Program.run_query, show db.commandIdempotency.get? (id.scope, id.idempotencyKey) = _ from found]
  dsimp only
  rw [if_neg (not_not.2 same), answer]
  rfl

theorem request_of_reused (identified : a.identity = .ok id) (found : db.commandIdempotency.get? id.key = some record)
    (other : record.requestFingerprint ≠ id.fingerprint) : (requestProbeV1 a clock).run db = .error keyReused := by
  unfold requestProbeV1
  rw [identified]
  rw [Program.run_lock, Program.run_query, show db.commandIdempotency.get? (id.scope, id.idempotencyKey) = _ from found]
  dsimp only
  rw [if_pos other]
  rfl

theorem request_of_unrecorded (identified : a.identity = .ok id)
    (unrecorded : db.commandIdempotency.get? id.key = none) :
    (requestProbeV1 a clock).run db = (firstCommand a id clock).run db := by
  unfold requestProbeV1
  rw [identified]
  rw [Program.run_lock, Program.run_query,
    show db.commandIdempotency.get? (id.scope, id.idempotencyKey) = _ from unrecorded]

theorem request_of_stale {state : ProbeState} (identified : a.identity = .ok id)
    (unrecorded : db.commandIdempotency.get? id.key = none) (found : a.probeId.bind db.probeState.get? = some state)
    (other : (state.aggregateVersion : Int) ≠ id.expectedVersion) :
    (requestProbeV1 a clock).run db = .error (staleVersion id.expectedVersion state.aggregateVersion) := by
  rw [request_of_unrecorded identified unrecorded]
  unfold firstCommand
  simp only [Program.run, found, Option.map_some, Option.getD_some, if_pos other]
  rfl

end Recorded

/-! ## The event of a probe -/

theorem length_probeAggregate (probeId : Uuid) :
    1 ≤ (probeAggregate probeId).toList.length ∧ (probeAggregate probeId).toList.length ≤ 128 := by
  have bound := probeId.length_text_le
  have parts : (probeAggregate probeId).toList.length = 15 + probeId.text.toList.length := by
    simp [probeAggregate]
    omega
  omega

/-- The payload of a probe's event. -/
def probePayload (state : ProbeState) : Jsonb :=
  Jsonb.buildObject [("probeId", .string state.probeId.text), ("aggregateVersion", .number state.aggregateVersion)]

theorem octetLength_probePayload {state : ProbeState} (first : state.aggregateVersion = 1) :
    (probePayload state).octetLength ≤ 65536 := by
  have members : probePayload state
      = .object [("probeId", .string state.probeId.text), ("aggregateVersion", .number 1)] := by
    have order : Jsonb.keyBefore "aggregateVersion" "probeId" = false := by decide
    simp [probePayload, first, Jsonb.buildObject, Jsonb.setMember, order]
  have keys : (Jsonb.escape "probeId").utf8ByteSize = 9 ∧ (Jsonb.escape "aggregateVersion").utf8ByteSize = 18 := by
    decide
  have version : (Jsonb.number 1).octetLength = 1 := by
    decide
  have id := Jsonb.octetLength_string_le state.probeId.text
  have bound := state.probeId.length_text_le
  rw [members, Jsonb.octetLength_pair, keys.1, keys.2, version]
  omega

/-- The arguments of a command that the columns of its event accept. -/
structure Storable (a : RequestProbeV1) : Prop where
  metadata : ∃ members, a.metadata = some (.object members) ∧
    ((Jsonb.object members).concat (Jsonb.buildObject [("realtime", .bool true)])).octetLength ≤ 4096
  traceContext : ∃ trace, a.traceContext = some trace ∧ trace.isObject = true ∧ trace.octetLength ≤ 2048
  deadline : ∃ occurredAt, a.occurredAt = some occurredAt ∧
    ∀ deadline, a.deadlineAt = some deadline → occurredAt ≤ deadline

/-- The event of a new probe. -/
structure ProbeEvent (state : ProbeState) (row : OutboxEvent) : Prop where
  pending : row.state = .pending
  protocol : row.envelope.content.protocolVersion = 1
  eventType : row.envelope.content.eventType = "platform.probe.requested.v1"
  aggregateKey : row.envelope.content.aggregateKey = probeAggregate state.probeId
  payload : row.envelope.content.payload = probePayload state
  realtime : Version.supportsV1 row = .ok true

/-- The columns of the event, given the parts that are arguments. -/
def probeContent (a : RequestProbeV1) (state : ProbeState) (occurredAt : Timestamp) (trace metadata : Jsonb) :
    EventContent where
  schemaVersion := 0
  protocolVersion := 1
  eventType := "platform.probe.requested.v1"
  eventVersion := 1
  occurredAt := occurredAt
  producer := "liqi-api"
  correlationId := a.correlationId
  causationId := a.causationId
  aggregateKey := probeAggregate state.probeId
  orderingKey := probeAggregate state.probeId
  traceContext := trace
  deadlineAt := a.deadlineAt
  priority := .durable
  payload := probePayload state
  metadata := metadata

theorem violation_probeContent {a : RequestProbeV1} {state : ProbeState} {occurredAt : Timestamp}
    {trace metadata : Jsonb} (first : state.aggregateVersion = 1) (object : metadata.isObject = true)
    (small : metadata.octetLength ≤ 4096)
    (traceObject : trace.isObject = true) (short : trace.octetLength ≤ 2048)
    (later : ∀ deadline, a.deadlineAt = some deadline → occurredAt ≤ deadline) :
    (probeContent a state occurredAt trace metadata).violation = none := by
  have type : matchesHead Char.isLower (fun ch => isLowerOrDigit ch || ch == '_' || ch == '.' || ch == '-') 2 127
      "platform.probe.requested.v1" = true := by decide
  have producer : ("liqi-".toList.isPrefixOf "liqi-api".toList && matchesAll
      (fun ch => isLowerOrDigit ch || ch == '-') 2 48 (String.ofList ("liqi-api".toList.drop 5))) = true := by decide
  obtain ⟨low, high⟩ := length_probeAggregate state.probeId
  have aggregate : lengthBetween 1 160 (probeAggregate state.probeId) = true := by
    simp only [lengthBetween, Bool.and_eq_true, decide_eq_true_eq]
    exact ⟨low, high.trans (by decide)⟩
  have ordering : lengthBetween 1 128 (probeAggregate state.probeId) = true := by
    simp only [lengthBetween, Bool.and_eq_true, decide_eq_true_eq]
    exact ⟨low, high⟩
  have due : a.deadlineAt.any (fun deadline => decide (deadline < occurredAt)) = false := by
    rcases given : a.deadlineAt with _ | deadline
    · rfl
    · simpa using later deadline given
  have payload : (probePayload state).isObject = true := rfl
  have size := octetLength_probePayload first
  unfold EventContent.violation probeContent
  rw [type, producer, aggregate, ordering, due, payload, object, traceObject]
  simp [small, short, size]

/-- The event of a new probe passes the constraints of its table. -/
theorem Storable.row {a : RequestProbeV1} {state : ProbeState} (storable : Storable a)
    (first : state.aggregateVersion = 1) (now : Timestamp) :
    ∃ row, (a.event state).draft.row now = .ok row ∧ ProbeEvent state row := by
  obtain ⟨members, metadata, small⟩ := storable.metadata
  obtain ⟨trace, traced, object, short⟩ := storable.traceContext
  obtain ⟨occurredAt, occurred, later⟩ := storable.deadline
  let content := probeContent a state occurredAt trace
    ((Jsonb.object members).concat (Jsonb.buildObject [("realtime", .bool true)]))
  have checked : content.violation = none := violation_probeContent first rfl small object short later
  have drafted : (a.event state).draft.content = .ok content := by
    simp [EventDraft.content, EnqueueV1.draft, RequestProbeV1.event, notNull, occurred, metadata, traced]
    rfl
  let row : OutboxEvent :=
    { eventId := state.requestedEventId
      envelope := ⟨content, checked⟩
      state := .pending
      availableAt := now
      attemptCount := 0
      maxAttempts := 8
      lastErrorCode := none }
  refine ⟨row, ?_, ⟨rfl, rfl, rfl, rfl, rfl, ?_⟩⟩
  · unfold EventDraft.row
    rw [drafted]
    show (if h : content.violation = none then _ else _) = _
    rw [dif_pos checked]
    rfl
  · have protocol : row.envelope.content.protocolVersion = 1 := rfl
    have marked : row.envelope.content.metadata.getText "realtime" = some "true" :=
      (Jsonb.getText_concat_single members "realtime" (.bool true)).trans (Jsonb.asText_bool true)
    unfold Version.supportsV1
    rw [if_pos protocol, marked]
    dsimp only
    rw [boolOfText_true]

/-! ## New rows -/

theorem enqueue_of_free {same : OutboxEvent → OutboxEvent → Bool} {d : EventDraft} {now : Timestamp} {row : OutboxEvent}
    {db : Db} (drafted : d.row now = .ok row) (free : db.outboxEvents.get? row.eventId = none) :
    (enqueue same d now).run db = .ok (row.eventId, { db with outboxEvents := db.outboxEvents.insert row }) := by
  unfold enqueue
  rw [drafted]
  rw [Program.run_insert, free]
  rfl

/-- The error of a counter that is used up. -/
def counterFull : SqlError := ⟨.numericValueOutOfRange, "bigint out of range", none⟩

/-- An event that is not in the log yet is appended to it. -/
theorem publish_of_missing {now : Timestamp} {eventId : Uuid} {event : OutboxEvent} {db : Db}
    (missing : db.handoffV1.find eventId = none) (stored : db.outboxEvents.get? eventId = some event)
    (realtime : Version.supportsV1 event = .ok true)
    (unused : db.handoffV1.events.get? (db.handoffV1.lastHandoffId + 1) = none) :
    (publishRealtimeHandoffV1 now (some eventId)).run db =
      if db.handoffV1.lastHandoffId + 1 ≤ bigintMax then
        .ok (db.handoffV1.lastHandoffId + 1, db.setHandoff .v1 (db.handoffV1.append
          ⟨db.handoffV1.lastHandoffId + 1, eventId, event.envelope, now⟩))
      else .error counterFull := by
  unfold publishRealtimeHandoffV1 publishRealtimeHandoff
  rw [Program.run_lock, Program.run_query, show (db.handoff .v1).find eventId = none from missing]
  dsimp only [Version.requireSupported]
  rw [Program.run_query, stored, Option.map_some, realtime]
  unfold nextHandoffId
  simp only [Program.run]
  by_cases room : db.handoffV1.lastHandoffId + 1 ≤ bigintMax
  · have clash : HandoffLog.violation { db.handoff .v1 with lastHandoffId := (db.handoff .v1).lastHandoffId + 1 }
        ⟨(db.handoff .v1).lastHandoffId + 1, eventId, event.envelope, now⟩ = none :=
      violation_eq_none.2 ⟨unused, missing⟩
    have room' : (db.handoff .v1).lastHandoffId + 1 ≤ bigintMax := room
    rw [if_pos room, if_pos room', if_pos room']
    unfold insertHandoff
    rw [Program.run_insert]
    simp only [applyAll_cons, applyAll_nil, Store.apply, Write.apply, Db.outboxEvents_setHandoff, stored,
      Db.handoff_setHandoff_self, clash]
    rfl
  · have full : ¬ (db.handoff .v1).lastHandoffId + 1 ≤ bigintMax := room
    rw [if_neg room, if_neg full]
    rfl

theorem insertIdempotency_of_new {row : IdempotencyRecord} {next : Body ProbeReceipt} {db : Db}
    (unrecorded : db.commandIdempotency.get? row.key = none)
    (unanswered : ∀ record ∈ db.commandIdempotency, record.eventId ≠ row.eventId) :
    (insertIdempotency row next).run db
      = next.run { db with commandIdempotency := db.commandIdempotency.insert row } := by
  have other : db.commandIdempotency.rows.any (fun record => record.eventId = row.eventId) = false := by
    rw [List.any_eq_false]
    intro record stored
    simpa using unanswered record stored
  unfold insertIdempotency
  rw [Program.run_insert, unrecorded]
  simp only [Option.isSome_none, Bool.false_eq_true, if_false, other]
  rfl

/-- What a command meets that creates its probe, the room of the counter apart. -/
structure FirstCommand (a : RequestProbeV1) (id : CommandIdentity) (clock : RequestClock) (state : ProbeState)
    (row : OutboxEvent) (db : Db) : Prop where
  identified : a.identity = .ok id
  expected : id.expectedVersion = 0
  unrecorded : db.commandIdempotency.get? id.key = none
  requested : probeRow a.probeId a.eventId a.occurredAt 1 = .ok state
  drafted : (a.event state).draft.row clock.enqueued = .ok row
  realtime : Version.supportsV1 row = .ok true
  absent : db.probeState.get? state.probeId = none
  unrequested : db.probeOfEvent state.requestedEventId = none
  unanswered : ∀ record ∈ db.commandIdempotency, record.eventId ≠ state.requestedEventId
  traced : Traced db

section First

variable {a : RequestProbeV1} {id : CommandIdentity} {clock : RequestClock} {state : ProbeState} {row : OutboxEvent}
  {db : Db}

theorem FirstCommand.eventId (first : FirstCommand a id clock state row db) : row.eventId = state.requestedEventId :=
  (Option.some.inj (EventDraft.fresh_row first.drafted).eventId).symm

theorem FirstCommand.free (first : FirstCommand a id clock state row db) :
    db.outboxEvents.get? row.eventId = none := by
  rw [Table.get?_eq_none]
  intro event stored same
  exact first.traced.requested event stored (by rw [same, first.eventId]; exact first.unrequested)

theorem FirstCommand.unpublished (first : FirstCommand a id clock state row db) :
    db.handoffV1.find state.requestedEventId = none := by
  rw [HandoffLog.find_eq_none]
  intro published stored same
  exact first.traced.published published stored (by rw [same, ← first.eventId]; exact first.free)

/-- The writes of a first command, the counter's room apart. -/
theorem FirstCommand.createProbe_run (first : FirstCommand a id clock state row db) :
    (createProbe a id clock state).run db =
      if db.handoffV1.lastHandoffId + 1 ≤ bigintMax then
        .ok (createdReceipt state (db.handoffV1.lastHandoffId + 1), db.create id clock state row)
      else .error counterFull := by
  let probed : Db := { db with probeState := db.probeState.insert state }
  let stored : Db := { probed with outboxEvents := db.outboxEvents.insert row }
  have enqueued : (enqueueOutboxV1 (a.event state) clock.enqueued).run probed = .ok (row.eventId, stored) :=
    enqueue_of_free first.drafted first.free
  have found : stored.outboxEvents.get? state.requestedEventId = some row := by
    show (db.outboxEvents.insert row).get? state.requestedEventId = some row
    rw [← first.eventId, Table.get?_insert first.free, if_pos rfl]
  have published := @publish_of_missing clock.published state.requestedEventId row stored first.unpublished found
    first.realtime first.traced.unused
  unfold createProbe
  rw [Program.run_insert, first.absent, first.unrequested]
  simp only [Option.isSome_none, Bool.false_eq_true, if_false]
  rw [Program.run_bind, show Store.apply db (Write.insertProbeState state) = probed from rfl, enqueued]
  dsimp only
  rw [Program.run_bind, published]
  by_cases room : db.handoffV1.lastHandoffId + 1 ≤ bigintMax
  · rw [if_pos room, if_pos (show stored.handoffV1.lastHandoffId + 1 ≤ bigintMax from room)]
    dsimp only
    rw [insertIdempotency_of_new]
    · rfl
    · rw [Db.commandIdempotency_setHandoff]
      exact first.unrecorded
    · rw [Db.commandIdempotency_setHandoff]
      exact first.unanswered
  · rw [if_neg room, if_neg (show ¬ stored.handoffV1.lastHandoffId + 1 ≤ bigintMax from room)]

/-- **A first command.** It writes all its rows, unless the handoff counter is used up. -/
theorem FirstCommand.run (first : FirstCommand a id clock state row db) :
    (requestProbeV1 a clock).run db =
      if db.handoffV1.lastHandoffId + 1 ≤ bigintMax then
        .ok (createdReceipt state (db.handoffV1.lastHandoffId + 1), db.create id clock state row)
      else .error counterFull := by
  have named := probeRow_probeId first.requested
  have requested := first.requested
  rw [named] at requested
  rw [request_of_unrecorded first.identified first.unrecorded, ← first.createProbe_run]
  unfold firstCommand
  simp only [Program.run, named, Option.bind_some, first.absent, Option.map_none, Option.getD_none, first.expected,
    ne_eq, not_true_eq_false, if_false, applyAll_nil]
  rw [show ((0 : Int) + 1).toNat = 1 from rfl, requested]

end First

end Liqi.Database
