import Liqi.Database.Schema

/-!
# The realtime handoff log

A producer publishes a committed event by taking the next id of a singleton counter row and copying
the event's columns under that id. Readers page through the log by id. Retention deletes old rows
and remembers the highest deleted id, so that a reader behind it is told.
-/

namespace Liqi.Database

open Postgres

/-- The greatest `bigint`. -/
def bigintMax : Nat := 2 ^ 63 - 1

namespace Version

/-- The text of the advisory lock that serialises duplicate publications of one event. -/
def lockText : Version → Uuid → String
  | .v0, eventId => "liqi-realtime-handoff:" ++ eventId.text
  | .v1, eventId => "liqi-realtime-handoff-v1:" ++ eventId.text

/-- `event_type = 'platform.probe.requested.v0' AND event_version = 0`. -/
def supportsV0 (event : OutboxEvent) : Bool :=
  event.envelope.content.eventType == "platform.probe.requested.v0" && event.envelope.content.eventVersion == 0

/-- `protocol_version = 1 AND COALESCE((metadata ->> 'realtime')::boolean, false)`. -/
def supportsV1 (event : OutboxEvent) : Except SqlError Bool :=
  if event.envelope.content.protocolVersion = 1 then
    match event.envelope.content.metadata.getText "realtime" with
    | none => .ok false
    | some text => match boolOfText text with
      | some b => .ok b
      | none => .error ⟨.invalidTextRepresentation, "invalid input syntax for type boolean", none⟩
  else .ok false

/-- The checks between the lookup of an earlier publication and the counter. V0 looks for the event
twice, V1 once. -/
def requireSupported (version : Version) (eventId : Uuid) (next : Body Nat) : Body Nat :=
  match version with
  | .v0 => .query fun db =>
      if (db.outboxEvents.get? eventId).isNone then
        .raise ⟨.foreignKeyViolation, "realtime handoff requires an existing durable outbox event", none⟩
      else .query fun db =>
        if (db.outboxEvents.get? eventId).any supportsV0 then next
        else .raise ⟨.featureNotSupported,
          "V0 realtime handoff only supports platform.probe.requested.v0 version 0", none⟩
  | .v1 => .query fun db =>
      match (db.outboxEvents.get? eventId).map supportsV1 with
      | some (.error e) => .raise e
      | some (.ok true) => next
      | _ => .raise ⟨.featureNotSupported,
          "V1 realtime handoff requires a protocol-v1 outbox event marked for realtime", none⟩

end Version

/-- The handoff row of an event. -/
def HandoffLog.find (log : HandoffLog) (eventId : Uuid) : Option HandoffEvent :=
  log.events.rows.find? fun row => row.eventId = eventId

/-- The unique constraint of the log that a new row violates. -/
def HandoffLog.violation (log : HandoffLog) (row : HandoffEvent) : Option SqlError :=
  if (log.events.get? row.handoffId).isSome then some (.unique "realtime_handoff_events_pkey")
  else if (log.find row.eventId).isSome then some (.unique "realtime_handoff_events_event_id_key")
  else none

/-- `INSERT ... SELECT ... FROM outbox_events`, which stores nothing if the event is not there. -/
def insertHandoff (version : Version) (now : Timestamp) (id : Nat) (eventId : Uuid) : Body Nat :=
  .insert
    (fun db => match db.outboxEvents.get? eventId with
      | none => .ok none
      | some event => match (db.handoff version).violation ⟨id, eventId, event.envelope, now⟩ with
        | some e => .error e
        | none => .ok (some ⟨id, eventId, event.envelope, now⟩))
    (fun row => [.handoffId version row.handoffId, .handoffEvent version row.eventId])
    (.insertHandoffEvent version) fun _ => .ret id

/-- `UPDATE ... SET last_handoff_id = last_handoff_id + 1 ... RETURNING`. -/
def nextHandoffId (version : Version) (next : Nat → Body Nat) : Body Nat :=
  .stmt (fun _ => [.handoffCounter version])
    (fun db =>
      if (db.handoff version).lastHandoffId + 1 ≤ bigintMax then
        [.setLastHandoffId version ((db.handoff version).lastHandoffId + 1)]
      else [])
    fun db =>
      if (db.handoff version).lastHandoffId + 1 ≤ bigintMax then next ((db.handoff version).lastHandoffId + 1)
      else .raise ⟨.numericValueOutOfRange, "bigint out of range", none⟩

/-- `publish_realtime_handoff_v0` and `publish_realtime_handoff_v1`. -/
def publishRealtimeHandoff (version : Version) (now : Timestamp) (eventId : Option Uuid) : Body Nat :=
  match eventId with
  | none => .raise (.invalidParameter "event id is required")
  | some eventId =>
    .lock (.advisory (version.lockText eventId)) <|
      .query fun db => match (db.handoff version).find eventId with
        | some row => .ret row.handoffId
        | none => version.requireSupported eventId <| nextHandoffId version fun id => insertHandoff version now id eventId

def publishRealtimeHandoffV0 (now : Timestamp) (eventId : Option Uuid) : Body Nat :=
  publishRealtimeHandoff .v0 now eventId

def publishRealtimeHandoffV1 (now : Timestamp) (eventId : Option Uuid) : Body Nat :=
  publishRealtimeHandoff .v1 now eventId

def HandoffEvent.before (a b : HandoffEvent) : Prop := a.handoffId ≤ b.handoffId

instance : DecidableRel HandoffEvent.before := fun a b => inferInstanceAs (Decidable (a.handoffId ≤ b.handoffId))

/-- The argument checks that both readers make. -/
def checkPage (after batch : Option Int) : Except SqlError (Nat × Nat) :=
  match after with
  | none => .error (.invalidParameter "after_handoff_id must be zero or greater")
  | some after =>
    if after < 0 then .error (.invalidParameter "after_handoff_id must be zero or greater")
    else match batch with
      | none => .error (.invalidParameter "batch_size must be between 1 and 128")
      | some batch =>
        if batch < 1 ∨ 128 < batch then .error (.invalidParameter "batch_size must be between 1 and 128")
        else .ok (after.toNat, batch.toNat)

/-- `WHERE handoff_id > after ORDER BY handoff_id LIMIT batch`. -/
def HandoffLog.page (log : HandoffLog) (after batch : Nat) : List HandoffEvent :=
  log.events.select (fun row => after < row.handoffId) HandoffEvent.before (some batch)

def readRealtimeHandoffV0 (after batch : Option Int) (db : Db) : Except SqlError (List HandoffEvent) := do
  let (after, batch) ← checkPage after batch
  return db.handoffV0.page after batch

/-- The error that tells a reader that rows behind its cursor are gone. -/
def cursorGap (after retained : Nat) : SqlError where
  state := .realtimeCursorGap
  message := "realtime cursor is older than the retained handoff watermark"
  detail := some (Jsonb.buildObject [("afterHandoffId", .number after), ("retainedAfterHandoffId", .number retained)])

def readRealtimeHandoffV1 (after batch : Option Int) (db : Db) : Except SqlError (List HandoffEvent) := do
  let (after, batch) ← checkPage after batch
  if after < db.retainedAfterHandoffId then .error (cursorGap after db.retainedAfterHandoffId)
  else return db.handoffV1.page after batch

/-- A read whose arguments pass the checks. -/
theorem readRealtimeHandoffV1_eq {after batch : Int} (start : 0 ≤ after) (low : 1 ≤ batch) (high : batch ≤ 128) (db : Db) :
    readRealtimeHandoffV1 (some after) (some batch) db
      = if after.toNat < db.retainedAfterHandoffId then .error (cursorGap after.toNat db.retainedAfterHandoffId)
        else .ok (db.handoffV1.page after.toNat batch.toNat) := by
  have size : ¬ (batch < 1 ∨ 128 < batch) := by omega
  have checked : checkPage (some after) (some batch) = .ok (after.toNat, batch.toNat) := by
    simp only [checkPage, if_neg (Int.not_lt.2 start), if_neg size]
  unfold readRealtimeHandoffV1
  rw [checked]
  rfl

structure Pruned where
  deletedCount : Nat
  retainedAfterHandoffId : Nat
  deriving DecidableEq

/-- The ids that one prune deletes; `skipped` are the rows that another transaction has locked. -/
def pruneCandidates (recordedBefore : Timestamp) (batch : Nat) (skipped : Nat → Bool) (db : Db) : List Nat :=
  (db.handoffV1.events.select (fun row => row.recordedAt < recordedBefore && !skipped row.handoffId)
    HandoffEvent.before (some batch)).map HandoffEvent.handoffId

/-- `GREATEST(retained_after_handoff_id, highest_deleted)`, unless nothing was deleted. -/
def raiseWatermark (retained : Nat) (deleted : List Nat) : Nat :=
  match deleted.max? with
  | some highest => max retained highest
  | none => retained

/-- The state after the rows `ids` are deleted and the watermark covers them. -/
def deleteHandoffs (ids : List Nat) (db : Db) : Db :=
  { db with
    handoffV1 := { db.handoffV1 with events := db.handoffV1.events.delete fun row => ids.contains row.handoffId }
    retainedAfterHandoffId := raiseWatermark db.retainedAfterHandoffId ids }

def pruneRealtimeHandoffV1 (recordedBefore : Option Timestamp) (batch : Option Int) (skipped : Nat → Bool) (db : Db) :
    Except SqlError (Pruned × Db) :=
  match recordedBefore with
  | none => .error (.invalidParameter "recorded_before is required")
  | some recordedBefore => match batch with
    | none => .error (.invalidParameter "batch size must be between 1 and 500")
    | some batch =>
      if batch < 1 ∨ 500 < batch then .error (.invalidParameter "batch size must be between 1 and 500")
      else
        let ids := pruneCandidates recordedBefore batch.toNat skipped db
        let db' := deleteHandoffs ids db
        if db'.handoffV1.lastHandoffId < db'.retainedAfterHandoffId then
          .error (.check "realtime_handoff_state_v1_check")
        else .ok (⟨ids.length, db'.retainedAfterHandoffId⟩, db')

end Liqi.Database
