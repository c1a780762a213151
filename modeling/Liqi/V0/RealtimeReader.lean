import Liqi.Database.Enqueue
import Liqi.Database.Handoff
import Liqi.V0.Envelope

/-!
# The committed realtime reader

`PostgresAuthorityStore` as a `CommittedRealtimeReader`: it turns the opaque cursor of a subscription into a
handoff id, reads one page of the V0 handoff log and maps every row. One row that does not map fails the
whole read.
-/

namespace Liqi.V0

open Postgres Liqi.Database

/-- An opaque text of 1 to 512 bytes. -/
structure RealtimeCursor where
  opaqueText : String
  bounded : opaqueText ≠ "" ∧ opaqueText.utf8ByteSize ≤ 512
  deriving DecidableEq

namespace RealtimeCursor

def fromOpaque (value : String) : Except PersistenceError RealtimeCursor :=
  if h : value ≠ "" ∧ value.utf8ByteSize ≤ 512 then .ok ⟨value, h⟩ else .error .invalidOperation

theorem fromOpaque_ok {value : String} {cursor : RealtimeCursor} (made : fromOpaque value = .ok cursor) :
    cursor.opaqueText = value := by
  unfold fromOpaque at made
  split at made
  · cases made; rfl
  · cases made

end RealtimeCursor

structure RealtimeReadRequest where
  topics : List String
  after : Option RealtimeCursor
  batchSize : Nat

def RealtimeReadRequest.validate (request : RealtimeReadRequest) : Except PersistenceError Unit :=
  if request.topics = [] ∨ 64 < request.topics.length ∨ request.batchSize = 0 ∨ 50 < request.batchSize then
    .error .invalidOperation
  else .ok ()

structure RealtimeDelivery where
  cursor : RealtimeCursor
  event : EventEnvelope

structure RealtimeEventBatch where
  deliveries : List RealtimeDelivery
  nextCursor : Option RealtimeCursor

/-- What a session reads from: any `CommittedRealtimeReader`, at one moment. -/
abbrev Reader := RealtimeReadRequest → Except PersistenceError RealtimeEventBatch

def mapRealtimeRow (row : HandoffEvent) : Except PersistenceError RealtimeDelivery :=
  if row.handoffId = 0 then .error .invalidOperation
  else do
    let cursor ← RealtimeCursor.fromOpaque (toString row.handoffId)
    let event ← mapEventRow row.eventId row.envelope.content
    return { cursor, event }

/-- `parse::<i64>` of the cursor, 0 without one. -/
def afterHandoffId (after : Option RealtimeCursor) : Except PersistenceError Int :=
  match after with
  | none => .ok 0
  | some cursor => match Rust.parseI64 cursor.opaqueText with
    | none => .error .invalidOperation
    | some id => if id < 0 then .error .invalidOperation else .ok id

/-- `i32::try_from(batch_size)`. -/
def batchI32 (batchSize : Nat) : Except PersistenceError Int :=
  if batchSize ≤ 2 ^ 31 - 1 then .ok batchSize else .error .invalidOperation

/-- `read_committed` of `PostgresAuthorityStore`, where the database answers. -/
def readCommitted (db : Db) : Reader := fun request => do
  request.validate
  if request.topics ≠ [platformProbeEvent] then .error .invalidOperation
  else do
    let after ← afterHandoffId request.after
    let batch ← batchI32 request.batchSize
    match readRealtimeHandoffV0 (some after) (some batch) db with
    | .error e => .error (mapSqlx e)
    | .ok rows =>
      let deliveries ← rows.mapM mapRealtimeRow
      return { deliveries, nextCursor := deliveries.getLast?.map RealtimeDelivery.cursor }

theorem mapRealtimeRow_ok {row : HandoffEvent} {delivery : RealtimeDelivery}
    (mapped : mapRealtimeRow row = .ok delivery) : delivery.cursor.opaqueText = toString row.handoffId := by
  unfold mapRealtimeRow at mapped
  split at mapped
  · cases mapped
  · obtain ⟨cursor, made, mapped⟩ := bind_ok mapped
    obtain ⟨event, _, mapped⟩ := bind_ok mapped
    cases mapped
    exact RealtimeCursor.fromOpaque_ok made

theorem mapM_cursors {rows : List HandoffEvent} {deliveries : List RealtimeDelivery}
    (mapped : rows.mapM mapRealtimeRow = .ok deliveries) :
    deliveries.map (·.cursor.opaqueText) = rows.map fun row => toString row.handoffId := by
  have collected := mapM_ok mapped
  clear mapped
  induction collected with
  | nil => rfl
  | cons first _ ih => rw [List.map_cons, List.map_cons, mapRealtimeRow_ok first, ih]

/-- Every id up to the last is in the log, and no other. -/
def ConsecutiveIds (log : HandoffLog) : Prop :=
  ∀ id, (∃ row ∈ log.events, row.handoffId = id) ↔ 1 ≤ id ∧ id ≤ log.lastHandoffId

theorem page_consecutive {log : HandoffLog} (ids : ConsecutiveIds log) (after batch : Nat) :
    (log.page after batch).map HandoffEvent.handoffId
      = List.range' (after + 1) (min batch (log.lastHandoffId - after)) := by
  refine Table.map_select_range' (fun _ _ => Iff.rfl) batch ?_
  intro id above
  rw [ids]
  omega

/-- **What a read returns.** It is the page of consecutive ids after the cursor, and the next cursor is the
last of them. -/
theorem readCommitted_ok {db : Db} (ids : ConsecutiveIds db.handoffV0) {request : RealtimeReadRequest}
    {batch : RealtimeEventBatch} (read : readCommitted db request = .ok batch) :
    ∃ after n : Nat, afterHandoffId request.after = .ok after ∧
      batch.deliveries.map (·.cursor.opaqueText) = (List.range' (after + 1) n).map toString ∧
      batch.nextCursor = batch.deliveries.getLast?.map RealtimeDelivery.cursor := by
  obtain ⟨_, _, read⟩ := bind_ok read
  split_ifs at read
  obtain ⟨after, parsed, read⟩ := bind_ok read
  obtain ⟨size, _, read⟩ := bind_ok read
  split at read
  · cases read
  next rows page =>
    obtain ⟨deliveries, mapped, read⟩ := bind_ok read
    cases read
    unfold readRealtimeHandoffV0 checkPage at page
    obtain ⟨⟨from_, limit⟩, checked, page⟩ := bind_ok page
    cases page
    dsimp only at checked
    split_ifs at checked with negative bad
    cases checked
    refine ⟨after.toNat, min size.toNat (db.handoffV0.lastHandoffId - after.toNat), ?_, ?_, rfl⟩
    · rw [parsed, Int.toNat_of_nonneg (not_lt.1 negative)]
    · rw [mapM_cursors mapped, ← page_consecutive ids, List.map_map]
      rfl

end Liqi.V0
