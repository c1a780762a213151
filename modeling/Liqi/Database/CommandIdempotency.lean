import Mathlib
import Liqi.Database.CommandSafety

/-!
# Command idempotency

Any number of `request_probe_v1` transactions run side by side. For each key at most one of them creates
state; every later call with its fingerprint is answered as that one was, every later call with another
fingerprint is refused, and only the creating call changes the database. `HistoryKept` ties the records
of the database to the history of the calls.
-/

namespace Liqi.Database

open Postgres Store

abbrev Command := RequestProbeV1 × RequestClock

def Command.body (command : Command) : Body ProbeReceipt := requestProbeV1 command.1 command.2

abbrev CommandWorld := World Command Db Write Lock SqlError ProbeReceipt

/-- A finished transaction. -/
abbrev CommandEntry := Command × Postgres.Ending SqlError ProbeReceipt

def CommandIdentity.key (id : CommandIdentity) : String × String := (id.scope, id.idempotencyKey)

/-- The entry is a call that committed and did not report a duplicate. -/
structure Creates (entry : CommandEntry) (id : CommandIdentity) (receipt : ProbeReceipt) : Prop where
  identified : entry.1.1.identity = .ok id
  committed : entry.2 = .committed receipt
  first : receipt.duplicate = false

/-- Two receipts that differ at most in `duplicate`. -/
structure SameAnswer (a b : ProbeReceipt) : Prop where
  probeId : a.probeId = b.probeId
  eventId : a.eventId = b.eventId
  aggregateVersion : a.aggregateVersion = b.aggregateVersion
  handoffCursor : a.handoffCursor = b.handoffCursor
  outcome : a.outcome = b.outcome

/-- One new row in each of the four tables, and the next handoff id. -/
structure AddsRows (receipt : ProbeReceipt) (db db' : Db) : Prop where
  probe : ∃ state, db'.probeState.rows = db.probeState.rows ++ [state] ∧ receipt.probeId = some state.probeId
  event : ∃ row, db'.outboxEvents.rows = db.outboxEvents.rows ++ [row] ∧ row.eventId = receipt.eventId
  handoff : ∃ row, db'.handoffV1.events.rows = db.handoffV1.events.rows ++ [row] ∧ row.eventId = receipt.eventId ∧
    receipt.handoffCursor = some (row.handoffId : Int)
  counter : db'.handoffV1.lastHandoffId = db.handoffV1.lastHandoffId + 1
  record : ∃ record, db'.commandIdempotency.rows = db.commandIdempotency.rows ++ [record] ∧
    record.eventId = receipt.eventId

/-- The five tables that the function writes are as before. -/
structure SameTables (db db' : Db) : Prop where
  probeState : db'.probeState = db.probeState
  outboxEvents : db'.outboxEvents = db.outboxEvents
  handoffV1 : db'.handoffV1 = db.handoffV1
  commandIdempotency : db'.commandIdempotency = db.commandIdempotency

/-- How one entry relates to the entries before it. -/
structure EntryKept (before : List CommandEntry) (entry : CommandEntry) : Prop where
  /-- A key is used for creation once. -/
  once : ∀ id receipt, Creates entry id receipt → ∀ earlier ∈ before, ∀ id' receipt', Creates earlier id' receipt' →
    id'.key ≠ id.key
  /-- A duplicate repeats the answer of the creating call, which had the same fingerprint. -/
  duplicate : ∀ receipt, entry.2 = .committed receipt → receipt.duplicate = true →
    ∃ id, entry.1.1.identity = .ok id ∧ ∃ earlier ∈ before, ∃ id' receipt', Creates earlier id' receipt' ∧
      id'.key = id.key ∧ id'.fingerprint = id.fingerprint ∧ SameAnswer receipt receipt'
  /-- A key used for another command is refused. -/
  conflict : ∀ id, entry.1.1.identity = .ok id → ∀ earlier ∈ before, ∀ id' receipt', Creates earlier id' receipt' →
    id'.key = id.key → id'.fingerprint ≠ id.fingerprint → entry.2 = .raised keyReused ∨ entry.2 = .aborted

/-- What a step does to the database: nothing, unless it commits a creating call. -/
structure StepKept (w w' : CommandWorld) : Prop where
  working : w'.history = w.history → SameTables w.db w'.db
  ended : ∀ entry, w'.history = w.history ++ [entry] →
    (∃ receipt, entry.2 = .committed receipt ∧ receipt.duplicate = false ∧ AddsRows receipt w.db w'.db) ∨
    ((∀ receipt, entry.2 = .committed receipt → receipt.duplicate = true) ∧ SameTables w.db w'.db)

/-! ## Records and history -/

/-- The records are those of the creating calls. -/
structure HistoryKept (history : List CommandEntry) (db : Db) : Prop where
  created : ∀ entry ∈ history, ∀ id receipt, Creates entry id receipt →
    ∃ record, db.commandIdempotency.get? id.key = some record ∧ record.requestFingerprint = id.fingerprint ∧
      ∃ again, record.receipt = .ok again ∧ SameAnswer again receipt
  recorded : ∀ record ∈ db.commandIdempotency, ∃ entry ∈ history, ∃ id receipt, Creates entry id receipt ∧
    id.key = record.key ∧ id.fingerprint = record.requestFingerprint

section Records

variable {a : RequestProbeV1} {clock : RequestClock} {id : CommandIdentity} {state : ProbeState} {row : OutboxEvent}
  {receipt : ProbeReceipt} {history : List CommandEntry} {db db' : Db}

/-- A record reads back what was answered at its creation. -/
theorem receipt_idempotencyRow (id : CommandIdentity) (state : ProbeState) (cursor : Nat) (now : Timestamp) :
    (idempotencyRow id state cursor now).receipt = .ok { createdReceipt state cursor with duplicate := true } := by
  have probe : (createdOutcome state cursor).getText "probeId" = some state.probeId.text := by
    simp [createdOutcome, Jsonb.buildObject, Jsonb.getText, Jsonb.lookup_setMember]
  have handoff : (createdOutcome state cursor).getText "handoffCursor" = some (cursor : Int).repr := by
    simp [createdOutcome, Jsonb.buildObject, Jsonb.getText, Jsonb.lookup_setMember]
  unfold IdempotencyRecord.receipt idempotencyRow
  simp only [probe, handoff, castUuid, castBigint, Uuid.ofText_text, Int.toInt?_repr]
  rfl

theorem duplicate_of_receipt {record : IdempotencyRecord} (h : record.receipt = .ok receipt) :
    receipt.duplicate = true := by
  obtain ⟨probeId, _, h⟩ := bind_ok h
  obtain ⟨cursor, _, h⟩ := bind_ok h
  cases h
  rfl

theorem not_creates {entry : CommandEntry} (other : ∀ receipt, entry.2 ≠ .committed receipt) (id : CommandIdentity)
    (receipt : ProbeReceipt) : ¬ Creates entry id receipt := fun creates => other receipt creates.committed

/-- An entry that created nothing leaves the history kept. -/
theorem HistoryKept.append (kept : HistoryKept history db) {entry : CommandEntry}
    (other : ∀ id receipt, ¬ Creates entry id receipt) : HistoryKept (history ++ [entry]) db := by
  refine ⟨?_, ?_⟩
  · intro e member id receipt creates
    rcases List.mem_append.1 member with old | new
    · exact kept.created e old id receipt creates
    · rw [List.mem_singleton.1 new] at creates
      exact absurd creates (other id receipt)
  · intro record stored
    obtain ⟨e, member, rest⟩ := kept.recorded record stored
    exact ⟨e, List.mem_append_left _ member, rest⟩

/-- The creating call's own record is added. -/
theorem HistoryKept.create (kept : HistoryKept history db) (identified : a.identity = .ok id)
    (unrecorded : db.commandIdempotency.get? id.key = none) :
    HistoryKept (history ++ [((a, clock), .committed (createdReceipt state (db.handoffV1.lastHandoffId + 1)))])
      (db.create id clock state row) := by
  let record := idempotencyRow id state (db.handoffV1.lastHandoffId + 1) clock.recorded
  have absent : db.commandIdempotency.get? record.key = none := unrecorded
  have creates : Creates ((a, clock), .committed (createdReceipt state (db.handoffV1.lastHandoffId + 1))) id
      (createdReceipt state (db.handoffV1.lastHandoffId + 1)) := ⟨identified, rfl, rfl⟩
  refine ⟨?_, ?_⟩
  · intro e member id' receipt' creates'
    show ∃ record', (db.commandIdempotency.insert record).get? id'.key = some record' ∧ _
    rcases List.mem_append.1 member with old | new
    · obtain ⟨record', found, rest⟩ := kept.created e old id' receipt' creates'
      obtain ⟨stored, key⟩ := Table.get?_eq_some.1 found
      exact ⟨record', Table.get?_eq_some.2 ⟨Table.mem_insert_of_mem stored, key⟩, rest⟩
    · rw [List.mem_singleton.1 new] at creates'
      obtain rfl : id' = id := Except.ok.inj (creates'.identified.symm.trans identified)
      obtain rfl : createdReceipt state (db.handoffV1.lastHandoffId + 1) = receipt' := by
        simpa using creates'.committed
      refine ⟨record, ?_, rfl, _, receipt_idempotencyRow _ _ _ _, ⟨rfl, rfl, rfl, rfl, rfl⟩⟩
      exact Table.get?_eq_some.2 ⟨(Table.mem_insert absent).2 (.inr rfl), rfl⟩
  · intro record' stored
    rcases (Table.mem_insert absent).1 stored with old | rfl
    · obtain ⟨e, member, rest⟩ := kept.recorded record' old
      exact ⟨e, List.mem_append_left _ member, rest⟩
    · exact ⟨_, List.mem_append_right _ (List.mem_singleton.2 rfl), id, _, creates, rfl, rfl⟩

/-- No call has created state under a key without a record. -/
theorem HistoryKept.not_created (kept : HistoryKept history db) (unrecorded : db.commandIdempotency.get? id.key = none) :
    ∀ earlier ∈ history, ∀ id' receipt', Creates earlier id' receipt' → id'.key ≠ id.key := by
  intro earlier member id' receipt' creates same
  obtain ⟨record, found, _⟩ := kept.created earlier member id' receipt' creates
  rw [same, unrecorded] at found
  cases found

/-- A call answered from its record. -/
theorem HistoryKept.duplicate_entry (clock : RequestClock) {record : IdempotencyRecord} (kept : HistoryKept history db)
    (identified : a.identity = .ok id) (found : db.commandIdempotency.get? id.key = some record)
    (fingerprint : record.requestFingerprint = id.fingerprint) (answered : record.receipt = .ok receipt) :
    EntryKept history ((a, clock), .committed receipt) := by
  have duplicate := duplicate_of_receipt answered
  obtain ⟨stored, key⟩ := Table.get?_eq_some.1 found
  refine ⟨?_, ?_, ?_⟩
  · intro id' receipt' creates
    obtain rfl : receipt = receipt' := by simpa using creates.committed
    rw [creates.first] at duplicate
    cases duplicate
  · intro receipt' committed _
    obtain rfl : receipt = receipt' := by simpa using committed
    obtain ⟨earlier, member, id', receipt', creates, key', fingerprint'⟩ := kept.recorded record stored
    obtain ⟨record', found', _, again, answered', same⟩ := kept.created earlier member id' receipt' creates
    rw [key', key, found] at found'
    cases found'
    rw [answered] at answered'
    cases answered'
    exact ⟨id, identified, earlier, member, id', receipt', creates, key'.trans key, fingerprint'.trans fingerprint, same⟩
  · intro id' identified' earlier member id'' receipt'' creates same other
    obtain rfl : id = id' := Except.ok.inj (identified.symm.trans identified')
    obtain ⟨record', found', fingerprint', _⟩ := kept.created earlier member id'' receipt'' creates
    rw [same, found] at found'
    cases found'
    exact absurd (fingerprint'.symm.trans fingerprint) other

/-- A call that created its record. -/
theorem HistoryKept.created_entry (clock : RequestClock) (kept : HistoryKept history db) (identified : a.identity = .ok id)
    (unrecorded : db.commandIdempotency.get? id.key = none) (first : receipt.duplicate = false) :
    EntryKept history ((a, clock), .committed receipt) := by
  refine ⟨?_, ?_, ?_⟩
  · intro id' receipt' creates
    obtain rfl : id = id' := Except.ok.inj (identified.symm.trans creates.identified)
    exact kept.not_created unrecorded
  · intro receipt' committed duplicate
    obtain rfl : receipt = receipt' := by simpa using committed
    rw [first] at duplicate
    cases duplicate
  · intro id' identified' earlier member id'' receipt'' creates same
    obtain rfl : id = id' := Except.ok.inj (identified.symm.trans identified')
    exact absurd same (kept.not_created unrecorded earlier member id'' receipt'' creates)

theorem HistoryKept.raised_entry (clock : RequestClock) {e : SqlError} (kept : HistoryKept history db) (refused : Refused a e db) :
    EntryKept history ((a, clock), .raised e) := by
  refine ⟨fun id receipt creates => absurd creates (not_creates (by simp) id receipt), nofun, ?_⟩
  intro id identified earlier member id' receipt' creates same other
  obtain ⟨record, found, fingerprint, _⟩ := kept.created earlier member id' receipt' creates
  rw [same] at found
  rw [← fingerprint] at other
  rw [refused id record identified found other]
  exact .inl rfl

theorem aborted_entry (command : Command) : EntryKept history (command, .aborted) :=
  ⟨fun id receipt creates => absurd creates (not_creates (by simp) id receipt), nofun, fun _ _ _ _ _ _ _ _ _ => .inr rfl⟩

theorem addsRows_create (inv : Traced db) (absent : db.probeState.get? state.probeId = none)
    (free : db.outboxEvents.get? row.eventId = none) (key : row.eventId = state.requestedEventId)
    (unrecorded : db.commandIdempotency.get? id.key = none) :
    AddsRows (createdReceipt state (db.handoffV1.lastHandoffId + 1)) db (db.create id clock state row) := by
  have unused := inv.unused
  refine ⟨⟨state, Table.insert_rows absent, rfl⟩, ⟨row, Table.insert_rows free, key⟩, ⟨_, Table.insert_rows unused, rfl, ?_⟩,
    rfl, ⟨_, Table.insert_rows unrecorded, rfl⟩⟩
  simp [createdReceipt]

end Records

/-! ## Whole runs -/

/-- The invariant of a run of commands. -/
structure CommandsKept (w : CommandWorld) : Prop where
  sound : Sound Traced requestPromise w
  kept : HistoryKept w.history w.db
  entries : ∀ before entry after, w.history = before ++ entry :: after → EntryKept before entry

/-- One more entry, which is kept. -/
theorem entries_append {history : List CommandEntry} {entry : CommandEntry}
    (entries : ∀ before e after, history = before ++ e :: after → EntryKept before e) (last : EntryKept history entry) :
    ∀ before e after, history ++ [entry] = before ++ e :: after → EntryKept before e := by
  intro before e after split
  rcases List.eq_nil_or_concat after with rfl | ⟨after', final, rfl⟩
  · obtain ⟨rfl, same⟩ := List.append_inj' split rfl
    cases same
    exact last
  · rw [List.concat_eq_append] at split
    have shorter : history ++ [entry] = (before ++ e :: after') ++ [final] := by rw [split]; simp
    exact entries before e after' (List.append_inj' shorter rfl).1

theorem CommandsKept.step {w w' : CommandWorld} {action : Action Command} (inv : CommandsKept w)
    (step : Step Command.body w action w') : CommandsKept w' ∧ StepKept w w' := by
  have sound : Sound Traced requestPromise w' := inv.sound.step verified_requestProbeV1 step
  cases step with
  | start | execute =>
    exact ⟨⟨sound, inv.kept, inv.entries⟩, fun _ => ⟨rfl, rfl, rfl, rfl⟩, fun entry h => by simp at h⟩
  | @commit t s receipt active at_ =>
    obtain ⟨⟨_, answered⟩, _⟩ := inv.sound.commit active at_
    obtain ⟨⟨a, clock⟩, program, ws, held⟩ := s
    obtain ⟨id, identified, ⟨same, record, found, fingerprint, read⟩ | ⟨state, row, cursor, _, _, _, created, rfl⟩⟩ := answered
    · have duplicate := duplicate_of_receipt read
      have other : ∀ id receipt', ¬ Creates ((a, clock), .committed receipt) id receipt' := by
        intro _ receipt' creates
        obtain rfl : receipt = receipt' := by simpa using creates.committed
        rw [creates.first] at duplicate
        cases duplicate
      have entry := inv.kept.duplicate_entry clock identified found fingerprint read
      refine ⟨⟨sound, by rw [same]; exact inv.kept.append other, entries_append inv.entries entry⟩, ?_⟩
      refine ⟨fun h => by simp at h, fun entry h => .inr ⟨?_, by rw [same]; exact ⟨rfl, rfl, rfl, rfl⟩⟩⟩
      obtain rfl : _ = entry := by simpa using h
      intro receipt' committed
      obtain rfl : receipt = receipt' := by simpa using committed
      exact duplicate
    · obtain ⟨rfl, after, free, key⟩ := created.eq_create inv.sound.inv
      have entry := inv.kept.created_entry clock identified created.unrecorded
        (show (createdReceipt state (w.db.handoffV1.lastHandoffId + 1)).duplicate = false from rfl)
      refine ⟨⟨sound, by rw [after]; exact inv.kept.create identified created.unrecorded,
        entries_append inv.entries entry⟩, ?_⟩
      refine ⟨fun h => by simp at h, fun entry h => .inl ?_⟩
      obtain rfl : _ = entry := by simpa using h
      refine ⟨_, rfl, rfl, ?_⟩
      rw [after]
      exact addsRows_create inv.sound.inv created.absent free key created.unrecorded
  | @fail t s e active at_ =>
    have entry := inv.kept.raised_entry s.call.2 (inv.sound.raises active at_)
    refine ⟨⟨sound, inv.kept.append (not_creates nofun), entries_append inv.entries entry⟩, ?_⟩
    refine ⟨fun _ => ⟨rfl, rfl, rfl, rfl⟩, fun entry h => .inr ⟨?_, rfl, rfl, rfl, rfl⟩⟩
    obtain rfl : _ = entry := by simpa using h
    exact nofun
  | @abort t s active =>
    refine ⟨⟨sound, inv.kept.append (not_creates nofun),
      entries_append inv.entries (aborted_entry s.call)⟩, ?_⟩
    refine ⟨fun _ => ⟨rfl, rfl, rfl, rfl⟩, fun entry h => .inr ⟨?_, rfl, rfl, rfl, rfl⟩⟩
    obtain rfl : _ = entry := by simpa using h
    exact nofun

theorem commands_kept {w : CommandWorld} (reached : Reachable Command.body .migrated w) : CommandsKept w := by
  induction reached with
  | initial =>
    have inv : Traced .migrated := by
      refine ⟨?_, ?_, ?_⟩
      all_goals exact Table.forall_empty
    refine ⟨verified_world verified_requestProbeV1 inv .initial, ⟨?_, ?_⟩, ?_⟩
    · exact fun _ member => absurd member List.not_mem_nil
    · exact Table.forall_empty
    · intro before entry after split
      simp [World.initial] at split
  | step _ step ih => exact (ih.step step).1

/-- A probe requested under the key `("probe", "key")`. -/
def sampleCommand (fingerprint : String) : Command :=
  ({ probeId := some (sampleUuid 1), eventId := some (sampleUuid 2), expectedVersion := some 0, scope := some "probe",
     idempotencyKey := some "key", requestFingerprint := some fingerprint, occurredAt := some 0,
     correlationId := none, causationId := none, traceContext := none, deadlineAt := none, metadata := none },
   ⟨0, 0, 0⟩)

/-- A well-formed fingerprint. -/
def sampleFingerprint : String := "0123456789abcdef0123456789abcdef0123456789abcdef0123456789abcdef"

/-- The receipt of the first command. -/
def sampleReceipt : ProbeReceipt :=
  createdReceipt ⟨sampleUuid 1, sampleUuid 2, .requested, 0, 1⟩ 1

theorem sample_created : ∃ db, (sampleCommand sampleFingerprint).body.run .migrated = .ok (sampleReceipt, db) := by
  have answered : ((sampleCommand sampleFingerprint).body.run .migrated).toOption.map Prod.fst = some sampleReceipt := by
    decide
  rcases ran : (sampleCommand sampleFingerprint).body.run .migrated with e | ⟨receipt, db⟩
  · rw [ran] at answered
    cases answered
  · rw [ran] at answered
    obtain rfl : receipt = sampleReceipt := Option.some.inj answered
    exact ⟨db, rfl⟩

/-- The world after the first command alone. -/
theorem sample_reached : ∃ db, Reachable Command.body .migrated
    ⟨db, fun _ => none, [(sampleCommand sampleFingerprint, .committed sampleReceipt)]⟩ := by
  obtain ⟨db, ran⟩ := sample_created
  have start : Reachable Command.body Db.migrated (⟨.migrated, fun _ => none, []⟩ : CommandWorld) := .initial
  have reached := start.call (sampleCommand sampleFingerprint)
  rw [ran] at reached
  exact ⟨db, reached⟩

end Liqi.Database
