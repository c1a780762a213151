import Liqi.Database.CommandIdempotency
import Liqi.Database.EventGraph

/-!
# Copies of an event

A row of the log is a copy of its event, and the record of a command names the probe whose key its event has, in
every state that calls and prunes reach. An event never changes after it was enqueued, and one that the log or a
record names is not deleted.
-/

namespace Liqi.Database

open Postgres

/-- The event is stored with this envelope. -/
def Db.Holds (db : Db) (eventId : Uuid) (envelope : Envelope) : Prop :=
  ∃ event ∈ db.outboxEvents, event.eventId = eventId ∧ event.envelope = envelope

/-- A record repeats the answer about a probe, whose key its event has. -/
structure RecordOf (db : Db) (record : IdempotencyRecord) (probeId : Uuid) : Prop where
  receipt : ∃ receipt, record.receipt = .ok receipt ∧ receipt.probeId = some probeId ∧ receipt.eventId = record.eventId
  event : ∃ envelope, db.Holds record.eventId envelope ∧ envelope.content.aggregateKey = probeAggregate probeId

structure Copied (db : Db) : Prop where
  rows : ∀ log, ∀ row ∈ (db.handoff log).events, db.Holds row.eventId row.envelope
  records : ∀ record ∈ db.commandIdempotency, ∃ probeId, RecordOf db record probeId

/-- The logs and the records are as before. -/
structure Quiet (db db' : Db) : Prop where
  handoff : ∀ log, db'.handoff log = db.handoff log
  commandIdempotency : db'.commandIdempotency = db.commandIdempotency

/-- The record of a command for a probe. -/
structure Records (db : Db) (a : RequestProbeV1) (record : IdempotencyRecord) (probeId : Uuid) : Prop where
  of : RecordOf db record probeId
  probe : a.probeId = some probeId
  scope : a.scope = some record.scope
  fingerprint : a.requestFingerprint = some record.requestFingerprint

/-- Stored events stay, new rows of the logs are copies, and new records are of commands that were asked. -/
structure CopyStep (asked : RequestProbeV1 → Prop) (db db' : Db) : Prop where
  events : ∀ eventId envelope, db.Holds eventId envelope → db'.Holds eventId envelope
  rows : ∀ log, ∀ row ∈ (db'.handoff log).events, row ∈ (db.handoff log).events ∨ db'.Holds row.eventId row.envelope
  records : ∀ record ∈ db'.commandIdempotency,
    record ∈ db.commandIdempotency ∨ ∃ a probeId, asked a ∧ Records db' a record probeId

section Steps

variable {asked : RequestProbeV1 → Prop} {db db' : Db} {eventId : Uuid} {envelope : Envelope}

theorem Db.Holds.unique {other : Envelope} (held : db.Holds eventId envelope) (again : db.Holds eventId other) :
    envelope = other := by
  obtain ⟨event, stored, rfl, rfl⟩ := held
  obtain ⟨event', stored', same, rfl⟩ := again
  rw [Table.eq_of_key stored stored' same.symm]

variable {record : IdempotencyRecord}

theorem RecordOf.probe_unique {uuid other : Uuid} (of : RecordOf db record uuid) (again : RecordOf db' record other) :
    uuid = other := by
  obtain ⟨receipt, found, probe, _⟩ := of.receipt
  obtain ⟨receipt', found', probe', _⟩ := again.receipt
  rw [found] at found'
  cases found'
  exact Option.some.inj (probe.symm.trans probe')

theorem RecordOf.mono {probeId : Uuid}
    (events : ∀ eventId envelope, db.Holds eventId envelope → db'.Holds eventId envelope)
    (of : RecordOf db record probeId) : RecordOf db' record probeId := by
  obtain ⟨envelope, held, key⟩ := of.event
  exact ⟨of.receipt, envelope, events _ _ held, key⟩

theorem Copied.step (copied : Copied db) (step : CopyStep asked db db') : Copied db' where
  rows log row stored := (step.rows log row stored).elim (fun old => step.events _ _ (copied.rows log row old)) id
  records record stored := by
    rcases step.records record stored with old | new
    · obtain ⟨probeId, of⟩ := copied.records record old
      exact ⟨probeId, of.mono step.events⟩
    · obtain ⟨_, probeId, _, new⟩ := new
      exact ⟨probeId, new.of⟩

/-- The key of the event that a row of the log or a record belongs to. -/
theorem Copied.key (copied : Copied db) {probeId : Uuid} (of : RecordOf db record probeId) {row : HandoffEvent}
    (logged : row ∈ db.handoffV1.events) (same : row.eventId = record.eventId) :
    row.envelope.content.aggregateKey = probeAggregate probeId := by
  obtain ⟨envelope, held, key⟩ := of.event
  have copy := copied.rows .v1 row logged
  rw [same] at copy
  rw [copy.unique held, key]

/-! ## Calls -/

theorem RowSteps.holds {call : Call} (steps : RowSteps call db db') (held : db.Holds eventId envelope) :
    db'.Holds eventId envelope := by
  obtain ⟨event, stored, rfl, rfl⟩ := held
  obtain ⟨event', stored', step⟩ := steps.forward event stored
  exact ⟨event', stored', step.eventId, step.envelope⟩

theorem Quiet.copyStep (quiet : Quiet db db')
    (events : ∀ eventId envelope, db.Holds eventId envelope → db'.Holds eventId envelope) : CopyStep asked db db' where
  events := events
  rows log _ stored := Or.inl (quiet.handoff log ▸ stored)
  records _ stored := Or.inl (quiet.commandIdempotency ▸ stored)

theorem Quiet.refl (db : Db) : Quiet db db := ⟨fun _ => rfl, rfl⟩

theorem Quiet.trans {db'' : Db} (first : Quiet db db') (last : Quiet db' db'') : Quiet db db'' :=
  ⟨fun log => (last.handoff log).trans (first.handoff log), last.commandIdempotency.trans first.commandIdempotency⟩

theorem ConsumerOnly.quiet (only : ConsumerOnly db db') : Quiet db db' := by
  obtain ⟨_, _, _, _, rfl⟩ := only
  exact ⟨fun log => by cases log <;> rfl, rfl⟩

variable {row : OutboxEvent}

variable {state : ProbeState}

variable {version : Version} {now : Timestamp}

/-- A publication adds at most a copy of its event to the logs, and no record. -/
theorem Published.copies {id : Nat} (h : Published version now eventId db id db') :
    (∀ log, ∀ row ∈ (db'.handoff log).events, row ∈ (db.handoff log).events ∨ db'.Holds row.eventId row.envelope)
      ∧ db'.commandIdempotency = db.commandIdempotency := by
  have events := h.outboxEvents
  cases h with
  | already => exact ⟨fun _ _ stored => .inl stored, rfl⟩
  | @appended event stored missing unused =>
    obtain ⟨found, key⟩ := Table.get?_eq_some.1 stored
    refine ⟨fun log row logged => ?_, Db.commandIdempotency_setHandoff ..⟩
    by_cases same : log = version
    · subst same
      rw [Db.handoff_setHandoff_self] at logged
      rcases Table.mem_of_mem_insert logged with old | rfl
      · exact .inl old
      · exact .inr ⟨event, events ▸ found, key, rfl⟩
    · rw [Db.handoff_setHandoff_of_ne _ _ same] at logged
      exact .inl logged

/-- After a publication the event is in the log. -/
theorem Published.logged {id : Nat} (h : Published version now eventId db id db') :
    ∃ row ∈ (db'.handoff version).events, row.eventId = eventId := by
  cases h with
  | already found =>
    obtain ⟨stored, same⟩ := HandoffLog.find_eq_some found
    exact ⟨_, stored, same⟩
  | appended stored missing unused =>
    rw [Db.handoff_setHandoff_self]
    exact ⟨_, (Table.mem_insert unused).2 (.inr rfl), rfl⟩

variable {a : RequestProbeV1} {id : CommandIdentity}

theorem identity_fields (identified : a.identity = .ok id) :
    a.scope = some id.scope ∧ a.idempotencyKey = some id.idempotencyKey ∧ a.requestFingerprint = some id.fingerprint := by
  unfold RequestProbeV1.identity at identified
  split at identified
  · cases identified
  next scope within =>
    split at identified
    · cases identified
    next key keyed =>
      split at identified
      · cases identified
      · split at identified
        · cases identified
        next fingerprint given =>
          cases identified
          exact ⟨(Option.filter_eq_some_iff.1 within).1, (Option.filter_eq_some_iff.1 keyed).1,
            (Option.filter_eq_some_iff.1 given).1⟩

/-- A request publishes a copy of its event. -/
theorem ProbeRequested.copies {id : Nat} {db₁ db₂ db₃ : Db} (h : ProbeRequested version now state row id db db₁ db₂ db₃ db') :
    Quiet db db₂ ∧ ∀ log, ∀ row ∈ (db'.handoff log).events,
      row ∈ (db.handoff log).events ∨ db'.Holds row.eventId row.envelope := by
  have before : Quiet db db₂ := h.probe.consumerOnly.quiet.trans h.event.outboxOnly.consumerOnly.quiet
  refine ⟨before, fun log logged found => ?_⟩
  rw [← before.handoff]
  rw [h.after] at found ⊢
  exact h.handoff.copies.1 log logged (by cases log <;> exact found)

theorem CreatedV1.copyStep {clock : RequestClock} {db₁ db₂ db₃ : Db} {cursor : Nat}
    (created : CreatedV1 a id clock db db' state row cursor db₁ db₂ db₃) (identified : a.identity = .ok id)
    (given : asked a) (events : ∀ eventId envelope, db.Holds eventId envelope → db'.Holds eventId envelope) :
    CopyStep asked db db' := by
  have fresh := EventDraft.fresh_row created.drafted
  have key : row.eventId = state.requestedEventId := created.request.key
  have aggregate : row.envelope.content.aggregateKey = probeAggregate state.probeId :=
    (Option.some.inj (EventDraft.columns fresh.content).aggregateKey).symm
  obtain ⟨before, rows⟩ := created.request.copies
  have held : ∃ envelope, db'.Holds state.requestedEventId envelope
      ∧ envelope.content.aggregateKey = probeAggregate state.probeId := by
    have enqueued := created.event
    have published := created.handoff.outboxEvents
    have stored : db₁.outboxEvents = db.outboxEvents := by rw [created.probe]
    cases enqueued with
    | @stored existing present =>
      rw [stored] at present
      have agrees := created.agrees existing present
      obtain ⟨found, same⟩ := Table.get?_eq_some.1 present
      refine ⟨existing.envelope, events _ _ ⟨existing, found, same.trans key, rfl⟩, ?_⟩
      simp only [sameDurableContentV1, Bool.and_eq_true, decide_eq_true_eq] at agrees
      rw [agrees.1, aggregate]
    | inserted absent =>
      refine ⟨row.envelope, ⟨row, ?_, key, rfl⟩, aggregate⟩
      rw [created.record]
      exact published ▸ (Table.mem_insert absent).2 (.inr rfl)
  refine ⟨events, rows, fun record stored => ?_⟩
  rw [created.record] at stored
  rcases Table.mem_of_mem_insert stored with old | rfl
  · rw [created.handoff.copies.2, before.commandIdempotency] at old
    exact .inl old
  · have fields := identity_fields identified
    have of : RecordOf db' (idempotencyRow id state cursor clock.recorded) state.probeId :=
      ⟨⟨_, receipt_idempotencyRow id state cursor clock.recorded, rfl, rfl⟩, held⟩
    exact .inr ⟨a, state.probeId, given, of, probeRow_probeId created.requested, fields.1, fields.2.2⟩

/-- What a call does to the copies of events. -/
theorem Call.copyStep {call : Call} {r : Reply} (ran : call.exec db = .ok (r, db')) :
    CopyStep (fun a => ∃ clock, call = .requestV1 a clock) db db' := by
  have events : ∀ eventId envelope, db.Holds eventId envelope → db'.Holds eventId envelope :=
    fun _ _ => (Call.rowSteps_exec ran).holds
  cases Call.done ran with
  | enqueuedV0 _ event | enqueuedV1 _ event => exact event.outboxOnly.consumerOnly.quiet.copyStep events
  | published handoff => exact ⟨events, handoff.copies.1, fun _ stored => .inl (handoff.copies.2 ▸ stored)⟩
  | requestedV0 h =>
    obtain ⟨before, rows⟩ := h.request.copies
    refine ⟨events, rows, fun record stored => .inl ?_⟩
    rwa [h.handoff.copies.2, before.commandIdempotency] at stored
  | repeated => exact (Quiet.refl db).copyStep events
  | created identified h => exact h.copyStep identified ⟨_, rfl⟩ events
  | leased h => exact h.outboxOnly.consumerOnly.quiet.copyStep events
  | acked h => exact (ack_outboxOnly h).consumerOnly.quiet.copyStep events
  | failed h => exact (fail_outboxOnly h).consumerOnly.quiet.copyStep events
  | applied h => exact (apply_consumerOnly h).quiet.copyStep events
  | pruned =>
    refine ⟨events, fun log row stored => .inl ?_, fun record stored => .inl stored⟩
    cases log with
    | v0 => exact stored
    | v1 => exact (Table.mem_delete.1 stored).1

/-- What a prune does to them: it deletes no event that the log or a record names. -/
theorem RetentionStep.copied (copied : Copied db) (step : RetentionStep) :
    Copied (step.after db) ∧ ∀ record ∈ (step.after db).commandIdempotency, record ∈ db.commandIdempotency
      ∨ ∃ a clock, step = .call (.requestV1 a clock) ∧ a.scope = some record.scope := by
  have change := graphStep step db
  generalize step.after db = after at change ⊢
  cases change with
  | raised => exact ⟨copied, fun _ stored => .inl stored⟩
  | called made ran =>
    have copies := Call.copyStep ran
    refine ⟨copied.step copies, fun record stored => (copies.records record stored).imp_right ?_⟩
    rintro ⟨a, probeId, ⟨clock, rfl⟩, new⟩
    exact ⟨a, clock, made, new.scope⟩
  | commands keys =>
    refine ⟨⟨copied.rows, fun record stored => ?_⟩, fun record stored => .inl (Table.mem_delete.1 stored).1⟩
    obtain ⟨probeId, of⟩ := copied.records record (Table.mem_delete.1 stored).1
    exact ⟨probeId, of.receipt, of.event⟩
  | @events ids unnamed =>
    have kept : ∀ {eventId envelope}, eventId ∉ ids → db.Holds eventId envelope →
        (dropEvents ids db).Holds eventId envelope := by
      rintro _ _ spared ⟨event, stored, rfl, rfl⟩
      exact ⟨event, Table.mem_delete.2 ⟨stored, by simpa using spared⟩, rfl, rfl⟩
    refine ⟨⟨fun log row stored => ?_, fun record stored => ?_⟩, fun _ stored => .inl stored⟩
    · have logged : row ∈ (db.handoff log).events := by cases log <;> exact stored
      refine kept (fun member => ?_) (copied.rows log row logged)
      exact (names_eq_false.1 (unnamed _ member)).2.2.2 log row logged rfl
    · obtain ⟨probeId, of⟩ := copied.records record stored
      obtain ⟨envelope, held, key⟩ := of.event
      refine ⟨probeId, of.receipt, envelope, kept (fun member => ?_) held, key⟩
      exact (names_eq_false.1 (unnamed _ member)).1 record stored rfl

theorem Copied.migrated : Copied .migrated := by
  refine ⟨fun log row stored => ?_, Table.forall_empty⟩
  cases log <;> exact absurd stored (Table.not_mem_empty row)

theorem runSteps_copied (steps : List RetentionStep) : Copied (runSteps steps) :=
  runSteps_invariant .migrated fun _ copied step _ => (RetentionStep.copied copied step).1

/-- **The handoff logs.** In every such state each row of a log is a copy of a stored event, and no event has two. -/
theorem handoff_rows_copy_events (steps : List RetentionStep) (log : Version) :
    let db := runSteps steps
    (∀ row ∈ (db.handoff log).events, ∃ event ∈ db.outboxEvents, event.eventId = row.eventId ∧
        event.envelope = row.envelope) ∧
      ∀ row ∈ (db.handoff log).events, ∀ other ∈ (db.handoff log).events, row.eventId = other.eventId → row = other :=
  ⟨(runSteps_copied steps).rows log, ((runSteps_sound steps).2 log).single⟩

end Steps

end Liqi.Database
