import Liqi.Database.Probe

/-!
# What the producer functions do

One lemma per function says what a call that returns has done to the database. Later proofs use
these and never unfold a function body.
-/

namespace Liqi.Database

open Postgres

/-- The log after one publication. -/
def HandoffLog.append (log : HandoffLog) (row : HandoffEvent) : HandoffLog :=
  ⟨row.handoffId, log.events.insert row⟩

@[simp] theorem Db.setHandoff_setHandoff (db : Db) (version : Version) (log log' : HandoffLog) :
    (db.setHandoff version log).setHandoff version log' = db.setHandoff version log' := by
  cases version <;> rfl

/-- An enqueue finds the event stored with the same content, or stores it. -/
inductive Enqueued (row : OutboxEvent) (db : Db) : Db → Prop where
  | stored {existing : OutboxEvent} (present : db.outboxEvents.get? row.eventId = some existing) : Enqueued row db db
  | inserted (absent : db.outboxEvents.get? row.eventId = none) :
      Enqueued row db { db with outboxEvents := db.outboxEvents.insert row }

variable {db db' : Db} {eventId : Uuid}

theorem enqueue_run {same : OutboxEvent → OutboxEvent → Bool} {d : EventDraft} {now : Timestamp}
    (ran : (enqueue same d now).run db = .ok (eventId, db')) :
    ∃ row, d.row now = .ok row ∧ eventId = row.eventId ∧ Enqueued row db db' ∧
      ∀ existing, db.outboxEvents.get? row.eventId = some existing → same existing row = true := by
  unfold enqueue at ran
  rcases stored : d.row now with e | row
  · rw [stored] at ran
    cases ran
  rw [stored] at ran
  rw [Program.run_insert] at ran
  refine ⟨row, rfl, ?_⟩
  rcases found : db.outboxEvents.get? row.eventId with _ | existing
  · simp only [found, Option.isSome_none, Bool.false_eq_true, if_false, Program.run_ret, Except.ok.injEq,
      Prod.mk.injEq] at ran
    obtain ⟨rfl, rfl⟩ := ran
    exact ⟨rfl, .inserted found, fun _ h => by cases h⟩
  · simp only [found, Option.isSome_some, if_true, Program.run_query, Option.any_some] at ran
    split at ran
    · rename_i agrees
      simp only [Program.run_ret, Except.ok.injEq, Prod.mk.injEq] at ran
      obtain ⟨rfl, rfl⟩ := ran
      refine ⟨rfl, .stored found, fun _ h => ?_⟩
      cases h
      exact agrees
    · cases ran

/-- A publication finds the event in the log, or appends it under the next id. -/
inductive Published (version : Version) (now : Timestamp) (eventId : Uuid) (db : Db) : Nat → Db → Prop where
  | already {row : HandoffEvent} (found : (db.handoff version).find eventId = some row) :
      Published version now eventId db row.handoffId db
  | appended {event : OutboxEvent} (stored : db.outboxEvents.get? eventId = some event)
      (missing : (db.handoff version).find eventId = none)
      (unused : (db.handoff version).events.get? ((db.handoff version).lastHandoffId + 1) = none) :
      Published version now eventId db ((db.handoff version).lastHandoffId + 1)
        (db.setHandoff version ((db.handoff version).append
          ⟨(db.handoff version).lastHandoffId + 1, eventId, event.envelope, now⟩))

variable {version : Version}

theorem requireSupported_run {next : Body Nat} {id : Nat}
    (ran : (version.requireSupported eventId next).run db = .ok (id, db')) :
    (∃ event, db.outboxEvents.get? eventId = some event) ∧ next.run db = .ok (id, db') := by
  cases version with
  | v0 =>
    simp only [Version.requireSupported, Program.run_query] at ran
    rcases found : db.outboxEvents.get? eventId with _ | event
    · simp [found] at ran
    · rw [found] at ran
      simp only [Option.isNone_some, Bool.false_eq_true, if_false, Program.run_query] at ran
      split at ran
      · exact ⟨⟨event, rfl⟩, ran⟩
      · cases ran
  | v1 =>
    simp only [Version.requireSupported, Program.run_query] at ran
    rcases found : db.outboxEvents.get? eventId with _ | event
    · simp [found] at ran
    · rw [found] at ran
      split at ran
      · cases ran
      · exact ⟨⟨event, rfl⟩, ran⟩
      · cases ran

theorem nextHandoffId_run {next : Nat → Body Nat} {id : Nat}
    (ran : (nextHandoffId version next).run db = .ok (id, db')) :
    (next ((db.handoff version).lastHandoffId + 1)).run
      (db.setHandoff version { db.handoff version with lastHandoffId := (db.handoff version).lastHandoffId + 1 })
      = .ok (id, db') := by
  unfold nextHandoffId at ran
  simp only [Program.run] at ran
  split at ran
  · exact ran
  · cases ran

theorem violation_eq_none {log : HandoffLog} {row : HandoffEvent} :
    log.violation row = none ↔ log.events.get? row.handoffId = none ∧ log.find row.eventId = none := by
  unfold HandoffLog.violation
  split
  · rename_i h
    simp [Option.isSome_iff_ne_none.1 h]
  · split
    · rename_i h
      simp [Option.isSome_iff_ne_none.1 h]
    · rename_i h h'
      simpa using And.intro h h'

theorem publish_run {now : Timestamp} {requested : Option Uuid} {id : Nat}
    (ran : (publishRealtimeHandoff version now requested).run db = .ok (id, db')) :
    ∃ eventId, requested = some eventId ∧ Published version now eventId db id db' := by
  unfold publishRealtimeHandoff at ran
  rcases requested with _ | eventId
  · cases ran
  refine ⟨eventId, rfl, ?_⟩
  simp only [Program.run_lock, Program.run_query] at ran
  rcases found : (db.handoff version).find eventId with _ | row
  · rw [found] at ran
    obtain ⟨⟨event, stored⟩, ran⟩ := requireSupported_run ran
    have ran := nextHandoffId_run ran
    unfold insertHandoff at ran
    rw [Program.run_insert] at ran
    simp only [Db.outboxEvents_setHandoff, stored, Db.handoff_setHandoff_self] at ran
    rcases clash : HandoffLog.violation { db.handoff version with lastHandoffId := (db.handoff version).lastHandoffId + 1 }
        ⟨(db.handoff version).lastHandoffId + 1, eventId, event.envelope, now⟩ with _ | e
    · rw [clash] at ran
      simp only [Store.apply, Write.apply, Db.handoff_setHandoff_self, Db.setHandoff_setHandoff, Program.run_ret,
        Except.ok.injEq, Prod.mk.injEq] at ran
      obtain ⟨rfl, rfl⟩ := ran
      exact .appended stored found (violation_eq_none.1 clash).1
    · rw [clash] at ran
      cases ran
  · rw [found] at ran
    simp only [Program.run_ret, Except.ok.injEq, Prod.mk.injEq] at ran
    obtain ⟨rfl, rfl⟩ := ran
    exact .already found

theorem probeRow_probeId {probeId eventId : Option Uuid} {requestedAt : Option Timestamp} {version : Nat}
    {state : ProbeState} (made : probeRow probeId eventId requestedAt version = .ok state) :
    probeId = some state.probeId := by
  obtain ⟨_, given, made⟩ := bind_ok made
  obtain ⟨_, _, made⟩ := bind_ok made
  obtain ⟨_, _, made⟩ := bind_ok made
  cases made
  exact notNull_ok given

/-- A request finds its probe with the same event, or creates it. -/
inductive ProbeStored (state : ProbeState) (db : Db) : Db → Prop where
  | present {existing : ProbeState} (found : db.probeState.get? state.probeId = some existing)
      (same : existing.requestedEventId = state.requestedEventId) : ProbeStored state db db
  | inserted (absent : db.probeState.get? state.probeId = none)
      (unrequested : db.probeOfEvent state.requestedEventId = none) :
      ProbeStored state db { db with probeState := db.probeState.insert state }

/-- What `request_probe_v0` has done when it returns. -/
structure RequestedV0 (a : RequestProbeV0) (clock : RequestClock) (db db' : Db) (state : ProbeState)
    (row : OutboxEvent) (id : Nat) (db₁ db₂ : Db) : Prop where
  requested : probeRow a.probeId a.eventId a.occurredAt 1 = .ok state
  probe : ProbeStored state db db₁
  drafted : (a.event state).draft.row clock.enqueued = .ok row
  event : Enqueued row db₁ db₂
  handoff : Published .v0 clock.published state.requestedEventId db₂ id db'

variable {clock : RequestClock}

/-- The calls that `request_probe_v0` makes when it returns. -/
theorem requestV0_calls {a : RequestProbeV0} (ran : (requestProbeV0 a clock).run db = .ok (eventId, db')) :
    ∃ state enqueued id db₁ db₂, probeRow a.probeId a.eventId a.occurredAt 1 = .ok state ∧ ProbeStored state db db₁ ∧
      (enqueueOutboxV0 (a.event state) clock.enqueued).run db₁ = .ok (enqueued, db₂) ∧
      (publishRealtimeHandoffV0 clock.published (some state.requestedEventId)).run db₂ = .ok (id, db') ∧
      eventId = state.requestedEventId := by
  unfold requestProbeV0 at ran
  rcases created : probeRow a.probeId a.eventId a.occurredAt 1 with e | state
  · rw [created] at ran
    cases ran
  rw [created] at ran
  rw [Program.run_insert] at ran
  refine ⟨state, ?_⟩
  have follow : ∀ db₁, ProbeStored state db db₁ →
      ((enqueueOutboxV0 (a.event state) clock.enqueued).bind fun _ =>
        (publishRealtimeHandoffV0 clock.published (some state.requestedEventId)).bind fun _ =>
          .ret state.requestedEventId).run db₁ = .ok (eventId, db') →
      ∃ enqueued id db₁ db₂, (.ok state : Except SqlError ProbeState) = .ok state ∧ ProbeStored state db db₁ ∧
        (enqueueOutboxV0 (a.event state) clock.enqueued).run db₁ = .ok (enqueued, db₂) ∧
        (publishRealtimeHandoffV0 clock.published (some state.requestedEventId)).run db₂ = .ok (id, db') ∧
        eventId = state.requestedEventId := by
    intro db₁ probe ran
    rw [Program.run_bind] at ran
    split at ran
    next first db₂ enqueued =>
      rw [Program.run_bind] at ran
      split at ran
      next id db₃ published =>
        simp only [Program.run_ret, Except.ok.injEq, Prod.mk.injEq] at ran
        obtain ⟨rfl, rfl⟩ := ran
        exact ⟨first, id, db₁, db₂, rfl, probe, enqueued, published, rfl⟩
      next => cases ran
    next => cases ran
  rcases found : db.probeState.get? state.probeId with _ | existing
  · rcases requested : db.probeOfEvent state.requestedEventId with _ | other
    · simp only [found, requested, Option.isSome_none, Bool.false_eq_true, if_false, Program.run_query] at ran
      split at ran
      · exact follow _ (.inserted found requested) ran
      · cases ran
    · simp [found, requested] at ran
  · simp only [found, Option.isSome_some, if_true, Program.run_query, Option.any_some, decide_eq_true_eq] at ran
    split at ran
    next same => exact follow _ (.present found same) ran
    next => cases ran

theorem requestV0_run {a : RequestProbeV0} (ran : (requestProbeV0 a clock).run db = .ok (eventId, db')) :
    ∃ state row id db₁ db₂, RequestedV0 a clock db db' state row id db₁ db₂ := by
  obtain ⟨state, _, id, db₁, db₂, created, probe, enqueued, published, _⟩ := requestV0_calls ran
  obtain ⟨row, stored, _, event, _⟩ := enqueue_run enqueued
  obtain ⟨_, same, handoff⟩ := publish_run published
  cases same
  exact ⟨state, row, id, db₁, db₂, created, probe, stored, event, handoff⟩

/-- What `request_probe_v1` has done when it created the probe. -/
structure CreatedV1 (a : RequestProbeV1) (id : CommandIdentity) (clock : RequestClock) (db db' : Db)
    (state : ProbeState) (row : OutboxEvent) (cursor : Nat) (db₁ db₂ db₃ : Db) : Prop where
  unrecorded : db.commandIdempotency.get? (id.scope, id.idempotencyKey) = none
  requested : probeRow a.probeId a.eventId a.occurredAt 1 = .ok state
  absent : db.probeState.get? state.probeId = none
  unrequested : db.probeOfEvent state.requestedEventId = none
  probe : db₁ = { db with probeState := db.probeState.insert state }
  drafted : (a.event state).draft.row clock.enqueued = .ok row
  event : Enqueued row db₁ db₂
  handoff : Published .v1 clock.published state.requestedEventId db₂ cursor db₃
  record : db' = { db₃ with
    commandIdempotency := db₃.commandIdempotency.insert (idempotencyRow id state cursor clock.recorded) }
  agrees : ∀ existing, db.outboxEvents.get? row.eventId = some existing → sameDurableContentV1 existing row = true

theorem insertIdempotency_run {row : IdempotencyRecord} {next : Body ProbeReceipt} {r : ProbeReceipt}
    (ran : (insertIdempotency row next).run db = .ok (r, db')) :
    next.run { db with commandIdempotency := db.commandIdempotency.insert row } = .ok (r, db') := by
  unfold insertIdempotency at ran
  rw [Program.run_insert] at ran
  split at ran
  · rename_i inserted
    split at inserted
    · cases inserted
    · split at inserted
      · cases inserted
      · cases inserted
        exact ran
  · rename_i inserted
    split at inserted
    · cases inserted
    · split at inserted <;> cases inserted
  · cases ran

theorem createProbe_run {a : RequestProbeV1} {id : CommandIdentity} {state : ProbeState} {receipt : ProbeReceipt}
    (unrecorded : db.commandIdempotency.get? (id.scope, id.idempotencyKey) = none)
    (created : probeRow a.probeId a.eventId a.occurredAt 1 = .ok state)
    (ran : (createProbe a id clock state).run db = .ok (receipt, db')) :
    ∃ row cursor db₁ db₂ db₃, CreatedV1 a id clock db db' state row cursor db₁ db₂ db₃ ∧
      receipt = createdReceipt state cursor := by
  unfold createProbe at ran
  rw [Program.run_insert] at ran
  rcases found : db.probeState.get? state.probeId with _ | existing
  · rcases requested : db.probeOfEvent state.requestedEventId with _ | other
    · simp only [found, requested, Option.isSome_none, Bool.false_eq_true, if_false] at ran
      rw [Program.run_bind] at ran
      split at ran
      · rename_i db₂ enqueued
        rw [Program.run_bind] at ran
        split at ran
        · rename_i cursor db₃ published
          have ran := insertIdempotency_run ran
          simp only [Program.run_ret, Except.ok.injEq, Prod.mk.injEq] at ran
          obtain ⟨rfl, rfl⟩ := ran
          obtain ⟨row, stored, _, event, agrees⟩ := enqueue_run enqueued
          obtain ⟨_, same, handoff⟩ := publish_run published
          cases same
          exact ⟨row, cursor, _, db₂, db₃,
            ⟨unrecorded, created, found, requested, rfl, stored, event, handoff, rfl, agrees⟩, rfl⟩
        · cases ran
      · cases ran
    · simp [found, requested] at ran
  · simp [found] at ran

theorem requestV1_run {a : RequestProbeV1} {receipt : ProbeReceipt}
    (ran : (requestProbeV1 a clock).run db = .ok (receipt, db')) :
    ∃ id, a.identity = .ok id ∧
      ((db' = db ∧ ∃ record, db.commandIdempotency.get? (id.scope, id.idempotencyKey) = some record ∧
          record.requestFingerprint = id.fingerprint ∧ record.receipt = .ok receipt) ∨
        ∃ state row cursor db₁ db₂ db₃, CreatedV1 a id clock db db' state row cursor db₁ db₂ db₃ ∧
          receipt = createdReceipt state cursor) := by
  unfold requestProbeV1 at ran
  rcases checked : a.identity with e | id
  · rw [checked] at ran
    cases ran
  rw [checked] at ran
  refine ⟨id, rfl, ?_⟩
  simp only [Program.run_lock, Program.run_query] at ran
  rcases recorded : db.commandIdempotency.get? (id.scope, id.idempotencyKey) with _ | record
  · rw [recorded] at ran
    right
    unfold firstCommand at ran
    simp only [Program.run, Store.applyAll_nil] at ran
    split at ran
    · cases ran
    split at ran
    · cases ran
    rename_i first
    have one : ((0 : Int) + 1).toNat = 1 := rfl
    rw [not_not.1 first, one] at ran
    rcases created : probeRow a.probeId a.eventId a.occurredAt 1 with e | state
    · simp [created] at ran
    · rw [created] at ran
      obtain ⟨row, cursor, db₁, db₂, db₃, done, same⟩ := createProbe_run recorded created ran
      exact ⟨state, row, cursor, db₁, db₂, db₃, done, same⟩
  · rw [recorded] at ran
    left
    dsimp only at ran
    split at ran
    · cases ran
    rename_i same
    rcases answered : record.receipt with e | answer
    · rw [answered] at ran
      cases ran
    · rw [answered] at ran
      simp only [Program.run_ret, Except.ok.injEq, Prod.mk.injEq] at ran
      obtain ⟨rfl, rfl⟩ := ran
      exact ⟨rfl, record, rfl, not_not.1 same, answered⟩

end Liqi.Database
