import Liqi.Database.PublishSafety

/-!
# A first command among other commands

`request_probe_v1` writes five tables, one statement at a time, while other commands commit. Its locks
keep what it has found absent absent: the advisory lock its idempotency record, the unique index entries
of the inserted probe the probe and its event. With the references between the tables (`Traced`) the
outbox row and the handoff row are then new as well, so that a first command which commits has made the
change that a run of the function alone would have made (`Answered`).
-/

namespace Liqi.Database

open Postgres Store

/-- Where only `request_probe_v1` writes, events come from probes and handoffs from events. -/
structure Traced (db : Db) : Prop where
  requested : ∀ event ∈ db.outboxEvents, db.probeOfEvent event.eventId ≠ none
  published : ∀ row ∈ db.handoffV1.events, db.outboxEvents.get? row.eventId ≠ none
  numbered : ∀ row ∈ db.handoffV1.events, row.handoffId ≤ db.handoffV1.lastHandoffId

/-- The next handoff id is unused. -/
theorem Traced.unused {db : Db} (inv : Traced db) :
    db.handoffV1.events.get? (db.handoffV1.lastHandoffId + 1) = none := by
  rw [Table.get?_eq_none]
  intro other stored same
  have bound := inv.numbered other stored
  omega

/-- What a call of `request_probe_v1` that returns has done: it found a record, or made all the rows. -/
def Answered (a : RequestProbeV1) (clock : RequestClock) (receipt : ProbeReceipt) (db db' : Db) : Prop :=
  ∃ id, a.identity = .ok id ∧
    ((db' = db ∧ ∃ record, db.commandIdempotency.get? (id.scope, id.idempotencyKey) = some record ∧
        record.requestFingerprint = id.fingerprint ∧ record.receipt = .ok receipt) ∨
      ∃ state row cursor db₁ db₂ db₃, CreatedV1 a id clock db db' state row cursor db₁ db₂ db₃ ∧
        receipt = createdReceipt state cursor)

/-- A command that raises on a key recorded for another fingerprint raises `LQ001`. -/
def Refused (a : RequestProbeV1) (e : SqlError) (db : Db) : Prop :=
  ∀ id record, a.identity = .ok id → db.commandIdempotency.get? (id.scope, id.idempotencyKey) = some record →
    record.requestFingerprint ≠ id.fingerprint → e = keyReused

def requestPromise : Promise (RequestProbeV1 × RequestClock) Db Write SqlError ProbeReceipt where
  commits := fun (a, clock) receipt db ws => Answered a clock receipt db (applyAll db ws)
  raises := fun (a, _) e db => Refused a e db

/-! ## What stays absent -/

/-- The command's key is locked and has no record. -/
structure Unrecorded (id : CommandIdentity) (held : List Lock) (db : Db) : Prop where
  locked : Lock.advisory (commandLockText id.scope id.idempotencyKey) ∈ held
  absent : db.commandIdempotency.get? (id.scope, id.idempotencyKey) = none

/-- Besides, the probe and its event are locked and not there. -/
structure Creating (id : CommandIdentity) (state : ProbeState) (held : List Lock) (db : Db) : Prop where
  unrecorded : Unrecorded id held db
  probeLocked : Lock.probeId state.probeId ∈ held
  eventLocked : Lock.probeEvent state.requestedEventId ∈ held
  absent : db.probeState.get? state.probeId = none
  unrequested : db.probeOfEvent state.requestedEventId = none

section Absent

variable {id : CommandIdentity} {state : ProbeState} {held held' : List Lock} {db now : Db}

theorem commandIdempotency_apply {w : Write} (other : ∀ row, w ≠ .insertIdempotency row) (db : Db) :
    (Write.apply db w).commandIdempotency = db.commandIdempotency := by
  cases w with
  | insertIdempotency row => exact absurd rfl (other row)
  | setLastHandoffId | insertHandoffEvent => exact Db.commandIdempotency_setHandoff _ _ _
  | _ => rfl

theorem probeState_apply {w : Write} (other : ∀ row, w ≠ .insertProbeState row) (db : Db) :
    (Write.apply db w).probeState = db.probeState := by
  cases w with
  | insertProbeState row => exact absurd rfl (other row)
  | setLastHandoffId | insertHandoffEvent => exact Db.probeState_setHandoff _ _ _
  | _ => rfl

theorem Unrecorded.later (h : Unrecorded id held db) (since : Undisturbed held db now) (sub : held ⊆ held') :
    Unrecorded id held' now := by
  refine ⟨sub h.locked, since.stable (P := fun d => d.commandIdempotency.get? (id.scope, id.idempotencyKey) = none) ?_
    h.absent⟩
  intro d w absent clear
  by_cases other : ∀ row, w ≠ .insertIdempotency row
  · show (Write.apply d w).commandIdempotency.get? _ = none
    rw [commandIdempotency_apply other]
    exact absent
  · obtain ⟨row, rfl⟩ : ∃ row, w = .insertIdempotency row := by simpa using other
    refine Table.get?_insert_of_ne absent fun same => ?_
    obtain ⟨scope, key⟩ : row.scope = id.scope ∧ row.idempotencyKey = id.idempotencyKey := Prod.ext_iff.1 same
    refine clear (.advisory (commandLockText id.scope id.idempotencyKey)) ?_ h.locked
    simp [Store.touches, Write.touches, scope, key]

theorem probeOfEvent_eq_none {db : Db} {eventId : Uuid} :
    db.probeOfEvent eventId = none ↔ ∀ state ∈ db.probeState, state.requestedEventId ≠ eventId := by
  unfold Db.probeOfEvent
  rw [List.find?_eq_none]
  simp [Table.mem_def]

theorem Creating.later (h : Creating id state held db) (since : Undisturbed held db now) (sub : held ⊆ held') :
    Creating id state held' now := by
  have probe : now.probeState.get? state.probeId = none ∧
      ∀ other ∈ now.probeState, other.requestedEventId ≠ state.requestedEventId := by
    refine since.stable (P := fun d => d.probeState.get? state.probeId = none ∧
      ∀ other ∈ d.probeState, other.requestedEventId ≠ state.requestedEventId) ?_
      ⟨h.absent, probeOfEvent_eq_none.1 h.unrequested⟩
    rintro d w ⟨absent, unrequested⟩ clear
    by_cases other : ∀ row, w ≠ .insertProbeState row
    · show (Write.apply d w).probeState.get? _ = none ∧ ∀ other ∈ (Write.apply d w).probeState, _
      rw [probeState_apply other]
      exact ⟨absent, unrequested⟩
    · obtain ⟨row, rfl⟩ : ∃ row, w = .insertProbeState row := by simpa using other
      have apart : row.probeId ≠ state.probeId := fun same =>
        clear (.probeId state.probeId) (by simp [Store.touches, Write.touches, same]) h.probeLocked
      have apart' : row.requestedEventId ≠ state.requestedEventId := fun same =>
        clear (.probeEvent state.requestedEventId) (by simp [Store.touches, Write.touches, same]) h.eventLocked
      refine ⟨Table.get?_insert_of_ne absent apart, fun other stored => ?_⟩
      change other ∈ d.probeState.insert row at stored
      by_cases present : (d.probeState.get? row.probeId).isSome
      · rw [Table.insert_of_present present] at stored
        exact unrequested other stored
      · rcases (Table.mem_insert (by simpa using present)).1 stored with old | rfl
        · exact unrequested other old
        · exact apart'
  exact ⟨h.unrecorded.later since sub, sub h.probeLocked, sub h.eventLocked, probe.1, probeOfEvent_eq_none.2 probe.2⟩

/-- With the probe, its event is missing from the outbox. -/
theorem Creating.noEvent (h : Creating id state held db) (inv : Traced db) :
    db.outboxEvents.get? state.requestedEventId = none := by
  rw [Table.get?_eq_none]
  intro event stored same
  exact inv.requested event stored (by rw [same]; exact h.unrequested)

/-- And so is its handoff. -/
theorem Creating.unpublished (h : Creating id state held db) (inv : Traced db) :
    db.handoffV1.find state.requestedEventId = none := by
  rw [HandoffLog.find_eq_none]
  intro row stored same
  exact inv.published row stored (by rw [same]; exact h.noEvent inv)

end Absent

/-! ## Statement by statement -/

/-- The writes of a first command. -/
def creationWrites (id : CommandIdentity) (clock : RequestClock) (state : ProbeState) (row : OutboxEvent) (last : Nat) :
    List Write :=
  [.insertProbeState state, .insertOutboxEvent row, .setLastHandoffId .v1 (last + 1),
    .insertHandoffEvent .v1 ⟨last + 1, state.requestedEventId, row.envelope, clock.published⟩,
    .insertIdempotency (idempotencyRow id state (last + 1) clock.recorded)]

section Stages

variable {id : CommandIdentity} {state : ProbeState} {row : OutboxEvent} {held : List Lock} {db : Db}

/-- The event's insert finds the id free. -/
theorem enqueue_creating {same : OutboxEvent → OutboxEvent → Bool} {d : EventDraft} {t : Timestamp}
    {K : Except SqlError Uuid → List Lock → List Write → Db → Prop} (drafted : d.row t = .ok row)
    (key : row.eventId = state.requestedEventId) (creating : Creating id state held db)
    (next : ∀ held' now, Creating id state held' now →
      K (.ok row.eventId) held' [.insertProbeState state, .insertOutboxEvent row] now) :
    (enqueue same d t).Safe Traced K held [.insertProbeState state] db := by
  unfold enqueue
  rw [drafted]
  apply Program.Safe.insert
  intro now since inv
  have free : (applyAll now [Write.insertProbeState state]).outboxEvents.get? row.eventId = none := by
    rw [key]
    exact (creating.later since (List.Subset.refl _)).noEvent inv
  rw [free]
  refine ⟨fun l hl => List.mem_append_right _ hl, ?_⟩
  exact next _ now (creating.later since (List.subset_append_left _ _))

/-- The row that the command has inserted is there when the handoff reads it. -/
theorem created_event (creating : Creating id state held db) (inv : Traced db)
    (key : row.eventId = state.requestedEventId) (more : List Write)
    (logs : ∀ w ∈ more, ∃ n, w = Write.setLastHandoffId .v1 n) :
    (applyAll db ([Write.insertProbeState state, .insertOutboxEvent row] ++ more)).outboxEvents.get?
      state.requestedEventId = some row := by
  have inserted : (db.outboxEvents.insert row).get? state.requestedEventId = some row := by
    have free := creating.noEvent inv
    rw [← key] at free ⊢
    rw [Table.get?_insert free, if_pos rfl]
  rw [applyAll_append]
  generalize start : applyAll db [Write.insertProbeState state, .insertOutboxEvent row] = base
  have before : base.outboxEvents.get? state.requestedEventId = some row := by
    rw [← start]
    exact inserted
  clear start
  induction more generalizing base with
  | nil => exact before
  | cons w more ih =>
    obtain ⟨n, rfl⟩ := logs w (by simp)
    refine ih (fun w h => logs w (by simp [h])) _ ?_
    show ((base.setHandoff .v1 _).outboxEvents).get? _ = some row
    rw [Db.outboxEvents_setHandoff]
    exact before

variable {t : Timestamp} {K : Except SqlError Nat → List Lock → List Write → Db → Prop}
  (key : row.eventId = state.requestedEventId)
  (refused : ∀ e held' ws now, Creating id state held' now → K (.error e) held' ws now)
  (next : ∀ held' now, Creating id state held' now → Lock.handoffCounter .v1 ∈ held' →
    K (.ok (now.handoffV1.lastHandoffId + 1)) held' [.insertProbeState state, .insertOutboxEvent row,
      .setLastHandoffId .v1 (now.handoffV1.lastHandoffId + 1), .insertHandoffEvent .v1
        ⟨now.handoffV1.lastHandoffId + 1, state.requestedEventId, row.envelope, t⟩] now)

include key refused next

theorem insertHandoff_creating (creating : Creating id state held db) (counter : Lock.handoffCounter .v1 ∈ held) :
    (insertHandoff .v1 t (db.handoffV1.lastHandoffId + 1) state.requestedEventId).Safe Traced K held
      [.insertProbeState state, .insertOutboxEvent row, .setLastHandoffId .v1 (db.handoffV1.lastHandoffId + 1)] db := by
  apply Program.Safe.insert
  intro now since inv
  have last : ((applyAll now ([] : List Write)).handoff .v1).lastHandoffId
      = ((applyAll db ([] : List Write)).handoff .v1).lastHandoffId := lastHandoffId_of_undisturbed counter since
  have creating := creating.later since (List.Subset.refl _)
  have found := created_event creating inv key [.setLastHandoffId .v1 (db.handoffV1.lastHandoffId + 1)] (by simp)
  simp only [List.cons_append, List.nil_append] at found
  rw [found]
  dsimp only
  split
  · exact refused _ _ _ _ creating
  · rename_i h
    split at h <;> cases h
  · rename_i stored h
    have same : stored = ⟨db.handoffV1.lastHandoffId + 1, state.requestedEventId, row.envelope, t⟩ := by
      split at h
      · cases h
      · cases h
        rfl
    subst same
    refine ⟨fun l hl => List.mem_append_right _ hl, ?_⟩
    have continued := next (held ++ [.handoffId .v1 (db.handoffV1.lastHandoffId + 1),
      .handoffEvent .v1 state.requestedEventId]) now (creating.later (.refl _) (List.subset_append_left _ _))
      (List.mem_append_left _ counter)
    rw [show now.handoffV1.lastHandoffId = db.handoffV1.lastHandoffId from last] at continued
    exact continued

/-- The command's event is published under the next id. -/
theorem publish_creating (creating : Creating id state held db) :
    (publishRealtimeHandoffV1 t (some state.requestedEventId)).Safe Traced K held
      [.insertProbeState state, .insertOutboxEvent row] db := by
  apply Program.Safe.lock
  intro now since _
  have creating := creating.later since (List.subset_append_left _ [Lock.advisory (Version.v1.lockText state.requestedEventId)])
  apply Program.Safe.query
  intro now since inv
  have creating := creating.later since (List.Subset.refl _)
  have unpublished : ((applyAll now [Write.insertProbeState state, .insertOutboxEvent row]).handoff .v1).find
      state.requestedEventId = none := creating.unpublished inv
  rw [unpublished]
  apply Program.Safe.query
  intro now since inv
  have creating := creating.later since (List.Subset.refl _)
  have found := created_event creating inv key [] (by simp)
  rw [List.append_nil] at found
  rw [found, Option.map_some]
  split
  · exact refused _ _ _ _ creating
  · intro now since _
    have creating := creating.later since (List.subset_append_left _ [Lock.handoffCounter .v1])
    dsimp only
    split
    · refine ⟨?_, insertHandoff_creating key refused next creating (by simp)⟩
      intro w hw l hl
      obtain rfl := List.mem_singleton.1 hw
      exact List.mem_append_right _ hl
    · exact ⟨fun w hw => absurd hw List.not_mem_nil, refused _ _ _ _ creating⟩
  · exact refused _ _ _ _ creating

end Stages

/-! ## The whole call -/

section Call

variable {a : RequestProbeV1} {clock : RequestClock} {id : CommandIdentity} {state : ProbeState} {row : OutboxEvent}
  {held : List Lock} {db : Db}

/-- With no record there is nothing to refuse for. -/
theorem Unrecorded.refused (h : Unrecorded id held db) (identified : a.identity = .ok id) (e : SqlError)
    (ws : List Write) : requestPromise.ending Traced (a, clock) (.error e) held ws db := by
  intro now since _ id' record identified' found
  rw [identified] at identified'
  cases identified'
  rw [(h.later since (List.Subset.refl _)).absent] at found
  cases found

/-- A first command, at its commit, makes the change of a run alone. -/
theorem Creating.created (clock : RequestClock) (creating : Creating id state held db) (inv : Traced db)
    (requested : probeRow a.probeId a.eventId a.occurredAt 1 = .ok state)
    (drafted : (a.event state).draft.row clock.enqueued = .ok row) :
    ∃ db₁ db₂ db₃, CreatedV1 a id clock db
      (applyAll db (creationWrites id clock state row db.handoffV1.lastHandoffId)) state row
      (db.handoffV1.lastHandoffId + 1) db₁ db₂ db₃ := by
  have key : row.eventId = state.requestedEventId := (Option.some.inj (EventDraft.fresh_row drafted).eventId).symm
  have free : db.outboxEvents.get? row.eventId = none := by
    rw [key]
    exact creating.noEvent inv
  have unused := inv.unused
  let db₁ : Db := { db with probeState := db.probeState.insert state }
  let db₂ : Db := { db₁ with outboxEvents := db.outboxEvents.insert row }
  have found : db₂.outboxEvents.get? state.requestedEventId = some row := by
    show (db.outboxEvents.insert row).get? _ = some row
    rw [← key, Table.get?_insert free, if_pos rfl]
  exact ⟨db₁, db₂, _, creating.unrecorded.absent, requested, creating.absent, creating.unrequested, rfl, drafted,
    .inserted free, .appended found (creating.unpublished inv) unused, rfl, fun _ stored => by simp [free] at stored⟩

/-- The database after a first command. -/
def Db.create (db : Db) (id : CommandIdentity) (clock : RequestClock) (state : ProbeState) (row : OutboxEvent) : Db :=
  { db with
    probeState := db.probeState.insert state
    outboxEvents := db.outboxEvents.insert row
    handoffV1 := db.handoffV1.append
      (HandoffEvent.mk (db.handoffV1.lastHandoffId + 1) state.requestedEventId row.envelope clock.published)
    commandIdempotency := db.commandIdempotency.insert
      (idempotencyRow id state (db.handoffV1.lastHandoffId + 1) clock.recorded) }

/-- With the references in place, everything that a first command writes is new. -/
theorem CreatedV1.eq_create {db' db₁ db₂ db₃ : Db} {cursor : Nat} (inv : Traced db)
    (created : CreatedV1 a id clock db db' state row cursor db₁ db₂ db₃) :
    cursor = db.handoffV1.lastHandoffId + 1 ∧ db' = db.create id clock state row ∧
      db.outboxEvents.get? row.eventId = none ∧ row.eventId = state.requestedEventId := by
  have key : row.eventId = state.requestedEventId := (Option.some.inj (EventDraft.fresh_row created.drafted).eventId).symm
  have free : db.outboxEvents.get? row.eventId = none := by
    rw [Table.get?_eq_none]
    intro event stored same
    exact inv.requested event stored (by rw [same, key]; exact created.unrequested)
  obtain ⟨_, _, _, _, rfl, _, event, handoff, rfl⟩ := created
  cases event with
  | stored present =>
    change db.outboxEvents.get? row.eventId = some _ at present
    rw [free] at present
    cases present
  | inserted _ =>
    cases handoff with
    | @already published found =>
      have stored := HandoffLog.find_eq_some found
      refine absurd ?_ (inv.published published stored.1)
      rw [stored.2, ← key]
      exact free
    | @appended event stored _ _ =>
      have same : event = row := by
        change (db.outboxEvents.insert row).get? state.requestedEventId = some event at stored
        rw [← key, Table.get?_insert free, if_pos rfl] at stored
        exact (Option.some.inj stored).symm
      subst same
      exact ⟨rfl, rfl, free, key⟩

theorem Traced.create (inv : Traced db) (absent : db.probeState.get? state.probeId = none)
    (free : db.outboxEvents.get? row.eventId = none) (key : row.eventId = state.requestedEventId) :
    Traced (db.create id clock state row) := by
  have unused := inv.unused
  have mem_handoff : ∀ other ∈ (db.create id clock state row).handoffV1.events, other ∈ db.handoffV1.events ∨
      (other.handoffId = db.handoffV1.lastHandoffId + 1 ∧ other.eventId = row.eventId) := by
    intro other stored
    rcases (Table.mem_insert unused).1 stored with old | rfl
    · exact .inl old
    · exact .inr ⟨rfl, key.symm⟩
  refine ⟨?_, ?_, ?_⟩
  · intro event stored requested
    rw [probeOfEvent_eq_none] at requested
    rcases (Table.mem_insert free).1 stored with old | rfl
    · have probe := inv.requested event old
      rw [Ne, probeOfEvent_eq_none] at probe
      exact probe fun other known => requested other (Table.mem_insert_of_mem known)
    · exact requested state ((Table.mem_insert absent).2 (.inr rfl)) key.symm
  · intro other stored missing
    rw [Table.get?_eq_none] at missing
    rcases mem_handoff other stored with old | ⟨_, same⟩
    · have event := inv.published other old
      rw [Ne, Table.get?_eq_none] at event
      exact event fun row known => missing row (Table.mem_insert_of_mem known)
    · exact missing row ((Table.mem_insert free).2 (.inr rfl)) same.symm
  · intro other stored
    show other.handoffId ≤ db.handoffV1.lastHandoffId + 1
    rcases mem_handoff other stored with old | ⟨same, _⟩
    · have bound := inv.numbered other old
      omega
    · omega

theorem Answered.traced {receipt : ProbeReceipt} {db' : Db} (inv : Traced db)
    (answered : Answered a clock receipt db db') : Traced db' := by
  obtain ⟨id, _, ⟨rfl, _⟩ | ⟨state, row, cursor, db₁, db₂, db₃, created, _⟩⟩ := answered
  · exact inv
  · obtain ⟨_, rfl, free, key⟩ := created.eq_create inv
    exact inv.create created.absent free key

/-- The record of a first command, after which it returns. -/
theorem insertIdempotency_creating {last : Nat} (identified : a.identity = .ok id)
    (requested : probeRow a.probeId a.eventId a.occurredAt 1 = .ok state)
    (drafted : (a.event state).draft.row clock.enqueued = .ok row) (creating : Creating id state held db)
    (counter : Lock.handoffCounter .v1 ∈ held) (current : last = db.handoffV1.lastHandoffId) :
    (insertIdempotency (idempotencyRow id state (last + 1) clock.recorded)
        (.ret (createdReceipt state (last + 1)))).Safe Traced (requestPromise.ending Traced (a, clock)) held
      [.insertProbeState state, .insertOutboxEvent row, .setLastHandoffId .v1 (last + 1), .insertHandoffEvent .v1
        ⟨last + 1, state.requestedEventId, row.envelope, clock.published⟩] db := by
  apply Program.Safe.insert
  intro now since _
  have creating := creating.later since (List.Subset.refl _)
  split
  · exact creating.unrecorded.refused identified _ _
  · rename_i h
    split at h
    · cases h
    · split at h <;> cases h
  · rename_i record h
    have same : record = idempotencyRow id state (last + 1) clock.recorded := by
      split at h
      · cases h
      · split at h
        · cases h
        · cases h
          rfl
    subst same
    refine ⟨?_, ?_⟩
    · intro l hl
      rcases List.mem_cons.1 hl with rfl | hl
      · exact List.mem_append_left _ creating.unrecorded.locked
      · exact List.mem_append_right _ hl
    · intro ending after inv
      -- the counter is current from the statement that raised it to the commit
      have clear : Undisturbed held now ending := after.mono fun l h => List.mem_append_left _ h
      have still : ((applyAll ending ([] : List Write)).handoff .v1).lastHandoffId
          = ((applyAll db ([] : List Write)).handoff .v1).lastHandoffId :=
        lastHandoffId_of_undisturbed counter (since.trans clear)
      have last_eq : last = ending.handoffV1.lastHandoffId := current.trans still.symm
      subst last_eq
      have creating := creating.later clear (List.Subset.refl _)
      obtain ⟨db₁, db₂, db₃, created⟩ := creating.created clock inv requested drafted
      have answered : Answered a clock (createdReceipt state (ending.handoffV1.lastHandoffId + 1)) ending
          (applyAll ending (creationWrites id clock state row ending.handoffV1.lastHandoffId)) :=
        ⟨id, identified, .inr ⟨state, row, _, db₁, db₂, db₃, created, rfl⟩⟩
      exact ⟨answered.traced inv, answered⟩

theorem createProbe_safe (identified : a.identity = .ok id)
    (requested : probeRow a.probeId a.eventId a.occurredAt 1 = .ok state) (unrecorded : Unrecorded id held db) :
    (createProbe a id clock state).Safe Traced (requestPromise.ending Traced (a, clock)) held [] db := by
  apply Program.Safe.insert
  intro now since _
  have unrecorded := unrecorded.later since (List.Subset.refl _)
  split
  · exact unrecorded.refused identified _ _
  · rename_i h
    split at h
    · cases h
    · split at h <;> cases h
  · rename_i stored h
    obtain ⟨rfl, absent, unrequested⟩ : stored = state ∧ now.probeState.get? state.probeId = none ∧
        now.probeOfEvent state.requestedEventId = none := by
      split at h
      · cases h
      · split at h
        · cases h
        · rename_i absent unrequested
          cases h
          exact ⟨rfl, by simpa using absent, by simpa using unrequested⟩
    refine ⟨fun l hl => List.mem_append_right _ hl, ?_⟩
    have creating : Creating id stored (held ++ stored.keys) now :=
      ⟨unrecorded.later (.refl _) (List.subset_append_left _ _), by simp [ProbeState.keys], by simp [ProbeState.keys],
        absent, unrequested⟩
    apply Program.Safe.bind
    rcases drafted : (a.event stored).draft.row clock.enqueued with e | row
    · have refused : enqueueOutboxV1 (a.event stored) clock.enqueued = .raise e := by
        unfold enqueueOutboxV1 enqueue
        rw [drafted]
      rw [refused]
      exact creating.unrecorded.refused identified e [.insertProbeState stored]
    · have key : row.eventId = stored.requestedEventId := (Option.some.inj (EventDraft.fresh_row drafted).eventId).symm
      refine enqueue_creating drafted key creating fun held' now creating => ?_
      apply Program.Safe.bind
      refine publish_creating key ?_ ?_ creating
      · intro e held' ws now creating
        exact creating.unrecorded.refused identified e ws
      · intro held' now creating counter
        exact insertIdempotency_creating identified requested drafted creating counter rfl

theorem firstCommand_safe (identified : a.identity = .ok id) (unrecorded : Unrecorded id held db) :
    (firstCommand a id clock).Safe Traced (requestPromise.ending Traced (a, clock)) held [] db := by
  intro now since _
  have unrecorded : ∀ more, Unrecorded id (held ++ more) now := fun more =>
    unrecorded.later since (List.subset_append_left held more)
  refine ⟨fun w hw => absurd hw List.not_mem_nil, ?_⟩
  dsimp only
  split
  · exact (unrecorded _).refused identified _ _
  split
  · exact (unrecorded _).refused identified _ _
  rename_i first
  have one : ((0 : Int) + 1).toNat = 1 := rfl
  rw [not_not.1 first, one]
  split
  · exact (unrecorded _).refused identified _ _
  · rename_i requested
    exact createProbe_safe identified requested (unrecorded _)

/-- A record that the call has read is still there when it ends. -/
theorem record_of_undisturbed {record : IdempotencyRecord} {now : Db} {key : String × String}
    (found : db.commandIdempotency.get? key = some record) (since : Undisturbed held db now) :
    now.commandIdempotency.get? key = some record := by
  refine since.stable (P := fun d => d.commandIdempotency.get? key = some record) (fun d w present _ => ?_) found
  by_cases other : ∀ row, w ≠ .insertIdempotency row
  · show (Write.apply d w).commandIdempotency.get? key = some record
    rw [commandIdempotency_apply other]
    exact present
  · obtain ⟨row, rfl⟩ : ∃ row, w = .insertIdempotency row := by simpa using other
    obtain ⟨stored, rfl⟩ := Table.get?_eq_some.1 present
    exact Table.get?_eq_some.2 ⟨Table.mem_insert_of_mem stored, rfl⟩

theorem requestProbeV1_safe : (requestProbeV1 a clock).Safe Traced (requestPromise.ending Traced (a, clock)) [] [] db := by
  unfold requestProbeV1
  rcases identified : a.identity with e | id
  · intro now _ _ id record identified'
    rw [identified] at identified'
    cases identified'
  · apply Program.Safe.lock
    intro now _ _
    apply Program.Safe.query
    intro now _ _
    rcases found : now.commandIdempotency.get? (id.scope, id.idempotencyKey) with _ | record
    · rw [applyAll_nil, found]
      exact firstCommand_safe identified ⟨by simp, found⟩
    · rw [applyAll_nil, found]
      dsimp only
      split
      · intro _ _ _ _ _ _ _ _
        rfl
      · rename_i same
        rcases answered : record.receipt with e | receipt
        · intro ending since _ id' record' identified' found' other
          rw [identified] at identified'
          cases identified'
          rw [record_of_undisturbed found since] at found'
          cases found'
          exact absurd (not_not.1 same) other
        · intro ending since inv
          exact ⟨inv, id, identified, .inl ⟨rfl, record, record_of_undisturbed found since, not_not.1 same, answered⟩⟩

end Call

/-- **A verified call.** Among other calls of `request_probe_v1`, each call that returns has answered from
its record or made all its rows, and each that is refused is refused for its fingerprint. -/
theorem verified_requestProbeV1 :
    Verified (fun call : RequestProbeV1 × RequestClock => requestProbeV1 call.1 call.2) Traced requestPromise :=
  fun _ _ _ => requestProbeV1_safe

end Liqi.Database
