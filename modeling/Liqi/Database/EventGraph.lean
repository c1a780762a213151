import Liqi.Database.HandoffRetention
import Liqi.Database.OutboxSteps
import Liqi.Database.Retention

/-!
# The references between events and the other tables

Every row that names an event names one that is there, in every state that calls and prunes reach in any order.
A call adds events and names only events that are there when it ends (`Grows`); a prune of the log or of the
commands takes references away; and `prune_outbox_v1` deletes an event with the only rows that may still name it.
-/

namespace Liqi.Database

open Postgres

/-- The event is there. -/
def Db.Stores (db : Db) (eventId : Uuid) : Prop := (db.outboxEvents.get? eventId).isSome

/-- Every reference is to an event that is there. -/
def Closed (db : Db) : Prop := ∀ eventId ∈ db.references, db.Stores eventId

variable {db : Db}

theorem Db.stores_of_mem {event : OutboxEvent} (stored : event ∈ db.outboxEvents) :
    db.Stores event.eventId := by
  rw [Db.Stores, Table.get?_self stored]
  rfl

variable {eventId : Uuid}

theorem Db.stores_iff : db.Stores eventId ↔ ∃ event ∈ db.outboxEvents, event.eventId = eventId := by
  rw [Db.Stores, Option.isSome_iff_exists]
  exact exists_congr fun event => Table.get?_eq_some

theorem mem_foreignKeys : eventId ∈ db.foreignKeys ↔
    (∃ attempt ∈ db.outboxAttempts, attempt.eventId = eventId) ∨ (∃ effect ∈ db.probeEffects, effect.eventId = eventId)
      ∨ (∃ record ∈ db.commandIdempotency, record.eventId = eventId)
      ∨ ∃ version, ∃ row ∈ (db.handoff version).events, row.eventId = eventId := by
  have logs : (∃ version, ∃ row ∈ (db.handoff version).events, row.eventId = eventId) ↔
      (∃ row ∈ db.handoffV0.events, row.eventId = eventId) ∨ ∃ row ∈ db.handoffV1.events, row.eventId = eventId := by
    constructor
    · rintro ⟨version | version, found⟩
      · exact .inl found
      · exact .inr found
    · rintro (found | found)
      · exact ⟨.v0, found⟩
      · exact ⟨.v1, found⟩
  rw [logs]
  simp only [Db.foreignKeys, List.mem_append, List.mem_map, Table.mem_def, or_assoc]

theorem mem_references : eventId ∈ db.references ↔
    eventId ∈ db.foreignKeys ∨ ∃ state ∈ db.probeState, state.requestedEventId = eventId := by
  simp only [Db.references, List.mem_append, List.mem_map, Table.mem_def]

/-! ## Tables -/

/-- What the rows of `t'` name is named in `t` or is `added`. -/
def NamedIn {κ ρ : Type} {key : ρ → κ} (name : ρ → Uuid) (added : Uuid → Prop) (t t' : Table key) : Prop :=
  ∀ row ∈ t', (∃ old ∈ t, name old = name row) ∨ added (name row)

namespace NamedIn

variable {κ ρ : Type} {key : ρ → κ} {name : ρ → Uuid} {added : Uuid → Prop} {t : Table key}

theorem refl : NamedIn name added t t := fun row stored => .inl ⟨row, stored, rfl⟩

theorem insert [DecidableEq κ] {row : ρ} (new : added (name row)) : NamedIn name added t (t.insert row) := by
  intro other stored
  rcases Table.mem_of_mem_insert stored with old | rfl
  · exact refl other old
  · exact .inr new

theorem insertAll [DecidableEq κ] {rows : List ρ} (new : ∀ row ∈ rows, added (name row)) :
    NamedIn name added t (t.insertAll rows) := by
  intro other stored
  rcases Table.mem_of_mem_insertAll stored with old | listed
  · exact refl other old
  · exact .inr (new other listed)

theorem update {p : ρ → Bool} {f : ρ → ρ} (hf : ∀ row, key (f row) = key row) (same : ∀ row, name (f row) = name row) :
    NamedIn name added t (t.update p f hf) := by
  intro other stored
  obtain ⟨row, old, rfl⟩ := Table.mem_update.1 stored
  refine .inl ⟨row, old, ?_⟩
  split
  · exact (same row).symm
  · rfl

theorem delete {p : ρ → Bool} : NamedIn name added t (t.delete p) :=
  fun row stored => refl row (Table.mem_delete.1 stored).1

theorem trans {t' t'' : Table key} (first : NamedIn name added t t') (last : NamedIn name added t' t'') :
    NamedIn name added t t'' := by
  intro row stored
  rcases last row stored with ⟨old, before, same⟩ | new
  · rw [← same]
    exact first old before
  · exact .inr new

end NamedIn

/-- What the rows of `db'` name is named in `db` or is `added`. -/
structure Names (added : Uuid → Prop) (db db' : Db) : Prop where
  attempts : NamedIn OutboxAttempt.eventId added db.outboxAttempts db'.outboxAttempts := by exact .refl
  effects : NamedIn ProbeEffect.eventId added db.probeEffects db'.probeEffects := by exact .refl
  commands : NamedIn IdempotencyRecord.eventId added db.commandIdempotency db'.commandIdempotency := by exact .refl
  logs : ∀ version, NamedIn HandoffEvent.eventId added (db.handoff version).events (db'.handoff version).events := by
    exact fun _ => .refl
  probes : NamedIn ProbeState.requestedEventId added db.probeState db'.probeState := by exact .refl

namespace Names

variable {added : Uuid → Prop} {db db' db'' : Db}

theorem refl : Names added db db := {}

theorem trans (first : Names added db db') (last : Names added db' db'') : Names added db db'' where
  attempts := first.attempts.trans last.attempts
  effects := first.effects.trans last.effects
  commands := first.commands.trans last.commands
  logs version := (first.logs version).trans (last.logs version)
  probes := first.probes.trans last.probes

theorem foreignKeys (names : Names added db db') {eventId : Uuid} (named : eventId ∈ db'.foreignKeys) :
    eventId ∈ db.foreignKeys ∨ added eventId := by
  rw [mem_foreignKeys] at named ⊢
  rcases named with ⟨row, stored, rfl⟩ | ⟨row, stored, rfl⟩ | ⟨row, stored, rfl⟩ | ⟨version, row, stored, rfl⟩
  · exact (names.attempts row stored).imp_left Or.inl
  · exact (names.effects row stored).imp_left (.inr ∘ Or.inl)
  · exact (names.commands row stored).imp_left (.inr ∘ Or.inr ∘ Or.inl)
  · exact (names.logs version row stored).imp_left fun old => .inr (.inr (.inr ⟨version, old⟩))

theorem references (names : Names added db db') {eventId : Uuid} (named : eventId ∈ db'.references) :
    eventId ∈ db.references ∨ added eventId := by
  rw [mem_references] at named ⊢
  rcases named with named | ⟨state, stored, rfl⟩
  · exact (names.foreignKeys named).imp_left Or.inl
  · exact (names.probes state stored).imp_left Or.inr

end Names

/-- Events are kept, and what is newly named is there at the end. -/
structure Grows (db db' : Db) : Prop where
  events : ∀ eventId, db.Stores eventId → db'.Stores eventId
  names : Names db'.Stores db db'

theorem Closed.grow {db' : Db} (closed : Closed db) (grows : Grows db db') : Closed db' := by
  intro eventId named
  rcases grows.names.references named with old | new
  · exact grows.events eventId (closed eventId old)
  · exact new

/-! ## Calls -/

section Calls

variable {added : Uuid → Prop} {db db' : Db}

variable {row : OutboxEvent}

theorem Enqueued.stores (h : Enqueued row db db') : db'.Stores row.eventId := by
  cases h with
  | stored present =>
    rw [Db.Stores, present]
    rfl
  | inserted absent => exact (Table.isSome_get?_insert row row.eventId).2 (.inl rfl)

theorem Enqueued.events (h : Enqueued row db db') (eventId : Uuid) (stored : db.Stores eventId) :
    db'.Stores eventId := by
  cases h with
  | stored => exact stored
  | inserted => exact (Table.isSome_get?_insert row eventId).2 (.inr stored)

theorem Enqueued.names (h : Enqueued row db db') : Names added db db' := by
  cases h with
  | stored => exact .refl
  | inserted => exact {}

variable {version : Version} {now : Timestamp} {eventId : Uuid}

variable {id : Nat}

theorem Published.names (h : Published version now eventId db id db') (new : added eventId) :
    Names added db db' := by
  cases h with
  | already => exact .refl
  | @appended event stored missing unused =>
    refine ⟨?_, ?_, ?_, ?_, ?_⟩
    · rw [Db.outboxAttempts_setHandoff]
      exact .refl
    · rw [Db.probeEffects_setHandoff]
      exact .refl
    · rw [Db.commandIdempotency_setHandoff]
      exact .refl
    · intro other
      by_cases same : other = version
      · subst same
        rw [Db.handoff_setHandoff_self]
        exact .insert new
      · rw [Db.handoff_setHandoff_of_ne _ _ same]
        exact .refl
    · rw [Db.probeState_setHandoff]
      exact .refl

theorem Published.grows (h : Published version now eventId db id db') : Grows db db' := by
  have same := h.outboxEvents
  cases h with
  | already => exact ⟨fun _ stored => stored, .refl⟩
  | @appended event stored missing unused =>
    have kept : ∀ eventId, db.Stores eventId → Db.Stores _ eventId := fun eventId old => by
      rw [Db.Stores, same]
      exact old
    refine ⟨kept, (Published.appended stored missing unused).names (kept _ ?_)⟩
    rw [Db.Stores, stored]
    rfl

variable {state : ProbeState}

theorem ProbeStored.names (h : ProbeStored state db db') (new : added state.requestedEventId) :
    Names added db db' := by
  cases h with
  | present => exact .refl
  | inserted => exact { probes := .insert new }

theorem ProbeRequested.grows {db₁ db₂ db₃ : Db} (h : ProbeRequested version now state row id db db₁ db₂ db₃ db') :
    Grows db db' := by
  have events : db'.outboxEvents = db₂.outboxEvents := by
    rw [h.after]
    exact h.handoff.outboxEvents
  have stored : db'.Stores state.requestedEventId := by
    rw [Db.Stores, events, ← h.key]
    exact h.event.stores
  have record : Names db'.Stores db₃ db' := by
    have named : NamedIn IdempotencyRecord.eventId db'.Stores db₃.commandIdempotency db'.commandIdempotency := by
      intro record listed
      rcases h.commands record listed with old | new
      · exact NamedIn.refl record old
      · exact .inr (new ▸ stored)
    revert named
    rw [h.after]
    exact fun named => { commands := named }
  refine ⟨fun eventId old => ?_, (((h.probe.names stored).trans h.event.names).trans (h.handoff.names stored)).trans record⟩
  rw [Db.Stores, events]
  refine h.event.events eventId ?_
  rwa [Db.Stores, h.probe.outboxEvents]

/-- An update of events keeps them all. -/
theorem stores_update {p : OutboxEvent → Bool} {f : OutboxEvent → OutboxEvent}
    (hf : ∀ row, (f row).eventId = row.eventId) :
    ((db.outboxEvents.update p f hf).get? eventId).isSome ↔ db.Stores eventId := by
  rw [Table.get?_update, Option.isSome_map, Db.Stores]

theorem setEvent_grows {f : OutboxEvent → OutboxEvent} {hf : ∀ row, (f row).eventId = row.eventId}
    {token : Option Uuid} {consumer : Option String} {outcome : AttemptOutcome} {errorCode : Option String} :
    Grows db (finishAttempts token consumer now outcome errorCode (setEvent eventId f hf db)) where
  events _ stored := (stores_update hf).2 stored
  names := { attempts := .update (OutboxAttempt.close_key now outcome errorCode) fun _ => rfl }

theorem Grows.refl (db : Db) : Grows db db := ⟨fun _ stored => stored, .refl⟩

theorem ack_grows (now : Timestamp) (eventId token : Option Uuid) (consumer : Option String) (db : Db) :
    Grows db (ackOutboxV0 now eventId token consumer db).2 := by
  rcases ack_cases now eventId token consumer db with ⟨same, _⟩ | ⟨event, t, c, lease, _, _, _, _, _, acked⟩
  · rw [same]
    exact .refl db
  · rw [acked]
    exact setEvent_grows

theorem giveUp_grows (event : OutboxEvent) (token : Option Uuid) (consumer : Option String) (code : String)
    (now : Timestamp) (retryAt : Option Timestamp) : Grows db (giveUp event token consumer code now retryAt db) := by
  unfold giveUp
  split <;> exact setEvent_grows

theorem apply_grows {eventId token : Option Uuid} {consumer : Option String} {status : OutboxStatus}
    (ran : applyProbeEffectAndAck version now eventId token consumer db = .ok (status, db')) :
    Grows db db' := by
  rcases apply_cases ran with ⟨rfl, _⟩ | ⟨event, t, c, lease, probeId, db₁, applied, acked⟩
  · exact .refl db'
  have last := ack_grows now eventId token consumer (completeProbe probeId now db₁)
  rw [← acked] at last
  have complete : Names db'.Stores db₁ (completeProbe probeId now db₁) := by
    refine { probes := .update (ProbeState.complete_probeId now) fun state => ?_ }
    unfold ProbeState.complete
    split <;> rfl
  rcases insertEffect_cases applied.effect with ⟨rfl, _⟩ | ⟨_, _, _, rfl⟩
  · exact ⟨last.events, complete.trans last.names⟩
  · have stored : db'.Stores event.eventId := last.events event.eventId (Db.stores_of_mem applied.stored)
    have effect : Names db'.Stores db
        { db with probeEffects := db.probeEffects.insert ⟨event.eventId, probeId, now⟩ } :=
      { effects := .insert stored }
    exact ⟨last.events, (effect.trans complete).trans last.names⟩

theorem Leased.grows {c : Claim} {claimed : List ClaimedEvent} {consumer : String} {seconds : Int}
    (h : Leased c db claimed db' consumer seconds) : Grows db db' := by
  have events : ∀ eventId, db.Stores eventId → db'.Stores eventId := by
    intro eventId stored
    rw [h.after]
    have swept : (c.swept db).Stores eventId := (stores_update (OutboxEvent.bury_eventId c.clock.bury)).2 stored
    exact (stores_update (c.leased_eventId consumer seconds)).2 swept
  refine ⟨events, ?_⟩
  have candidates : ∀ attempt ∈ (c.candidates db).map (c.attempt consumer seconds), db'.Stores attempt.eventId := by
    intro attempt listed
    obtain ⟨event, candidate, rfl⟩ := List.mem_map.1 listed
    exact events event.eventId (Db.stores_of_mem (mem_of_candidate candidate))
  revert candidates
  rw [h.after]
  exact fun candidates => 
    { attempts := NamedIn.trans (.update (OutboxAttempt.close_key c.clock.expire .leaseExpired none) fun _ => rfl)
        (.insertAll candidates) }

/-- Every call of the schema grows the graph, a prune of the log apart. -/
theorem Call.grows {call : Call} {r : Reply} (ran : call.exec db = .ok (r, db')) : Grows db db' := by
  cases Call.done ran with
  | enqueuedV0 _ event | enqueuedV1 _ event => exact ⟨event.events, event.names⟩
  | published handoff => exact handoff.grows
  | requestedV0 h | created _ h => exact h.request.grows
  | repeated => exact .refl db
  | leased h => exact h.grows
  | @acked _ now holder _ _ h =>
    have acked := ack_grows now holder.eventId holder.token holder.consumer db
    rwa [h] at acked
  | failed h =>
    rcases fail_cases h with rfl | ⟨event, _, _, _, code, _, _, _, _, _, _, rfl, _⟩
    · exact .refl db'
    · exact giveUp_grows event _ _ code _ _
  | applied h => exact apply_grows h
  | pruned =>
    refine ⟨fun _ stored => stored, { logs := ?_ }⟩
    rintro (version | version)
    · exact .refl
    · exact .delete

end Calls

/-! ## Prunes -/

section Prunes

variable {db db' : Db} {ids : List Uuid}

/-- The database without the events and their attempts. -/
def dropEvents (ids : List Uuid) (db : Db) : Db :=
  { deleteAttempts ids db with outboxEvents := db.outboxEvents.delete fun event => ids.contains event.eventId }

variable {eventId : Uuid}

theorem names_eq_false : db.names eventId = false ↔
    (∀ record ∈ db.commandIdempotency, record.eventId ≠ eventId)
      ∧ (∀ state ∈ db.probeState, state.requestedEventId ≠ eventId)
      ∧ (∀ effect ∈ db.probeEffects, effect.eventId ≠ eventId)
      ∧ ∀ version, ∀ row ∈ (db.handoff version).events, row.eventId ≠ eventId := by
  have logs : (∀ version, ∀ row ∈ (db.handoff version).events, row.eventId ≠ eventId) ↔
      (∀ row ∈ db.handoffV0.events, row.eventId ≠ eventId) ∧ ∀ row ∈ db.handoffV1.events, row.eventId ≠ eventId := by
    constructor
    · exact fun all => ⟨all .v0, all .v1⟩
    · rintro ⟨first, last⟩ (version | version)
      · exact first
      · exact last
  rw [logs]
  simp [Db.names, Table.mem_def, and_assoc]

/-- Once the attempts are gone, nothing names an event that only attempts named. -/
theorem notMem_of_references (unnamed : ∀ eventId ∈ ids, db.names eventId = false)
    (named : eventId ∈ (deleteAttempts ids db).references) : eventId ∉ ids := by
  intro member
  obtain ⟨commands, probes, effects, logs⟩ := names_eq_false.1 (unnamed eventId member)
  rw [mem_references, mem_foreignKeys] at named
  rcases named with (⟨attempt, stored, rfl⟩ | ⟨row, stored, same⟩ | ⟨row, stored, same⟩ | ⟨version, row, stored, same⟩)
    | ⟨row, stored, same⟩
  · have kept := (Table.mem_delete.1 stored).2
    simp [member] at kept
  · exact effects row stored same
  · exact commands row stored same
  · refine logs version row ?_ same
    cases version <;> exact stored
  · exact probes row stored same

theorem stores_dropEvents (stored : db.Stores eventId) (kept : eventId ∉ ids) :
    (dropEvents ids db).Stores eventId := by
  obtain ⟨event, member, rfl⟩ := Db.stores_iff.1 stored
  have left : event ∈ (dropEvents ids db).outboxEvents := Table.mem_delete.2 ⟨member, by simpa using kept⟩
  exact Db.stores_of_mem left

theorem Closed.dropEvents (closed : Closed db) (unnamed : ∀ eventId ∈ ids, db.names eventId = false) :
    Closed (dropEvents ids db) := by
  intro eventId named
  have before : eventId ∈ db.references := by
    have fewer : Names (fun _ => False) db (deleteAttempts ids db) := { attempts := .delete }
    exact (fewer.references named).resolve_right id
  exact stores_dropEvents (closed eventId before) (notMem_of_references unnamed named)

theorem checkBatch_cases (batch : Option Int) :
    (∃ message, checkBatch batch = .error (.invalidParameter message)) ∨ ∃ n, checkBatch batch = .ok n := by
  unfold checkBatch
  split
  · exact .inl ⟨_, rfl⟩
  · exact .inr ⟨_, rfl⟩

/-- `prune_outbox_v1` refuses its arguments, or deletes finished events that only attempts name. -/
theorem pruneOutboxV1_cases (succeededBefore deadLetterBefore : Option Timestamp) (batch : Option Int)
    (skipped : Uuid → Bool) (db : Db) :
    (∃ message, pruneOutboxV1 succeededBefore deadLetterBefore batch skipped db = .error (.invalidParameter message))
      ∨ ∃ ids, (∀ eventId ∈ ids, db.names eventId = false)
        ∧ (∀ event ∈ db.outboxEvents, event.eventId ∈ ids → event.endedAt ≠ none)
        ∧ pruneOutboxV1 succeededBefore deadLetterBefore batch skipped db = .ok (ids.length, dropEvents ids db) := by
  unfold pruneOutboxV1
  rcases succeededBefore with _ | succeededBefore
  · exact .inl ⟨_, rfl⟩
  rcases deadLetterBefore with _ | deadLetterBefore
  · exact .inl ⟨_, rfl⟩
  rcases checkBatch_cases batch with ⟨message, refused⟩ | ⟨n, accepted⟩
  · simp only [refused]
    exact .inl ⟨message, rfl⟩
  simp only [accepted]
  have selected : ∀ eventId ∈ eventCandidates succeededBefore deadLetterBefore n skipped db,
      ∃ event ∈ db.outboxEvents, event.eventId = eventId ∧ event.outlived succeededBefore deadLetterBefore = true
        ∧ db.names eventId = false := by
    intro eventId member
    obtain ⟨event, candidate, rfl⟩ := List.mem_map.1 member
    obtain ⟨stored, passed⟩ := Table.mem_of_select candidate
    simp only [Bool.and_eq_true, Bool.not_eq_true'] at passed
    exact ⟨event, stored, rfl, passed.1.1, passed.1.2⟩
  generalize eventCandidates succeededBefore deadLetterBefore n skipped db = ids at selected
  have unnamed : ∀ eventId ∈ ids, db.names eventId = false := fun eventId member => by
    obtain ⟨_, _, _, _, unnamed⟩ := selected eventId member
    exact unnamed
  refine .inr ⟨ids, unnamed, ?_, ?_⟩
  · intro event stored member
    obtain ⟨other, found, same, outlived, _⟩ := selected event.eventId member
    rw [Table.eq_of_key stored found same.symm]
    unfold OutboxEvent.outlived at outlived
    unfold OutboxEvent.endedAt
    cases state : other.state <;> simp [state] at outlived ⊢
  · split
    next empty =>
      rw [List.isEmpty_iff.1 empty]
      have attempts : db.outboxAttempts.delete (fun attempt => ([] : List Uuid).contains attempt.eventId)
          = db.outboxAttempts := Table.delete_of_none fun _ _ => rfl
      have events : db.outboxEvents.delete (fun event => ([] : List Uuid).contains event.eventId)
          = db.outboxEvents := Table.delete_of_none fun _ _ => rfl
      simp only [Liqi.Database.dropEvents, deleteAttempts, attempts, events, List.length_nil]
    next =>
      have free : ¬ ((deleteAttempts ids db).foreignKeys.any ids.contains = true) := by
        simp only [List.any_eq_true, List.contains_iff_mem, not_exists, not_and]
        intro eventId named
        exact notMem_of_references unnamed (mem_references.2 (.inl named))
      rw [deleteEvents, if_neg free]
      rfl

theorem pruneCommandIdempotencyV1_cases {completedBefore : Option Timestamp} {batch : Option Int} {now : Timestamp}
    {skipped : String × String → Bool} {n : Nat}
    (ran : pruneCommandIdempotencyV1 completedBefore batch now skipped db = .ok (n, db')) :
    ∃ keys : List (String × String),
      db' = { db with commandIdempotency := db.commandIdempotency.delete fun record => keys.contains record.key } := by
  unfold pruneCommandIdempotencyV1 at ran
  rcases completedBefore with _ | completedBefore
  · cases ran
  dsimp only at ran
  split at ran
  · cases ran
  · cases ran
    exact ⟨_, rfl⟩

/-! ## Steps -/

/-- What a step does to the graph and the logs. -/
inductive GraphStep (step : RetentionStep) (db : Db) : Db → Prop where
  | raised : GraphStep step db db
  | called {call : Call} {r : Reply} {db' : Db} (made : step = .call call) (ran : call.exec db = .ok (r, db')) :
      GraphStep step db db'
  | commands (keys : List (String × String)) :
      GraphStep step db
        { db with commandIdempotency := db.commandIdempotency.delete fun record => keys.contains record.key }
  | events {ids : List Uuid} (unnamed : ∀ eventId ∈ ids, db.names eventId = false) :
      GraphStep step db (dropEvents ids db)

theorem graphStep (step : RetentionStep) (db : Db) : GraphStep step db (step.after db) := by
  unfold RetentionStep.after
  cases step with
  | call made =>
    simp only [RetentionStep.exec]
    rcases ran : made.exec db with e | ⟨r, db'⟩
    · exact .raised
    · exact .called rfl ran
  | pruneCommands completedBefore batch now skipped =>
    simp only [RetentionStep.exec]
    rcases ran : pruneCommandIdempotencyV1 completedBefore batch now skipped db with e | ⟨n, db'⟩
    · exact .raised
    · obtain ⟨keys, rfl⟩ := pruneCommandIdempotencyV1_cases ran
      exact .commands keys
  | pruneOutbox succeededBefore deadLetterBefore batch skipped =>
    simp only [RetentionStep.exec]
    rcases pruneOutboxV1_cases succeededBefore deadLetterBefore batch skipped db with
      ⟨message, refused⟩ | ⟨ids, unnamed, _, pruned⟩
    · rw [refused]
      exact .raised
    · rw [pruned]
      exact .events unnamed

theorem Closed.step (closed : Closed db) (step : RetentionStep) : Closed (step.after db) := by
  have change := graphStep step db
  generalize step.after db = after at change ⊢
  cases change with
  | raised => exact closed
  | called _ ran => exact closed.grow (Call.grows ran)
  | commands keys => exact closed.grow ⟨fun _ stored => stored, { commands := .delete }⟩
  | events unnamed => exact closed.dropEvents unnamed

theorem LogsRetained.after (inv : LogsRetained db) (step : RetentionStep) : LogsRetained (step.after db) := by
  have change := graphStep step db
  generalize step.after db = after at change ⊢
  cases change with
  | raised => exact inv
  | called _ ran => exact inv.step (Call.logStep_exec ran)
  | commands | events => exact inv.step (.grow (.same ⟨rfl, rfl, rfl⟩))

/-- What holds after the migrations and is kept by every step holds after every run. -/
theorem runSteps_invariant {P : Db → Prop} {steps : List RetentionStep} (start : P .migrated)
    (keeps : ∀ db, P db → ∀ step ∈ steps, P (step.after db)) : P (runSteps steps) :=
  List.foldlRecOn steps RetentionStep.after start keeps

theorem runSteps_sound (steps : List RetentionStep) : Closed (runSteps steps) ∧ LogsRetained (runSteps steps) :=
  ⟨runSteps_invariant nofun fun _ closed step _ => closed.step step,
    runSteps_invariant (runCalls_logsRetained []) fun _ retained step _ => retained.after step⟩

/-! ## Observations -/

theorem length_leftJoin {ρ : Type} (rows : List ρ) : (leftJoin rows).length = max 1 rows.length := by
  unfold leftJoin
  cases rows with
  | nil => rfl
  | cons row rows =>
    simp only [List.isEmpty_cons, Bool.false_eq_true, if_false, List.length_map, List.length_cons]
    omega

theorem length_observations (state : ProbeState) (event : OutboxEvent) (db : Db) :
    (observations state event db).length = max 1 (db.probeEffects.rows.filter (·.eventId = event.eventId)).length
      * max 1 (db.handoffV1.events.rows.filter (·.eventId = event.eventId)).length := by
  simp [observations, length_leftJoin]

/-- The log has one row for each event, so the join finds at most one. -/
theorem length_handoffs_le (inv : LogsRetained db) (eventId : Uuid) :
    (db.handoffV1.events.rows.filter (·.eventId = eventId)).length ≤ 1 := by
  have nodup : (db.handoffV1.events.rows.filter (·.eventId = eventId)).Nodup :=
    (List.Nodup.of_map _ db.handoffV1.events.unique).filter _
  have same : ∀ row ∈ db.handoffV1.events.rows.filter (·.eventId = eventId),
      ∀ other ∈ db.handoffV1.events.rows.filter (·.eventId = eventId), row = other := by
    intro row member other member'
    simp only [List.mem_filter, decide_eq_true_eq] at member member'
    exact (inv .v1).single row member.1 other member'.1 (member.2.trans member'.2.symm)
  generalize db.handoffV1.events.rows.filter (·.eventId = eventId) = rows at nodup same ⊢
  match rows with
  | [] => exact Nat.zero_le 1
  | [_] => exact le_rfl
  | row :: other :: rest =>
    obtain rfl := same row (by simp) other (by simp)
    simp at nodup

/-- What an observation starts from is kept. -/
structure KeepsProbes (db db' : Db) : Prop where
  probes : db'.probeState = db.probeState
  effects : db'.probeEffects = db.probeEffects
  events : ∀ state ∈ db.probeState,
    db'.outboxEvents.get? state.requestedEventId = db.outboxEvents.get? state.requestedEventId

theorem KeepsProbes.observe (keeps : KeepsProbes db db') (inv : LogsRetained db) {probeId eventId : Option Uuid}
    {rows : List ProbeObservation} (observed : observeProbeV1 probeId eventId db = .ok rows) :
    ∃ rows', observeProbeV1 probeId eventId db' = .ok rows' ∧ rows.length ≤ rows'.length := by
  unfold observeProbeV1 at observed ⊢
  rw [keeps.probes]
  cases found : probeId.bind db.probeState.get? with
  | none =>
    rw [found] at observed
    exact ⟨rows, observed, le_rfl⟩
  | some state =>
    have stored : state ∈ db.probeState := by
      obtain ⟨id, _, found⟩ := Option.bind_eq_some_iff.1 found
      exact (Table.get?_eq_some.1 found).1
    rw [found] at observed
    simp only [keeps.events state stored] at observed ⊢
    split_ifs at observed ⊢
    cases requested : db.outboxEvents.get? state.requestedEventId with
    | none =>
      rw [requested] at observed
      exact ⟨rows, observed, le_rfl⟩
    | some event =>
      simp only [requested] at observed ⊢
      split_ifs at observed ⊢
      · cases observed
        refine ⟨_, rfl, ?_⟩
        rw [length_observations, length_observations, keeps.effects]
        have single := length_handoffs_le inv event.eventId
        exact Nat.mul_le_mul_left _ (by omega)
      · exact ⟨rows, observed, le_rfl⟩

theorem keepsProbes_dropEvents (unnamed : ∀ eventId ∈ ids, db.names eventId = false) :
    KeepsProbes db (dropEvents ids db) := by
  refine ⟨rfl, rfl, fun state stored => Table.get?_delete_of_kept ?_⟩
  intro event _ requested
  have kept : event.eventId ∉ ids := fun member =>
    (names_eq_false.1 (unnamed _ member)).2.1 state stored requested.symm
  simpa using kept

theorem RetentionStep.Prunes.keepsProbes {step : RetentionStep} (prunes : step.Prunes) (db : Db) :
    KeepsProbes db (step.after db) := by
  have change := graphStep step db
  generalize step.after db = after at change ⊢
  cases change with
  | raised => exact ⟨rfl, rfl, fun _ _ => rfl⟩
  | called made ran =>
    subst made
    rename_i call _
    cases call with
    | pruneHandoff recordedBefore batch skipped =>
      obtain ⟨_, ran, _⟩ := reply_ok ran
      obtain ⟨cutoff, n, _, _, _, rfl⟩ := prune_cases ran
      exact ⟨rfl, rfl, fun _ _ => rfl⟩
    | _ => exact prunes.elim
  | commands keys => exact ⟨rfl, rfl, fun _ _ => rfl⟩
  | events unnamed => exact keepsProbes_dropEvents unnamed

/-- **The event graph.** In every state that calls and prunes reach in any order: every row that names an event
names one that is there; `prune_outbox_v1`, whatever its arguments, raises no foreign-key violation and deletes
only events that succeeded or are dead letters; and no prune makes `observe_probe_v1` return fewer rows. -/
theorem retention_keeps_graph (steps : List RetentionStep) :
    (∀ eventId ∈ (runSteps steps).references, ∃ event ∈ (runSteps steps).outboxEvents, event.eventId = eventId)
      ∧ (∀ succeededBefore deadLetterBefore batch skipped,
        (∀ error, pruneOutboxV1 succeededBefore deadLetterBefore batch skipped (runSteps steps) = .error error →
            error.state ≠ .foreignKeyViolation)
          ∧ ∀ n db', pruneOutboxV1 succeededBefore deadLetterBefore batch skipped (runSteps steps) = .ok (n, db') →
            ∀ event ∈ (runSteps steps).outboxEvents, event ∉ db'.outboxEvents →
              ∃ t, event.state = .succeeded t ∨ event.state = .deadLetter t)
      ∧ ∀ step : RetentionStep, step.Prunes → ∀ probeId eventId rows,
        observeProbeV1 probeId eventId (runSteps steps) = .ok rows →
          ∃ rows', observeProbeV1 probeId eventId (step.after (runSteps steps)) = .ok rows'
            ∧ rows.length ≤ rows'.length := by
  obtain ⟨closed, logs⟩ := runSteps_sound steps
  refine ⟨fun eventId named => Db.stores_iff.1 (closed eventId named), ?_, ?_⟩
  · intro succeededBefore deadLetterBefore batch skipped
    rcases pruneOutboxV1_cases succeededBefore deadLetterBefore batch skipped (runSteps steps) with
      ⟨message, refused⟩ | ⟨ids, _, ended, pruned⟩
    · rw [refused]
      exact ⟨by rintro error ⟨⟩ ⟨⟩, nofun⟩
    · rw [pruned]
      refine ⟨nofun, ?_⟩
      rintro n db' ⟨⟩ event stored deleted
      have listed : event.eventId ∈ ids := by
        by_contra kept
        exact deleted (Table.mem_delete.2 ⟨stored, by simpa using kept⟩)
      have ending := ended event stored listed
      unfold OutboxEvent.endedAt at ending
      cases state : event.state with
      | succeeded t => exact ⟨t, .inl rfl⟩
      | deadLetter t => exact ⟨t, .inr rfl⟩
      | pending | processing => simp [state] at ending
  · intro step prunes probeId eventId rows observed
    exact (prunes.keepsProbes _).observe logs observed

/-- **Observations.** In every state that calls and prunes reach in any order, an observation has at most one row,
however its joins go; and each probe has its event, and one row if the event is of V1. -/
theorem probes_observable (steps : List RetentionStep) :
    let db := runSteps steps
    (∀ probeId eventId rows, observeProbeV1 probeId eventId db = .ok rows → rows.length ≤ 1) ∧
      ∀ state ∈ db.probeState, ∃ event ∈ db.outboxEvents, event.eventId = state.requestedEventId ∧
        (event.envelope.content.protocolVersion = 1 →
          ∃ row, observeProbeV1 (some state.probeId) (some state.requestedEventId) db = .ok [row]) := by
  intro db
  obtain ⟨closed, logs⟩ : Closed db ∧ LogsRetained db := runSteps_sound steps
  have single : ∀ state event, (observations state event db).length = 1 := by
    intro state event
    have effects := List.nodup_iff_count_le_one.1 db.probeEffects.unique event.eventId
    have rows := length_handoffs_le logs event.eventId
    rw [List.count_eq_countP, List.countP_map, List.countP_eq_length_filter] at effects
    rw [length_observations, Nat.max_eq_left rows, Nat.mul_one]
    exact Nat.max_eq_left effects
  constructor
  · intro probeId eventId rows observed
    unfold observeProbeV1 at observed
    grind
  · intro state stored
    obtain ⟨event, held, same⟩ := Db.stores_iff.1 (closed _ (mem_references.2 (.inr ⟨state, stored, rfl⟩)))
    refine ⟨event, held, same, fun v1 => ?_⟩
    obtain ⟨row, one⟩ := List.length_eq_one_iff.1 (single state event)
    have found := Table.get?_self stored
    have there := same ▸ Table.get?_self held
    exact ⟨row, by simp [observeProbeV1, found, there, same, v1, one, sqlNe, sqlEq, Truth.not]⟩

end Prunes

end Liqi.Database
