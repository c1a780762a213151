import Liqi.Database.Calls
import Liqi.Database.ProducerEffects

/-!
# Repeated enqueues

A second enqueue of an event id inserts nothing. `enqueue_outbox_v1` answers as the first call did if every column that
the producer supplies is the same. `enqueue_outbox_v0` was written before the V1 columns and does not compare them, nor
`max_attempts`: it also accepts an event that was enqueued by V1, and one with other attempts.
-/

namespace Liqi.Database

open Postgres

inductive EnqueueCall where
  | v0 (a : EnqueueV0) (now : Timestamp)
  | v1 (a : EnqueueV1) (now : Timestamp)

namespace EnqueueCall

def call : EnqueueCall → Call
  | .v0 a now => .enqueueV0 a now
  | .v1 a now => .enqueueV1 a now

def draft : EnqueueCall → EventDraft
  | .v0 a _ => a.draft
  | .v1 a _ => a.draft

def now : EnqueueCall → Timestamp
  | .v0 _ now => now
  | .v1 _ now => now

/-- What the call compares with the stored event. -/
def same : EnqueueCall → OutboxEvent → OutboxEvent → Bool
  | .v0 _ _ => sameDurableContentV0
  | .v1 _ _ => sameDurableContentV1

theorem exec_eq (c : EnqueueCall) (db : Db) :
    c.call.exec db = reply .event ((enqueue c.same c.draft c.now).run db) := by
  cases c with
  | v0 => rfl
  | v1 => rfl

/-- What the call stores for the event on an empty table. -/
def inserted (c : EnqueueCall) (eventId : Uuid) : Option OutboxEvent :=
  (c.call.step .migrated).outboxEvents.get? eventId

end EnqueueCall

/-- The database after enqueues alone. -/
def enqueued (calls : List EnqueueCall) : Db := runCalls (calls.map EnqueueCall.call)

/-- The columns that a producer supplies. -/
def OutboxEvent.durable (event : OutboxEvent) : EventContent × Nat := (event.envelope.content, event.maxAttempts)

/-- The call succeeds exactly if it would have inserted the same columns, and it leaves the stored event alone. -/
structure Repeats (db : Db) (stored : OutboxEvent) (c : EnqueueCall) : Prop where
  succeeds : (∃ answer, c.call.exec db = .ok answer) ↔
    ∃ row, c.inserted stored.eventId = some row ∧ stored.durable = row.durable
  unchanged : (c.call.step db).outboxEvents.get? stored.eventId = some stored

/-- The call compares all columns, or it is `enqueue_outbox_v0` and the others agree: it is refused, or the stored event
differs in a column that the call compares, or it was enqueued by V0 with as many attempts. -/
def EnqueueCall.Compares (stored : OutboxEvent) : EnqueueCall → Prop
  | .v1 _ _ => True
  | .v0 a now => ∀ row, a.draft.row now = .ok row → sameDurableContentV0 stored row = true →
      stored.envelope.content.protocolVersion = 0 ∧ stored.maxAttempts = row.maxAttempts

/-! ## One call -/

section Call

variable {c : EnqueueCall} {db : Db} {stored row : OutboxEvent}

theorem EnqueueCall.exec_refused {e : SqlError} (refused : c.draft.row c.now = .error e) (db : Db) :
    c.call.exec db = .error e := by
  rw [exec_eq]
  unfold enqueue
  rw [refused]
  rfl

theorem EnqueueCall.exec_absent (accepted : c.draft.row c.now = .ok row)
    (absent : db.outboxEvents.get? row.eventId = none) :
    c.call.exec db = .ok (.event row.eventId, { db with outboxEvents := db.outboxEvents.insert row }) := by
  rw [exec_eq]
  unfold enqueue
  rw [accepted]
  simp [Program.run_insert, absent, reply, Except.map, Store.apply, Write.apply]

theorem EnqueueCall.exec_present (accepted : c.draft.row c.now = .ok row)
    (present : db.outboxEvents.get? row.eventId = some stored) :
    c.call.exec db = if c.same stored row then .ok (.event row.eventId, db)
      else .error (.unique "outbox event id already exists with different durable content") := by
  rw [exec_eq]
  unfold enqueue
  rw [accepted]
  simp only [Program.run_insert, present, Option.isSome_some, if_true, Program.run_query, Option.any_some]
  split <;> rfl

theorem EnqueueCall.inserted_refused {e : SqlError} (refused : c.draft.row c.now = .error e) (eventId : Uuid) :
    c.inserted eventId = none := by
  unfold inserted Call.step
  rw [exec_refused refused]
  exact Table.get?_empty eventId

theorem EnqueueCall.inserted_accepted (accepted : c.draft.row c.now = .ok row) : c.inserted row.eventId = some row := by
  have absent : Db.migrated.outboxEvents.get? row.eventId = none := Table.get?_empty row.eventId
  unfold inserted Call.step
  rw [exec_absent accepted absent]
  exact (Table.get?_insert absent _).trans (if_pos rfl)

end Call

/-! ## The V1 columns of the stored events -/

/-- The columns that `enqueue_outbox_v0` does not supply. -/
structure EventDraft.Extension (d : EventDraft) (c : EventContent) : Prop where
  protocolVersion : c.protocolVersion = d.protocolVersion
  traceContext : c.traceContext = d.traceContext
  deadlineAt : c.deadlineAt = d.deadlineAt
  priority : ∃ text, d.priority = some text ∧ Priority.ofText text = some c.priority

theorem checkPriority_ok {text : String} {priority : Priority} (checked : checkPriority text = .ok priority) :
    Priority.ofText text = some priority := by
  unfold checkPriority at checked
  split at checked
  next found => cases checked; exact found
  next => cases checked

theorem EventDraft.extension {d : EventDraft} {c : EventContent} (h : d.content = .ok c) : d.Extension c := by
  iterate 8 obtain ⟨_, _, h⟩ := bind_ok h
  obtain ⟨text, supplied, h⟩ := bind_ok h
  obtain ⟨_, checked, h⟩ := bind_ok h
  cases h
  exact ⟨rfl, rfl, rfl, text, notNull_ok supplied, checkPriority_ok checked⟩

/-- A V0 event has the defaults of the V1 columns. -/
structure DefaultColumns (c : EventContent) : Prop where
  protocolVersion : c.protocolVersion = 0
  traceContext : c.traceContext = .empty
  deadlineAt : c.deadlineAt = none
  priority : c.priority = .durable

theorem EnqueueV0.defaults {a : EnqueueV0} {c : EventContent} (h : a.draft.content = .ok c) : DefaultColumns c := by
  obtain ⟨protocolVersion, traceContext, deadlineAt, text, supplied, priority⟩ := EventDraft.extension h
  cases supplied
  exact ⟨protocolVersion, traceContext, deadlineAt, (Option.some.inj priority).symm⟩

/-- Every stored event is a V1 event or has the defaults. -/
def Versioned (db : Db) : Prop :=
  ∀ event ∈ db.outboxEvents, event.envelope.content.protocolVersion = 0 → DefaultColumns event.envelope.content

theorem EnqueueCall.versioned_row {c : EnqueueCall} {row : OutboxEvent} (accepted : c.draft.row c.now = .ok row)
    (zero : row.envelope.content.protocolVersion = 0) : DefaultColumns row.envelope.content := by
  have content := (EventDraft.fresh_row accepted).content
  cases c with
  | v0 a now => exact EnqueueV0.defaults content
  | v1 a now =>
    have one := (EventDraft.extension content).protocolVersion
    rw [zero] at one
    cases one

theorem Versioned.step {db : Db} (versioned : Versioned db) (c : EnqueueCall) : Versioned (c.call.step db) := by
  unfold Call.step
  rcases accepted : c.draft.row c.now with e | row
  · rw [EnqueueCall.exec_refused accepted]
    exact versioned
  rcases found : db.outboxEvents.get? row.eventId with _ | stored
  · rw [EnqueueCall.exec_absent accepted found]
    intro event mem zero
    rcases (Table.mem_insert found).1 mem with old | rfl
    · exact versioned event old zero
    · exact EnqueueCall.versioned_row accepted zero
  · rw [EnqueueCall.exec_present accepted found]
    split
    next db' ran =>
      split at ran
      · cases ran
        exact versioned
      · cases ran
    next => exact versioned

theorem enqueued_versioned (calls : List EnqueueCall) : Versioned (enqueued calls) := by
  refine runCalls_invariant Table.forall_empty fun _ versioned call listed => ?_
  obtain ⟨c, _, rfl⟩ := List.mem_map.1 listed
  exact versioned.step c

/-! ## Repeated calls -/

theorem sameDurableContentV1_iff {stored row : OutboxEvent} :
    sameDurableContentV1 stored row = true ↔ stored.durable = row.durable := by
  simp [sameDurableContentV1, OutboxEvent.durable]

theorem sameDurableContentV0_of_eq {stored row : OutboxEvent} (same : stored.envelope.content = row.envelope.content) :
    sameDurableContentV0 stored row = true := by
  simp [sameDurableContentV0, isNotDistinctFrom, same]

/-- Where both events have the defaults, the columns that V0 compares are all columns but `max_attempts`. -/
theorem content_eq_of_sameV0 {stored row : OutboxEvent} (same : sameDurableContentV0 stored row = true)
    (defaults : DefaultColumns stored.envelope.content) (defaults' : DefaultColumns row.envelope.content) :
    stored.envelope.content = row.envelope.content := by
  obtain ⟨protocol, trace, deadline, priority⟩ := defaults
  obtain ⟨protocol', trace', deadline', priority'⟩ := defaults'
  simp only [sameDurableContentV0, isNotDistinctFrom, Bool.and_eq_true, beq_iff_eq, decide_eq_true_eq] at same
  generalize stored.envelope.content = a at *
  generalize row.envelope.content = b at *
  cases a
  cases b
  simp_all

section Repeated

variable {db : Db} {stored row : OutboxEvent} {c : EnqueueCall}

/-- A refused call says nothing about the stored event. -/
theorem repeats_of_refused {e : SqlError} (refused : c.draft.row c.now = .error e)
    (present : db.outboxEvents.get? stored.eventId = some stored) : Repeats db stored c where
  succeeds := by
    rw [EnqueueCall.exec_refused refused, EnqueueCall.inserted_refused refused]
    simp
  unchanged := by
    unfold Call.step
    rw [EnqueueCall.exec_refused refused]
    exact present

/-- An accepted call keeps the stored event, so all depends on what it compares. -/
theorem repeats_iff_of_accepted (accepted : c.draft.row c.now = .ok row) (names : row.eventId = stored.eventId)
    (present : db.outboxEvents.get? stored.eventId = some stored) :
    Repeats db stored c ↔ (c.same stored row = true ↔ stored.durable = row.durable) := by
  have ran := EnqueueCall.exec_present accepted (names ▸ present)
  have inserted := EnqueueCall.inserted_accepted accepted
  rw [names] at inserted
  have unchanged : (c.call.step db).outboxEvents.get? stored.eventId = some stored := by
    unfold Call.step
    rw [ran]
    split
    next later answer =>
      split at answer
      · cases answer
        exact present
      · cases answer
    next => exact present
  have succeeds : (∃ answer, c.call.exec db = .ok answer) ↔ c.same stored row = true := by
    rw [ran]
    split
    next same => exact iff_of_true ⟨_, rfl⟩ same
    next differs => simp [differs]
  have equal : (∃ row, c.inserted stored.eventId = some row ∧ stored.durable = row.durable) ↔
      stored.durable = row.durable := by
    simp [inserted]
  refine ⟨fun repeats => succeeds.symm.trans (repeats.succeeds.trans equal), fun compares => ?_⟩
  exact ⟨succeeds.trans (compares.trans equal.symm), unchanged⟩

end Repeated

/-- **Repeated enqueues.** A call on a stored event id succeeds exactly for the columns that are stored, and changes
nothing, if it compares all columns or the others agree. -/
theorem enqueue_repeats_iff (calls : List EnqueueCall) (c : EnqueueCall) {stored : OutboxEvent}
    (present : stored ∈ (enqueued calls).outboxEvents) (names : c.draft.eventId = some stored.eventId) :
    Repeats (enqueued calls) stored c ↔ c.Compares stored := by
  have found := Table.get?_self present
  rcases accepted : c.draft.row c.now with e | row
  · refine iff_of_true (repeats_of_refused accepted found) ?_
    cases c with
    | v0 a now => exact fun row again => nomatch again.symm.trans accepted
    | v1 => trivial
  have fresh := EventDraft.fresh_row accepted
  have same : row.eventId = stored.eventId := Option.some.inj (fresh.eventId.symm.trans names)
  rw [repeats_iff_of_accepted accepted same found]
  cases c with
  | v1 a now => exact iff_of_true sameDurableContentV1_iff trivial
  | v0 a now =>
    have defaults := EnqueueV0.defaults fresh.content
    refine ⟨fun compares row' again agrees => ?_, fun compares => ⟨fun agrees => ?_, fun equal => ?_⟩⟩
    · cases again.symm.trans accepted
      have equal := compares.1 agrees
      exact ⟨(congrArg (fun columns => columns.1.protocolVersion) equal).trans defaults.protocolVersion,
        congrArg Prod.snd equal⟩
    · obtain ⟨zero, attempts⟩ := compares row accepted agrees
      have content := content_eq_of_sameV0 agrees (enqueued_versioned calls stored present zero) defaults
      exact Prod.ext content attempts
    · exact sameDurableContentV0_of_eq (congrArg Prod.fst equal)

/-- Enqueue event 1 by V0. -/
def sampleEnqueueV0 (maxAttempts : Int) : EnqueueCall :=
  .v0
    { eventId := some (sampleUuid 1), schemaVersion := some 0, eventType := some "sample.event", eventVersion := some 0,
      occurredAt := some 0, producer := some "liqi-sample", correlationId := none, causationId := none,
      aggregateKey := some "sample", orderingKey := some "sample", payload := some .empty, metadata := none,
      maxAttempts := some maxAttempts } 0

/-- The event after one call, with the attempts that the call asked for. -/
theorem sample_stored : ∃ stored ∈ (enqueued [sampleEnqueueV0 3]).outboxEvents,
    stored.eventId = sampleUuid 1 ∧ stored.maxAttempts = 3 := by
  have attempts : ((enqueued [sampleEnqueueV0 3]).outboxEvents.get? (sampleUuid 1)).map OutboxEvent.maxAttempts =
      some 3 := by
    decide +kernel
  obtain ⟨stored, found, three⟩ := Option.map_eq_some_iff.1 attempts
  obtain ⟨mem, names⟩ := Table.get?_eq_some.1 found
  exact ⟨stored, mem, names, three⟩

theorem enqueue_repeats_first_event : ∃ stored ∈ (enqueued [sampleEnqueueV0 3]).outboxEvents,
    (sampleEnqueueV0 3).draft.eventId = some stored.eventId ∧
      (Repeats (enqueued [sampleEnqueueV0 3]) stored (sampleEnqueueV0 3) ↔ (sampleEnqueueV0 3).Compares stored) := by
  obtain ⟨stored, mem, names, -⟩ := sample_stored
  have asked : (sampleEnqueueV0 3).draft.eventId = some stored.eventId := by rw [names]; rfl
  exact ⟨stored, mem, asked, enqueue_repeats_iff _ _ mem asked⟩

/-- A V0 call that asks for five attempts succeeds on an event that was enqueued with three. -/
theorem other_attempts_accepted : ∃ stored ∈ (enqueued [sampleEnqueueV0 3]).outboxEvents,
    (sampleEnqueueV0 5).draft.eventId = some stored.eventId ∧
      ¬ Repeats (enqueued [sampleEnqueueV0 3]) stored (sampleEnqueueV0 5) := by
  obtain ⟨stored, mem, names, three⟩ := sample_stored
  refine ⟨stored, mem, by rw [names]; rfl, fun repeats => ?_⟩
  have answers : ((sampleEnqueueV0 5).call.exec (enqueued [sampleEnqueueV0 3])).toOption.isSome = true := by
    decide +kernel
  have five : ((sampleEnqueueV0 5).inserted (sampleUuid 1)).map OutboxEvent.maxAttempts = some 5 := by decide +kernel
  have answered : ∃ answer, (sampleEnqueueV0 5).call.exec (enqueued [sampleEnqueueV0 3]) = .ok answer := by
    rcases ran : (sampleEnqueueV0 5).call.exec (enqueued [sampleEnqueueV0 3]) with e | answer
    · rw [ran] at answers
      cases answers
    · exact ⟨answer, rfl⟩
  obtain ⟨row, inserted, same⟩ := repeats.succeeds.1 answered
  rw [names] at inserted
  rw [inserted] at five
  have attempts : stored.maxAttempts = row.maxAttempts := congrArg Prod.snd same
  have asked : row.maxAttempts = 5 := Option.some.inj five
  omega

end Liqi.Database
