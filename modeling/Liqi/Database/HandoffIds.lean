import Liqi.Database.HandoffRetention

/-!
# The ids of an event

A publication looks for the row of its event and takes a new id if there is none. Retention deletes rows, and with them
the only trace of an earlier publication: an event that is published again after its row was deleted gets a second id.
In the runs of publications and prunes where this does not happen every event has one id.
-/

namespace Liqi.Database

open Postgres

/-- A call of `publish_realtime_handoff_v1` or `prune_realtime_handoff_v1`. -/
inductive HandoffCall where
  | publish (now : Timestamp) (eventId : Option Uuid)
  | prune (recordedBefore : Option Timestamp) (batch : Option Int) (skipped : Nat → Bool)

def HandoffCall.call : HandoffCall → Call
  | .publish now eventId => .publish .v1 now eventId
  | .prune recordedBefore batch skipped => .pruneHandoff recordedBefore batch skipped

/-- The outbox events are stored and none of them is published. -/
def unpublished (events : Table OutboxEvent.eventId) : Db := { Db.migrated with outboxEvents := events }

/-- The database after the calls. -/
def afterCalls (events : Table OutboxEvent.eventId) (calls : List HandoffCall) : Db :=
  calls.foldl (fun db call => call.call.step db) (unpublished events)

/-- A publication of the run answered that the event has the id. -/
def Assigned (events : Table OutboxEvent.eventId) (calls : List HandoffCall) (eventId : Uuid) (id : Nat) : Prop :=
  ∃ before now rest db, calls = before ++ .publish now (some eventId) :: rest ∧
    (publishRealtimeHandoffV1 now (some eventId)).run (afterCalls events before) = .ok (id, db)

/-- The log held the row at some point of the run. -/
def Shown (events : Table OutboxEvent.eventId) (calls : List HandoffCall) (row : HandoffEvent) : Prop :=
  ∃ earlier, earlier <+: calls ∧ row ∈ (afterCalls events earlier).handoffV1.events

/-- No event is assigned two ids, and the log never shows it under two ids. -/
structure OneHandoffId (events : Table OutboxEvent.eventId) (calls : List HandoffCall) : Prop where
  assigned : ∀ eventId id other, Assigned events calls eventId id → Assigned events calls eventId other → id = other
  shown : ∀ row other, Shown events calls row → Shown events calls other → row.eventId = other.eventId →
    row.handoffId = other.handoffId

/-- The event had a row in the log before, has none now, and there are ids left. -/
def Forgotten (events : Table OutboxEvent.eventId) (before : List HandoffCall) (eventId : Uuid) : Prop :=
  (∃ row, Shown events before row ∧ row.eventId = eventId) ∧
    (∀ row ∈ (afterCalls events before).handoffV1.events, row.eventId ≠ eventId) ∧
    (afterCalls events before).handoffV1.lastHandoffId < bigintMax

variable {events : Table OutboxEvent.eventId} {calls before : List HandoffCall} {eventId : Uuid}

theorem afterCalls_concat (calls : List HandoffCall) (call : HandoffCall) :
    afterCalls events (calls ++ [call]) = call.call.step (afterCalls events calls) := by
  simp [afterCalls, List.foldl_append]

theorem afterCalls_retained (calls : List HandoffCall) : LogsRetained (afterCalls events calls) := by
  refine List.foldlRecOn (motive := LogsRetained) calls _ (fun version => ?_) fun _ inv call _ =>
    inv.step (Call.logStep _ call.call)
  cases version <;> exact Retains.empty

/-! ## A publication -/

/-- Without a row of the event the answer depends on the event and on the counter. -/
theorem publish_missing {db : Db} (inv : LogsRetained db) (missing : db.handoffV1.find eventId = none) (now : Timestamp)
    (id : Nat) (db' : Db) :
    (publishRealtimeHandoffV1 now (some eventId)).run db = .ok (id, db') ↔
      ∃ event, db.outboxEvents.get? eventId = some event ∧ Version.supportsV1 event = .ok true ∧
        db.handoffV1.lastHandoffId < bigintMax ∧ id = db.handoffV1.lastHandoffId + 1 ∧
        db' = db.setHandoff .v1 (db.handoffV1.append
          ⟨db.handoffV1.lastHandoffId + 1, eventId, event.envelope, now⟩) := by
  have absent : (db.handoff .v1).find eventId = none := missing
  simp only [publishRealtimeHandoffV1, publishRealtimeHandoff, Program.run_lock, Program.run_query, absent,
    Version.requireSupported]
  rcases stored : db.outboxEvents.get? eventId with _ | event
  · simp
  rcases supported : Version.supportsV1 event with error | _ | _
  · simp [supported]
  · simp [supported]
  simp only [Option.map_some, supported, nextHandoffId, Program.run]
  by_cases left : (db.handoff .v1).lastHandoffId + 1 ≤ bigintMax
  · have free : HandoffLog.violation { db.handoff .v1 with lastHandoffId := (db.handoff .v1).lastHandoffId + 1 }
        ⟨(db.handoff .v1).lastHandoffId + 1, eventId, event.envelope, now⟩ = none :=
      violation_eq_none.2 ⟨(inv .v1).get?_next, missing⟩
    simp only [if_pos left, Store.applyAll_cons, Store.applyAll_nil, insertHandoff, Program.run_insert, Store.apply, Write.apply,
      Db.outboxEvents_setHandoff, Db.handoff_setHandoff_self, stored, free, Db.setHandoff_setHandoff, Program.run_ret,
      Except.ok.injEq, Prod.mk.injEq]
    constructor
    · rintro ⟨rfl, rfl⟩
      exact ⟨event, rfl, supported, left, rfl, rfl⟩
    · rintro ⟨_, same, _, _, rfl, rfl⟩
      cases same
      exact ⟨rfl, rfl⟩
  · rw [if_neg left]
    refine iff_of_false (by simp) ?_
    rintro ⟨_, _, _, fits, _⟩
    exact left fits

/-- What a call of the run does: nothing, a new row for an event without one, or deleted rows. -/
inductive HandoffStep (db : Db) (call : HandoffCall) : Db → Prop where
  | same : HandoffStep db call db
  | append (now : Timestamp) (event : OutboxEvent) (eventId : Uuid) (publishes : call = .publish now (some eventId))
      (stored : db.outboxEvents.get? eventId = some event) (supported : Version.supportsV1 event = .ok true)
      (missing : db.handoffV1.find eventId = none) (left : db.handoffV1.lastHandoffId < bigintMax) :
      HandoffStep db call (db.setHandoff .v1
        (db.handoffV1.append ⟨db.handoffV1.lastHandoffId + 1, eventId, event.envelope, now⟩))
  | delete (ids : List Nat) : HandoffStep db call (deleteHandoffs ids db)

theorem HandoffCall.step {db : Db} (inv : LogsRetained db) (call : HandoffCall) :
    HandoffStep db call (call.call.step db) := by
  unfold Call.step
  split
  next db' ran =>
    cases call with
    | publish now requested =>
      obtain ⟨id, published, -⟩ := reply_ok ran
      obtain ⟨eventId, rfl, outcome⟩ := publish_run published
      rcases found : db.handoffV1.find eventId with _ | row
      · obtain ⟨event, stored, supported, left, -, rfl⟩ := (publish_missing inv found now id db').1 published
        exact .append now event eventId rfl stored supported found left
      · cases outcome with
        | already => exact .same
        | appended _ missing => rw [show db.handoffV1.find eventId = none from missing] at found; cases found
    | prune recordedBefore batch skipped =>
      obtain ⟨_, pruned, -⟩ := reply_ok ran
      obtain ⟨cutoff, n, -, -, -, rfl⟩ := prune_cases pruned
      exact .delete _
  next => exact .same

theorem HandoffStep.outboxEvents {db db' : Db} {call : HandoffCall} (step : HandoffStep db call db') :
    db'.outboxEvents = db.outboxEvents := by
  cases step with
  | same => rfl
  | append => rfl
  | delete => rfl

theorem HandoffStep.lastHandoffId {db db' : Db} {call : HandoffCall} (step : HandoffStep db call db') :
    db.handoffV1.lastHandoffId ≤ db'.handoffV1.lastHandoffId := by
  cases step with
  | same => exact Nat.le_refl _
  | append => exact Nat.le_succ _
  | delete => exact Nat.le_refl _

theorem afterCalls_step (calls : List HandoffCall) (call : HandoffCall) :
    HandoffStep (afterCalls events calls) call (afterCalls events (calls ++ [call])) := by
  rw [afterCalls_concat]
  exact HandoffCall.step (afterCalls_retained calls) call

/-! ## Runs -/

theorem outboxEvents_afterCalls (calls : List HandoffCall) : (afterCalls events calls).outboxEvents = events := by
  induction calls using List.reverseRecOn with
  | nil => rfl
  | append_singleton calls call ih => exact (afterCalls_step calls call).outboxEvents.trans ih

/-- The counter only grows. -/
theorem lastHandoffId_mono {earlier later : List HandoffCall} (before : earlier <+: later) :
    (afterCalls events earlier).handoffV1.lastHandoffId ≤ (afterCalls events later).handoffV1.lastHandoffId := by
  obtain ⟨rest, rfl⟩ := before
  induction rest using List.reverseRecOn with
  | nil => rw [List.append_nil]
  | append_singleton rest call ih =>
    rw [← List.append_assoc]
    exact ih.trans (afterCalls_step _ call).lastHandoffId

/-- The rows after a call are older rows, or the row of an event that had none. -/
theorem mem_afterCalls_concat {call : HandoffCall} {row : HandoffEvent}
    (mem : row ∈ (afterCalls events (calls ++ [call])).handoffV1.events) :
    row ∈ (afterCalls events calls).handoffV1.events ∨
      ∃ now event, call = .publish now (some row.eventId) ∧
        events.get? row.eventId = some event ∧ Version.supportsV1 event = .ok true ∧
        (∀ other ∈ (afterCalls events calls).handoffV1.events, other.eventId ≠ row.eventId) ∧
        (afterCalls events calls).handoffV1.lastHandoffId < bigintMax := by
  have step : HandoffStep (afterCalls events calls) call (afterCalls events (calls ++ [call])) :=
    afterCalls_step calls call
  have unused := (@afterCalls_retained events calls .v1).get?_next
  have fixed := @outboxEvents_afterCalls events calls
  generalize afterCalls events (calls ++ [call]) = later at mem step
  cases step with
  | same => exact .inl mem
  | append now event eventId publishes stored supported missing left =>
    rcases (Table.mem_insert unused).1 mem with old | rfl
    · exact .inl old
    · rw [fixed] at stored
      exact .inr ⟨now, event, publishes, stored, supported, HandoffLog.find_eq_none.1 missing, left⟩
  | delete ids => exact .inl (Table.mem_delete.1 mem).1

/-- The event of a row is one that can be published. -/
theorem realtime_of_mem {row : HandoffEvent} (mem : row ∈ (afterCalls events calls).handoffV1.events) :
    ∃ event, events.get? row.eventId = some event ∧ Version.supportsV1 event = .ok true := by
  induction calls using List.reverseRecOn with
  | nil => exact absurd mem (Table.not_mem_empty row)
  | append_singleton calls call ih =>
    rcases mem_afterCalls_concat mem with old | ⟨_, event, _, stored, supported, _⟩
    · exact ih old
    · exact ⟨event, stored, supported⟩

/-- The database after a publication that answers. -/
theorem afterCalls_publish {now : Timestamp} {id : Nat} {db : Db}
    (ran : (publishRealtimeHandoffV1 now (some eventId)).run (afterCalls events before) = .ok (id, db)) :
    afterCalls events (before ++ [.publish now (some eventId)]) = db := by
  rw [afterCalls_concat]
  simp [HandoffCall.call, Call.step, Call.exec, ran, reply, Except.map]

/-- A publication leaves a row of its event under the id that it answers. -/
theorem shown_of_assigned {id : Nat} (assigned : Assigned events calls eventId id) :
    ∃ row, Shown events calls row ∧ row.eventId = eventId ∧ row.handoffId = id := by
  obtain ⟨before, now, rest, db, rfl, ran⟩ := assigned
  have reached : before ++ [.publish now (some eventId)] <+: before ++ .publish now (some eventId) :: rest :=
    ⟨rest, by simp⟩
  have after := afterCalls_publish ran
  rcases found : (afterCalls events before).handoffV1.find eventId with _ | row
  · have inv := @afterCalls_retained events before
    obtain ⟨event, stored, supported, left, rfl, rfl⟩ := (publish_missing inv found now id db).1 ran
    refine ⟨⟨_, eventId, event.envelope, now⟩, ⟨_, reached, ?_⟩, rfl, rfl⟩
    rw [after]
    exact (Table.mem_insert (inv .v1).get?_next).2 (.inr rfl)
  · obtain ⟨mem, same⟩ := HandoffLog.find_eq_some found
    obtain ⟨_, requested, outcome⟩ := publish_run ran
    cases requested
    cases outcome with
    | already again =>
      rw [show (afterCalls events before).handoffV1.find eventId = some _ from again] at found
      cases found
      exact ⟨row, ⟨before, List.prefix_append _ _, mem⟩, same, rfl⟩
    | appended _ missing =>
      rw [show (afterCalls events before).handoffV1.find eventId = none from missing] at found
      cases found

/-- An event whose row was deleted gets another id. -/
theorem two_ids_of_forgotten (forgotten : Forgotten events before eventId) (now : Timestamp) :
    ∃ row other, Shown events (before ++ [.publish now (some eventId)]) row ∧
      Shown events (before ++ [.publish now (some eventId)]) other ∧ row.eventId = other.eventId ∧
      row.handoffId < other.handoffId := by
  obtain ⟨⟨row, ⟨earlier, first, mem⟩, rfl⟩, missing, left⟩ := forgotten
  have inv := @afterCalls_retained events before
  obtain ⟨event, stored, supported⟩ := realtime_of_mem mem
  rw [← @outboxEvents_afterCalls events before] at stored
  have ran := (publish_missing inv (HandoffLog.find_eq_none.2 missing) now _ _).2
    ⟨event, stored, supported, left, rfl, rfl⟩
  refine ⟨row, ⟨(afterCalls events before).handoffV1.lastHandoffId + 1, row.eventId, event.envelope, now⟩,
    ⟨earlier, first.trans (List.prefix_append _ _), mem⟩, ⟨_, List.prefix_rfl, ?_⟩, rfl, ?_⟩
  · rw [afterCalls_publish ran]
    exact (Table.mem_insert (inv .v1).get?_next).2 (.inr rfl)
  · have below := ((afterCalls_retained earlier .v1).bounded row mem).2
    have grown := @lastHandoffId_mono events earlier before first
    exact Nat.lt_succ_of_le (below.trans grown)

/-- What a run shows was shown before its last call, or is the row that this call appended. -/
theorem shown_concat {call : HandoffCall} {row : HandoffEvent} (shown : Shown events (calls ++ [call]) row)
    (remembered : ∀ now eventId, call = .publish now (some eventId) → ¬ Forgotten events calls eventId) :
    Shown events calls row ∨ (row ∈ (afterCalls events (calls ++ [call])).handoffV1.events ∧
      ∀ other, Shown events calls other → other.eventId ≠ row.eventId) := by
  obtain ⟨earlier, first, mem⟩ := shown
  rcases List.prefix_concat_iff.1 first with rfl | first
  · rcases mem_afterCalls_concat mem with old | ⟨now, _, publishes, _, _, missing, left⟩
    · exact .inl ⟨calls, List.prefix_rfl, old⟩
    · exact .inr ⟨mem, fun other shown same => remembered now row.eventId publishes ⟨⟨other, shown, same⟩, missing, left⟩⟩
  · exact .inl ⟨earlier, first, mem⟩

theorem shown_of_remembered
    (remembered : ∀ before now eventId rest, calls = before ++ .publish now (some eventId) :: rest →
      ¬ Forgotten events before eventId) (row other : HandoffEvent) (shown : Shown events calls row)
    (shown' : Shown events calls other) (same : row.eventId = other.eventId) : row.handoffId = other.handoffId := by
  induction calls using List.reverseRecOn generalizing row other with
  | nil =>
    obtain ⟨earlier, first, mem⟩ := shown
    cases List.prefix_nil.1 first
    exact absurd mem (Table.not_mem_empty row)
  | append_singleton calls call ih =>
    have earlier := ih fun before now eventId rest split =>
      remembered before now eventId (rest ++ [call]) (by rw [split]; simp)
    have last : ∀ now eventId, call = .publish now (some eventId) → ¬ Forgotten events calls eventId := by
      rintro now eventId rfl
      exact remembered calls now eventId [] rfl
    rcases shown_concat shown last with old | ⟨mem, new⟩ <;> rcases shown_concat shown' last with old' | ⟨mem', new'⟩
    · exact earlier row other old old' same
    · exact absurd same (new' row old)
    · exact absurd same.symm (new other old')
    · rw [(afterCalls_retained _ .v1).single row mem other mem' same]

/-- **One event, one handoff id.** A run of publications and prunes gives no event a second id exactly if it publishes
no event again after its row was pruned. -/
theorem one_handoff_id_iff (events : Table OutboxEvent.eventId) (calls : List HandoffCall) :
    OneHandoffId events calls ↔
      ∀ before now eventId rest, calls = before ++ .publish now (some eventId) :: rest →
        ¬ Forgotten events before eventId := by
  constructor
  · rintro one before now eventId rest rfl forgotten
    obtain ⟨row, other, shown, shown', same, less⟩ := two_ids_of_forgotten forgotten now
    have longer : before ++ [.publish now (some eventId)] <+: before ++ .publish now (some eventId) :: rest :=
      ⟨rest, by simp⟩
    have equal := one.shown row other (shown.imp fun _ => And.imp_left fun first => first.trans longer)
      (shown'.imp fun _ => And.imp_left fun first => first.trans longer) same
    omega
  · intro remembered
    refine ⟨fun eventId id other assigned assigned' => ?_, shown_of_remembered remembered⟩
    obtain ⟨row, shown, rfl, rfl⟩ := shown_of_assigned assigned
    obtain ⟨row', shown', same, rfl⟩ := shown_of_assigned assigned'
    exact shown_of_remembered remembered row row' shown shown' same.symm

theorem assigned_of_answer (before : List HandoffCall) (now : Timestamp) (rest : List HandoffCall) {id : Nat}
    (answers : ((publishRealtimeHandoffV1 now (some eventId)).run (afterCalls events before)).toOption.map Prod.fst =
      some id) : Assigned events (before ++ .publish now (some eventId) :: rest) eventId id := by
  rcases ran : (publishRealtimeHandoffV1 now (some eventId)).run (afterCalls events before) with e | ⟨_, db⟩
  · rw [ran] at answers
    cases answers
  · rw [ran] at answers
    cases answers
    exact ⟨before, now, rest, db, rfl, ran⟩

/-- An event that is to be published, alone in the outbox. -/
def sampleEvents : Table OutboxEvent.eventId := (runCalls ((samplePublish 1 "sample").take 1)).outboxEvents

def samplePrune : List HandoffCall :=
  [.publish 0 (some (sampleUuid 1)), .prune (some 1) (some 500) fun _ => false]

/-- The event is published, its row is pruned, and the event is published again: it is event 1 and event 2 of the
log. -/
theorem republished_event_has_two_ids :
    ¬ OneHandoffId sampleEvents (samplePrune ++ [.publish 2 (some (sampleUuid 1))]) := by
  intro one
  have first : Assigned sampleEvents _ (sampleUuid 1) 1 := assigned_of_answer [] 0
    [.prune (some 1) (some 500) fun _ => false, .publish 2 (some (sampleUuid 1))] (by decide +kernel)
  have second : Assigned sampleEvents _ (sampleUuid 1) 2 := assigned_of_answer samplePrune 2 [] (by decide +kernel)
  exact absurd (one.assigned (sampleUuid 1) 1 2 first second) (by decide)

end Liqi.Database
