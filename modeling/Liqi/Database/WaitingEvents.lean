import Liqi.Beam.Turns
import Liqi.Database.EventGraph
import Liqi.Database.ProbeEffects
import Mathlib.Data.Prod.Lex

/-!
# Events that wait for a consumer

What everybody but a consumer does while an event waits: a probe event keeps its row, stored effects stay, and no event
gets ahead in the queue. `Db.chances` counts how often an event can still be claimed before the events that become
available after a given time. It grows for no event as long as what is enqueued is available later than that.
-/

namespace Liqi.Database

open Filter Postgres

/-- The functions that a consumer calls. -/
def Call.consumes : Call → Bool
  | .claim .. => true
  | .ack .. => true
  | .fail .. => true
  | .apply .. => true
  | _ => false

/-- The clock that becomes `available_at` of an enqueued event. -/
def Call.enqueuedAt : Call → Option Timestamp
  | .enqueueV0 _ now => some now
  | .enqueueV1 _ now => some now
  | .requestV0 _ clock => some clock.enqueued
  | .requestV1 _ clock => some clock.enqueued
  | _ => none

def RetentionStep.EnqueuesNoProbe : RetentionStep → Prop
  | .call made => made.EnqueuesNoProbe
  | _ => True

/-- The step is not a consumer's, and only `request_probe` enqueues probe events. -/
structure RetentionStep.Aside (step : RetentionStep) : Prop where
  consumer : ∀ call, step = .call call → call.consumes = false
  probes : step.EnqueuesNoProbe

/-- What the step enqueues is available after `t`. -/
def RetentionStep.After (t : Timestamp) (step : RetentionStep) : Prop :=
  ∀ call now, step = .call call → call.enqueuedAt = some now → t < now

/-- The event is of a probe, of either generation. -/
def OutboxEvent.OfProbe (event : OutboxEvent) : Prop := ∃ version, Version.appliesTo version event = true

section Calls

variable {call : Call} {db db' : Db} {event event' : OutboxEvent}

theorem Call.consumes_of_holder {holder : Holder} (held : call.holder = some holder) : call.consumes = true := by
  cases call <;> first | rfl | cases held

theorem RowStep.eq_of_producer (step : RowStep call db event event') (producer : call.consumes = false) :
    event' = event := by
  have held : ¬ call.Settles db event.eventId := by
    rintro ⟨holder, _, _, held, _⟩
    rw [Call.consumes_of_holder held] at producer
    cases producer
  cases step with
  | same => rfl
  | buried made | leased made => exact absurd (made ▸ producer) (by simp [Call.consumes])
  | acked _ settled | rejected _ _ settled | rescheduled _ _ settled => exact absurd settled held

/-- The draft of an event that the call may enqueue. -/
def Call.Drafts : Call → EventDraft → Prop
  | .enqueueV0 a _, d => d = a.draft
  | .enqueueV1 a _, d => d = a.draft
  | .requestV0 a _, d => ∃ state, d = (a.event state).draft
  | .requestV1 a _, d => ∃ state, d = (a.event state).draft
  | _, _ => False

theorem ProbeRequested.of_new {version : Version} {now : Timestamp} {state : ProbeState} {row : OutboxEvent} {id : Nat}
    {db₁ db₂ db₃ : Db} (h : ProbeRequested version now state row id db db₁ db₂ db₃ db') (stored : event ∈ db'.outboxEvents)
    (new : db.outboxEvents.get? event.eventId = none) : event = row := by
  rw [h.after] at stored
  refine h.event.of_new (h.handoff.outboxEvents ▸ stored) ?_
  rwa [h.probe.outboxEvents]

/-- An event that a call adds is the row of its draft. -/
theorem Call.drafted_of_new {r : Reply} (ran : call.exec db = .ok (r, db')) (stored : event ∈ db'.outboxEvents)
    (new : db.outboxEvents.get? event.eventId = none) :
    ∃ d now, call.Drafts d ∧ call.enqueuedAt = some now ∧ d.row now = .ok event := by
  have producer : call.enqueues = true := by
    by_contra consumer
    exact (Call.rowSteps_exec ran).old (by simpa using consumer) stored new
  cases Call.done ran with
  | enqueuedV0 drafted enqueued | enqueuedV1 drafted enqueued =>
    exact ⟨_, _, rfl, rfl, enqueued.of_new stored new ▸ drafted⟩
  | requestedV0 h | created _ h => exact ⟨_, _, ⟨_, rfl⟩, rfl, h.request.of_new stored new ▸ h.drafted⟩
  | repeated => exact absurd (Table.get?_self stored) (by rw [new]; exact nofun)
  | _ => cases producer

/-- An event that a call adds is available from the call's clock on. -/
theorem Call.enqueuedAt_of_new {r : Reply} (ran : call.exec db = .ok (r, db')) (stored : event ∈ db'.outboxEvents)
    (new : db.outboxEvents.get? event.eventId = none) : call.enqueuedAt = some event.availableAt := by
  obtain ⟨d, now, _, enqueued, drafted⟩ := Call.drafted_of_new ran stored new
  rw [enqueued, (EventDraft.fresh_row drafted).availableAt]

/-- No call takes an effect away. -/
theorem Call.effects_kept {r : Reply} (only : call.EnqueuesNoProbe) (ran : call.exec db = .ok (r, db'))
    {effect : ProbeEffect} (stored : effect ∈ db.probeEffects) : effect ∈ db'.probeEffects := by
  cases Call.probeStep_exec only ran with
  | quiet tables => exact tables.2 ▸ stored
  | requested probe event _ _ _ effects =>
    rw [effects, event.outboxOnly.probeTables.2, probe.probeEffects]
    exact stored
  | @applied version now holder status made inner =>
    rcases apply_cases inner with ⟨rfl, _⟩ | ⟨_, _, _, _, probeId, db₁, passed, acked⟩
    · exact stored
    · rw [(ack_outboxOnly acked.symm).probeTables.2]
      rcases insertEffect_cases passed.effect with ⟨rfl, _⟩ | ⟨_, _, _, rfl⟩
      · exact stored
      · exact Table.mem_insert_of_mem stored

end Calls

/-! ## Steps of others -/

section Others

variable {step : RetentionStep} {db : Db} {event : OutboxEvent}

theorem ProbesLinked.after (linked : ProbesLinked db) (only : step.EnqueuesNoProbe) : ProbesLinked (step.after db) := by
  have change := graphStep step db
  generalize step.after db = after at change ⊢
  cases change with
  | raised => exact linked
  | called made ran =>
    subst made
    exact linked.exec only ran
  | commands keys => exact ⟨linked.events, linked.effects⟩
  | events unnamed => exact ⟨fun event stored => linked.events event (Table.mem_delete.1 stored).1, linked.effects⟩

theorem RetentionStep.effects_kept (only : step.EnqueuesNoProbe) {effect : ProbeEffect} (stored : effect ∈ db.probeEffects) :
    effect ∈ (step.after db).probeEffects := by
  have change := graphStep step db
  generalize step.after db = after at change ⊢
  cases change with
  | raised => exact stored
  | called made ran =>
    subst made
    exact Call.effects_kept only ran stored
  | commands | events => exact stored

/-- The row of a probe's event stays as it is; a prune spares it because its probe names it. -/
theorem RetentionStep.Aside.row_kept (aside : step.Aside) (linked : ProbesLinked db) (stored : event ∈ db.outboxEvents)
    (ofProbe : event.OfProbe) : event ∈ (step.after db).outboxEvents := by
  have change := graphStep step db
  generalize step.after db = after at change ⊢
  cases change with
  | raised => exact stored
  | called made ran =>
    obtain ⟨event', stays, row⟩ := (Call.rowSteps_exec ran).forward event stored
    rw [row.eq_of_producer (aside.consumer _ made)] at stays
    exact stays
  | commands keys => exact stored
  | events unnamed =>
    obtain ⟨version, applies⟩ := ofProbe
    obtain ⟨state, known, _, requested⟩ := linked.events event stored version applies
    have kept := (keepsProbes_dropEvents unnamed).events state known
    rw [requested, Table.get?_self stored] at kept
    exact (Table.get?_eq_some.1 kept).1

/-- Every row after the step was there before, or is new and available from the step's clock on. -/
theorem RetentionStep.Aside.rows (aside : step.Aside) {t : Timestamp} (late : step.After t)
    (stored : event ∈ (step.after db).outboxEvents) : event ∈ db.outboxEvents ∨ t < event.availableAt := by
  have change := graphStep step db
  generalize step.after db = after at change stored
  cases change with
  | raised => exact .inl stored
  | called made ran =>
    rcases (Call.rowSteps_exec ran).backward event stored with ⟨before, old, row⟩ | ⟨_, new, _⟩
    · rw [row.eq_of_producer (aside.consumer _ made)]
      exact .inl old
    · exact .inr (late _ _ made (Call.enqueuedAt_of_new ran stored new))
  | commands keys => exact .inl stored
  | events unnamed => exact .inl (Table.mem_delete.1 stored).1

end Others

/-! ## Every run -/

theorem bounded_step {db : Db} (step : RetentionStep) (bounded : ∀ event ∈ db.outboxEvents, Bounded event) :
    ∀ event ∈ (step.after db).outboxEvents, Bounded event := by
  intro event stored
  have change := graphStep step db
  generalize step.after db = after at change stored
  cases change with
  | raised => exact bounded event stored
  | called made ran =>
    rcases (Call.rowSteps_exec ran).backward event stored with ⟨before, old, row⟩ | ⟨fresh, _, _⟩
    · exact row.bounded (bounded before old)
    · have count := fresh.attemptCount
      have most := fresh.maxAttempts
      exact ⟨by omega, fun _ => by omega⟩
  | commands keys => exact bounded event stored
  | events unnamed => exact bounded event (Table.mem_delete.1 stored).1

theorem runSteps_bounded (steps : List RetentionStep) : ∀ event ∈ (runSteps steps).outboxEvents, Bounded event :=
  runSteps_invariant (P := fun db => ∀ event ∈ db.outboxEvents, Bounded event) Table.forall_empty
    fun _ bounded step _ => bounded_step step bounded

theorem runSteps_linked {steps : List RetentionStep} (only : ∀ step ∈ steps, step.EnqueuesNoProbe) :
    ProbesLinked (runSteps steps) :=
  runSteps_invariant ⟨Table.forall_empty, Table.forall_empty⟩ fun _ linked step listed => linked.after (only step listed)

/-! ## The queue -/

/-- How often the event can still be claimed before those that become available after the horizon. -/
def OutboxEvent.chances (horizon : Timestamp) (event : OutboxEvent) : Nat :=
  match event.state with
  | .succeeded _ => 0
  | .deadLetter _ => 0
  | _ => if event.availableAt ≤ horizon then event.maxAttempts - event.attemptCount else 0

def Db.chances (horizon : Timestamp) (db : Db) (eventId : Uuid) : Nat :=
  (db.outboxEvents.get? eventId).elim 0 (OutboxEvent.chances horizon)

section Chances

variable {horizon : Timestamp} {db db' : Db} {event : OutboxEvent}

theorem chances_of_late (late : horizon < event.availableAt) : event.chances horizon = 0 := by
  unfold OutboxEvent.chances
  split
  · rfl
  · rfl
  · rw [if_neg (not_le.2 late)]

theorem chances_of_claimable {now : Timestamp} (claimable : event.claimable now = true) (early : event.availableAt ≤ horizon) :
    event.chances horizon = event.maxAttempts - event.attemptCount := by
  have running := not_terminal_of_claimable claimable
  unfold OutboxEvent.Terminal at running
  unfold OutboxEvent.chances
  split
  next done => simp [done] at running
  next done => simp [done] at running
  next => rw [if_pos early]

theorem Db.chances_of_mem (stored : event ∈ db.outboxEvents) : db.chances horizon event.eventId = event.chances horizon := by
  rw [Db.chances, Table.get?_self stored, Option.elim_some]

/-- It is enough to compare rows. -/
theorem Db.chances_le (rows : ∀ event' ∈ db'.outboxEvents, event'.chances horizon = 0
      ∨ ∃ event ∈ db.outboxEvents, event.eventId = event'.eventId ∧ event'.chances horizon ≤ event.chances horizon)
    (eventId : Uuid) : db'.chances horizon eventId ≤ db.chances horizon eventId := by
  cases found : db'.outboxEvents.get? eventId with
  | none =>
    rw [Db.chances, found]
    exact Nat.zero_le _
  | some event' =>
    obtain ⟨stored, rfl⟩ := Table.get?_eq_some.1 found
    rw [Db.chances_of_mem stored]
    rcases rows event' stored with none | ⟨event, old, same, fewer⟩
    · omega
    · rw [← same, Db.chances_of_mem old]
      exact fewer

theorem RetentionStep.Aside.chances_le {step : RetentionStep} (aside : step.Aside) (late : step.After horizon)
    (eventId : Uuid) : (step.after db).chances horizon eventId ≤ db.chances horizon eventId := by
  refine Db.chances_le (fun event stored => ?_) eventId
  rcases aside.rows late stored with old | new
  · exact .inr ⟨event, old, rfl, le_rfl⟩
  · exact .inl (chances_of_late new)

end Chances

/-! ## Claims -/

section Claims

variable {horizon : Timestamp} {c : Claim} {db db' : Db} {claimed : List ClaimedEvent} {consumer : String} {seconds : Int}
  {event : OutboxEvent}

theorem chances_leased : (c.leased consumer seconds event).chances horizon
    = if event.availableAt ≤ horizon then event.maxAttempts - (event.attemptCount + 1) else 0 := rfl

theorem Leased.chances_le (leased : Leased c db claimed db' consumer seconds) (eventId : Uuid) :
    db'.chances horizon eventId ≤ db.chances horizon eventId := by
  refine Db.chances_le (fun event' stored => ?_) eventId
  obtain ⟨event, old, rfl⟩ := leased.mem_iff.1 stored
  unfold Claim.rowAfter
  split
  next candidate =>
    by_cases early : event.availableAt ≤ horizon
    · refine .inr ⟨event, old, rfl, ?_⟩
      rw [chances_of_claimable (candidate_of_mem candidate).2 early, chances_leased, if_pos early]
      omega
    · rw [chances_leased, if_neg early]
      exact .inl rfl
  next =>
    split
    · exact .inl rfl
    · exact .inr ⟨event, old, rfl, le_rfl⟩

/-- A claim uses up one of the chances of an event that it returns. -/
theorem Leased.chances_lt (leased : Leased c db claimed db' consumer seconds) (candidate : event ∈ c.candidates db)
    (early : event.availableAt ≤ horizon) : db'.chances horizon event.eventId < db.chances horizon event.eventId := by
  have row : c.leased consumer seconds event ∈ db'.outboxEvents :=
    leased.mem_iff.2 ⟨event, mem_of_candidate candidate, by rw [Claim.rowAfter, if_pos candidate]⟩
  have claimable := (candidate_of_mem candidate).2
  have left : event.attemptCount < event.maxAttempts := by
    simp only [OutboxEvent.claimable, Bool.and_eq_true, decide_eq_true_eq] at claimable
    exact claimable.2
  have after : db'.chances horizon event.eventId = event.maxAttempts - (event.attemptCount + 1) := by
    rw [← c.leased_eventId consumer seconds event, Db.chances_of_mem row, chances_leased, if_pos early]
  rw [after, Db.chances_of_mem (mem_of_candidate candidate), chances_of_claimable claimable early]
  omega

theorem claimBefore_iff {a b : OutboxEvent} : a.claimBefore b ↔
    toLex (a.availableAt, toLex (a.envelope.content.occurredAt, a.eventId))
      ≤ toLex (b.availableAt, toLex (b.envelope.content.occurredAt, b.eventId)) := by
  simp only [OutboxEvent.claimBefore, Prod.Lex.toLex_le_toLex]

instance : Std.Total OutboxEvent.claimBefore :=
  ⟨fun a b => by rw [claimBefore_iff, claimBefore_iff]; exact le_total _ _⟩

instance : IsTrans OutboxEvent OutboxEvent.claimBefore :=
  ⟨fun a b c => by rw [claimBefore_iff, claimBefore_iff, claimBefore_iff]; exact le_trans⟩

/-- If an event that could be claimed is not, others are, that were available no later. -/
theorem candidates_before {n : Int} (batch : c.batchSize = some n) (positive : 0 < n) (stored : event ∈ db.outboxEvents)
    (claimable : event.claimable c.clock.lease = true) (seen : c.skipped event.eventId = false)
    (passed : event ∉ c.candidates db) : ∃ other ∈ c.candidates db, other.availableAt ≤ event.availableAt := by
  have swept : event ∈ (c.swept db).outboxEvents := by
    rw [swept_outboxEvents]
    exact Table.mem_update.2 ⟨event, stored, by simp [claimable_not_exhausted claimable]⟩
  have selected : (c.candidates db) = (c.swept db).outboxEvents.select
      (fun event => event.claimable c.clock.lease && !c.skipped event.eventId) OutboxEvent.claimBefore (some n.toNat) := by
    unfold Claim.candidates claimCandidates
    rw [batch, Option.map_some]
  rw [selected] at passed ⊢
  obtain ⟨some, before⟩ := Table.select_before (by omega) swept (by simp [claimable, seen]) passed
  obtain ⟨other, candidate⟩ := List.exists_mem_of_ne_nil _ some
  refine ⟨other, candidate, ?_⟩
  rcases before other candidate with earlier | ⟨same, _⟩
  · exact le_of_lt earlier
  · exact le_of_eq same

end Claims

/-! ## Progress -/

/-- **Progress.** A step serves who waits, or lets them wait on. From some time on nobody gains chances before the
horizon, and every turn serves or takes a chance away; so who waits is served. -/
theorem serves_of_chances (states : Nat → Db) (horizon : Timestamp) (served waits : Db → Prop) {turn late : Nat → Prop}
    (start : waits (states 0)) (stays : ∀ n, served (states n) → served (states (n + 1)))
    (turns : ∃ᶠ n in atTop, turn n) (advances : ∀ᶠ n in atTop, late n)
    (keeps : ∀ n, late n → ∀ eventId, (states (n + 1)).chances horizon eventId ≤ (states n).chances horizon eventId)
    (steps : ∀ n, waits (states n) → served (states (n + 1)) ∨ waits (states (n + 1)) ∧ (turn n → late n →
      ∃ eventId, (states (n + 1)).chances horizon eventId < (states n).chances horizon eventId)) :
    (∀ n, served (states n) ∨ waits (states n)) ∧ ∀ᶠ n in atTop, served (states n) := by
  have always : ∀ n, served (states n) ∨ waits (states n) := by
    intro n
    induction n with
    | zero => exact .inr start
    | succ n ih => exact ih.elim (fun done => .inl (stays n done)) fun waiting => (steps n waiting).imp_right And.left
  refine ⟨always, ?_⟩
  obtain ⟨since, late⟩ := eventually_atTop.1 advances
  -- only the events that are stored by then have chances at all
  let others := ((states since).outboxEvents.rows.map OutboxEvent.eventId).toFinset
  have nobody_else : ∀ eventId, eventId ∉ others → (states since).chances horizon eventId = 0 := by
    intro eventId outside
    have none : (states since).outboxEvents.get? eventId = none := by
      refine Table.get?_eq_none.2 fun row present same => outside ?_
      exact List.mem_toFinset.2 (List.mem_map.2 ⟨row, present, same⟩)
    rw [Db.chances, none, Option.elim_none]
  have reached : ∃ n, since ≤ n ∧ served (states n) :=
    Beam.served_of_counts (fun n => (states n).chances horizon) others nobody_else turns
      (fun n after => keeps n (late n after)) fun n after turn => (always n).elim (fun done => .inl (stays n done))
        fun waiting => (steps n waiting).imp_right fun next => next.2 turn (late n after)
  obtain ⟨n, _, done⟩ := reached
  exact eventually_atTop.2 ⟨n, fun m later => Nat.le_induction done (fun m _ ih => stays m ih) m later⟩

end Liqi.Database
