import Liqi.Database.WaitingEvents

/-!
# Settling a claimed event

A consumer settles an event that it holds with one call: it applies the event's effect, or reports the event as
failed. `Settlement` is such a call with all its arguments present, and `SettleStep` lists what it can do to a row.
-/

namespace Liqi.Database

open Postgres

/-- A call of `apply`, or of `fail` with the code and the time of the next try. -/
structure Settlement where
  version : Version
  now : Timestamp
  eventId : Uuid
  token : Uuid
  consumer : String
  failure : Option (String × Timestamp)

def Settlement.holder (s : Settlement) : Holder := ⟨some s.eventId, some s.token, some s.consumer⟩

def Settlement.call (s : Settlement) : Call :=
  match s.failure with
  | none => .apply s.version s.now s.holder
  | some (code, retryAt) => .fail s.version s.now s.holder (some code) (some retryAt)

/-- One row before and after the call. -/
inductive SettleStep (s : Settlement) (event : OutboxEvent) : OutboxEvent → Prop where
  | same : SettleStep s event event
  | succeeded (effective : s.failure = none) (identified : event.eventId = s.eventId) (running : ¬ event.Terminal)
      (supported : s.version.appliesTo event = true) : SettleStep s event (event.succeed s.now)
  | rejected {code : String} {retryAt : Timestamp} (failed : s.failure = some (code, retryAt))
      (identified : event.eventId = s.eventId) (running : ¬ event.Terminal) : SettleStep s event (event.reject code s.now)
  | rescheduled {code : String} {retryAt : Timestamp} (failed : s.failure = some (code, retryAt))
      (identified : event.eventId = s.eventId) (running : ¬ event.Terminal) :
      SettleStep s event (event.reschedule code s.now (some retryAt))

structure SettleRows (s : Settlement) (db db' : Db) : Prop where
  forward : ∀ event ∈ db.outboxEvents, ∃ event' ∈ db'.outboxEvents, SettleStep s event event'
  backward : ∀ event' ∈ db'.outboxEvents, ∃ event ∈ db.outboxEvents, SettleStep s event event'

section Settle

variable {s : Settlement} {db db' : Db} {event event' : OutboxEvent}

theorem SettleStep.envelope (step : SettleStep s event event') : event'.envelope = event.envelope := by
  cases step <;> rfl

/-- Only the event that the call names changes. -/
theorem SettleStep.eq_of_other (step : SettleStep s event event') (other : event.eventId ≠ s.eventId) : event' = event := by
  cases step with
  | same => rfl
  | succeeded _ identified | rejected _ identified | rescheduled _ identified => exact absurd identified other

theorem SettleStep.eq_of_terminal (step : SettleStep s event event') (done : event.Terminal) : event' = event := by
  cases step with
  | same => rfl
  | succeeded _ _ running | rejected _ _ running | rescheduled _ _ running => exact absurd done running

theorem SettleRows.of_same (same : db'.outboxEvents = db.outboxEvents) : SettleRows s db db' :=
  ⟨fun event stored => ⟨event, same ▸ stored, .same⟩, fun event stored => ⟨event, same ▸ stored, .same⟩⟩

theorem SettleRows.of_set (f : OutboxEvent → OutboxEvent) (hf : ∀ row, (f row).eventId = row.eventId)
    (stored : event ∈ db.outboxEvents)
    (events : db'.outboxEvents = db.outboxEvents.update (fun row => decide (row.eventId = event.eventId)) f hf)
    (changed : SettleStep s event (f event)) : SettleRows s db db' := by
  have step : ∀ row ∈ db.outboxEvents,
      SettleStep s row (if decide (row.eventId = event.eventId) then f row else row) := by
    intro row old
    split
    next same =>
      rw [Table.eq_of_key old stored (of_decide_eq_true same)]
      exact changed
    next => exact .same
  refine ⟨fun row old => ⟨_, ?_, step row old⟩, fun row' after => ?_⟩
  · rw [events]
    exact Table.mem_update.2 ⟨row, old, rfl⟩
  · rw [events] at after
    obtain ⟨row, old, rfl⟩ := Table.mem_update.1 after
    exact ⟨row, old, step row old⟩

theorem not_nullSlip {version : Version} {now : Timestamp} {eventId token : Uuid} {consumer : String} :
    ¬ NullSlip (.apply version now ⟨some eventId, some token, some consumer⟩) db := by
  rintro ⟨_, _, _, _, _, made, ⟨_, _, _, _, _, _, _, null⟩, _⟩
  cases made
  rcases null with null | null <;> cases null

theorem apply_settles {status : OutboxStatus} (effective : s.failure = none)
    (ran : applyProbeEffectAndAck s.version s.now (some s.eventId) (some s.token) (some s.consumer) db = .ok (status, db')) :
    SettleRows s db db' := by
  rcases apply_cases ran with ⟨rfl, _⟩ | ⟨event, t, c, lease, probeId, db₁, passed, acked⟩
  · exact .of_same rfl
  · rw [apply_acked passed not_nullSlip] at acked
    cases acked
    refine .of_set (OutboxEvent.succeed s.now) (OutboxEvent.succeed_eventId s.now) passed.stored ?_
      (.succeeded effective ?_ passed.leased.not_terminal passed.supported)
    · rw [← effect_outboxEvents passed.effect]
      rfl
    · exact (Option.some.inj passed.identified).symm

theorem fail_settles {status : OutboxStatus} {code : String} {retryAt : Timestamp} (failed : s.failure = some (code, retryAt))
    (ran : failOutboxV0 s.now (some s.eventId) (some s.token) (some s.consumer) (some code) (some retryAt) db
      = .ok (status, db')) : SettleRows s db db' := by
  rcases fail_cases ran with rfl | ⟨event, t, c, lease, code', stored, leased, identified, _, _, coded, rfl, _⟩
  · exact .of_same rfl
  · have known : code = code' := Option.some.inj (Option.filter_eq_some_iff.1 coded).1
    subst known
    have same : event.eventId = s.eventId := (Option.some.inj identified).symm
    unfold giveUp
    split
    · exact .of_set (OutboxEvent.reject _ _) (OutboxEvent.reject_eventId _ _) stored rfl
        (.rejected failed same leased.not_terminal)
    · exact .of_set (OutboxEvent.reschedule _ _ _) (OutboxEvent.reschedule_eventId _ _ _) stored rfl
        (.rescheduled failed same leased.not_terminal)

theorem Settlement.rows (s : Settlement) (db : Db) : SettleRows s db (s.call.step db) := by
  unfold Call.step
  rcases ran : s.call.exec db with e | ⟨r, db'⟩
  · exact .of_same rfl
  · unfold Settlement.call at ran
    rcases failed : s.failure with _ | ⟨code, retryAt⟩
    · rw [failed] at ran
      rw [exec_apply] at ran
      obtain ⟨_, inner, _⟩ := reply_ok ran
      exact apply_settles failed inner
    · rw [failed] at ran
      cases version : s.version with
      | v0 | v1 =>
        rw [version] at ran
        obtain ⟨_, inner, _⟩ := reply_ok ran
        exact fail_settles failed inner

theorem Settlement.enqueuesNoProbe (s : Settlement) : s.call.EnqueuesNoProbe := by
  unfold Settlement.call
  split <;> trivial

theorem Settlement.effects_kept {effect : ProbeEffect} (stored : effect ∈ db.probeEffects) :
    effect ∈ (s.call.step db).probeEffects := by
  unfold Call.step
  split
  next ran => exact Call.effects_kept s.enqueuesNoProbe ran stored
  next => exact stored

/-- A settlement after the horizon gives nobody another chance before it. -/
theorem Settlement.chances_le {horizon : Timestamp} (late : horizon < s.now) (eventId : Uuid) :
    (s.call.step db).chances horizon eventId ≤ db.chances horizon eventId := by
  refine Db.chances_le (fun event' stored => ?_) eventId
  obtain ⟨event, old, step⟩ := (s.rows db).backward event' stored
  cases step with
  | same => exact .inr ⟨event', old, rfl, le_rfl⟩
  | succeeded | rejected => exact .inl rfl
  | rescheduled => exact .inl (chances_of_late (lt_of_lt_of_le late (le_max_right _ _)))

/-- **Applying.** The holder of a probe's event stores the effect and acknowledges the event. -/
theorem Settlement.applies {lease : Timestamp} (linked : ProbesLinked db) (stored : event ∈ db.outboxEvents)
    (identified : s.eventId = event.eventId) (leased : event.LeasedTo s.token s.consumer lease)
    (supported : s.version.appliesTo event = true) :
    ∃ db', applyProbeEffectAndAck s.version s.now (some s.eventId) (some s.token) (some s.consumer) db = .ok (.acked, db')
      ∧ event.succeed s.now ∈ db'.outboxEvents ∧ ∃ effect ∈ db'.probeEffects, effect.eventId = event.eventId := by
  obtain ⟨state, known, names, requested⟩ := linked.events event stored s.version supported
  obtain ⟨db₁, inserted, effect, present, named⟩ : ∃ db₁,
      insertEffect ⟨event.eventId, state.probeId, s.now⟩ db = .ok db₁
        ∧ ∃ effect ∈ db₁.probeEffects, effect.eventId = event.eventId := by
    cases found : db.probeEffects.get? event.eventId with
    | none =>
      exact ⟨_, insertEffect_of_new linked known requested found s.now, _, (Table.mem_insert found).2 (.inr rfl), rfl⟩
    | some effect =>
      obtain ⟨present, named⟩ := Table.get?_eq_some.1 found
      exact ⟨db, by rw [insertEffect, if_pos (by rw [found]; rfl)], effect, present, named⟩
  have passed : Applied s.version s.now s.holder.eventId s.holder.token s.holder.consumer db event s.token s.consumer
      lease state.probeId db₁ :=
    ⟨stored, leased, congrArg some identified, .inr rfl, .inr rfl, supported, names, inserted⟩
  have applied := apply_of_guards passed
  rw [apply_acked passed not_nullSlip] at applied
  refine ⟨_, applied, mem_acknowledge ?_, effect, present, named⟩
  rw [effect_outboxEvents inserted]
  exact stored

end Settle

end Liqi.Database
