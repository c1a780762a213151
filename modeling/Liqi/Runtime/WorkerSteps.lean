import Liqi.Database.Settlements
import Liqi.Runtime.OutboxWorker

/-!
# What a poll does to an event

`ProcessStep` lists what the worker's call for one claimed event can do to a row, and `Stored` carries a property of
one probe event's row through a poll: over the claim, over each call, and over what others commit in between.
-/

namespace Liqi.Runtime

open Postgres Liqi.Database

/-! ## One claimed event -/

/-- The call that the worker makes for a claimed event. -/
def processCall (readings : ProcessReadings) (claimed : ClaimedEvent) : Call :=
  if claimed.envelope.content.eventType = "platform.probe.requested.v1" then
    .apply .v1 readings.database ⟨some claimed.eventId, some claimed.claimToken, some workerId⟩
  else
    .fail .v1 readings.database ⟨some claimed.eventId, some claimed.claimToken, some workerId⟩ (some "unsupported.event")
      (some (readings.utcNow + 5 * 1000000))

/-- The same call, as the settlement of a claimed event. -/
def processSettlement (readings : ProcessReadings) (claimed : ClaimedEvent) : Settlement where
  version := .v1
  now := readings.database
  eventId := claimed.eventId
  token := claimed.claimToken
  consumer := workerId
  failure :=
    if claimed.envelope.content.eventType = "platform.probe.requested.v1" then none
    else some ("unsupported.event", readings.utcNow + 5 * 1000000)

theorem processSettlement_call (readings : ProcessReadings) (claimed : ClaimedEvent) :
    (processSettlement readings claimed).call = processCall readings claimed := by
  unfold Settlement.call processSettlement processCall
  split_ifs <;> rfl

theorem query_step {call : Call} {result : Except SqlError (OutboxStatus × Db)} {db : Db}
    (made : call.exec db = reply .status result) : (query result db).2 = call.step db := by
  unfold Call.step
  rw [made]
  rcases result with e | ⟨status, db'⟩ <;> rfl

theorem process_step (readings : ProcessReadings) (claimed : ClaimedEvent) (db : Db) :
    (process readings claimed db).2 = (processSettlement readings claimed).call.step db := by
  rw [processSettlement_call]
  unfold process processCall
  split
  · exact query_step rfl
  · exact query_step rfl

/-- One row before and after the worker's call. -/
inductive ProcessStep (readings : ProcessReadings) (claimed : ClaimedEvent) (event : OutboxEvent) : OutboxEvent → Prop where
  | same : ProcessStep readings claimed event event
  | applied (identified : event.eventId = claimed.eventId) (running : ¬ event.Terminal)
      (v1 : Version.appliesTo .v1 event = true) : ProcessStep readings claimed event (event.succeed readings.database)
  | rejected (identified : event.eventId = claimed.eventId) (running : ¬ event.Terminal) :
      ProcessStep readings claimed event (event.reject "unsupported.event" readings.database)
  | rescheduled (identified : event.eventId = claimed.eventId) (running : ¬ event.Terminal) :
      ProcessStep readings claimed event
        (event.reschedule "unsupported.event" readings.database (some (readings.utcNow + 5 * 1000000)))

section Process

variable {readings : ProcessReadings} {claimed : ClaimedEvent} {db db' : Db} {event event' : OutboxEvent}

theorem SettleStep.processStep (step : SettleStep (processSettlement readings claimed) event event') :
    ProcessStep readings claimed event event' := by
  have failure {code : String} {retryAt : Timestamp}
      (failed : (processSettlement readings claimed).failure = some (code, retryAt)) :
      code = "unsupported.event" ∧ retryAt = readings.utcNow + 5 * 1000000 := by
    unfold processSettlement at failed
    split_ifs at failed
    cases failed
    exact ⟨rfl, rfl⟩
  cases step with
  | same => exact .same
  | succeeded _ identified running supported => exact .applied identified running supported
  | rejected failed identified running =>
    obtain ⟨rfl, _⟩ := failure failed
    exact .rejected identified running
  | rescheduled failed identified running =>
    obtain ⟨rfl, rfl⟩ := failure failed
    exact .rescheduled identified running

theorem process_linked (linked : ProbesLinked db) : ProbesLinked (process readings claimed db).2 := by
  rw [process_step]
  exact linked.step (processSettlement readings claimed).enqueuesNoProbe

theorem process_chances_le {horizon : Timestamp} (late : horizon < readings.database) (eventId : Uuid) :
    (process readings claimed db).2.chances horizon eventId ≤ db.chances horizon eventId := by
  rw [process_step]
  exact Settlement.chances_le late eventId

/-- The worker's call for an event of a V1 probe that it holds stores the effect and acknowledges the event. -/
theorem process_applies {lease : Timestamp} (linked : ProbesLinked db) (stored : event ∈ db.outboxEvents)
    (identified : claimed.eventId = event.eventId) (copied : claimed.envelope = event.envelope)
    (leased : event.LeasedTo claimed.claimToken workerId lease) (v1 : Version.appliesTo .v1 event = true) :
    event.succeed readings.database ∈ (process readings claimed db).2.outboxEvents
      ∧ ∃ effect ∈ (process readings claimed db).2.probeEffects, effect.eventId = event.eventId := by
  obtain ⟨db', applied, succeeded, effect⟩ :=
    Settlement.applies (s := processSettlement readings claimed) linked stored identified leased v1
  have typed : claimed.envelope.content.eventType = "platform.probe.requested.v1" := by
    simp only [Version.appliesTo, Bool.and_eq_true, beq_iff_eq] at v1
    rw [copied]
    exact v1.1.2
  have ran : (process readings claimed db).2 = db' := by
    rw [process, if_pos typed, applyProbeEffect, applyProbeEffectAndAckV1]
    exact congrArg (fun result => (query result db).2) applied
  rw [ran]
  exact ⟨succeeded, effect⟩

end Process

/-! ## A poll -/

/-- A probe event whose row has a property. -/
structure Stored (what : OutboxEvent → Prop) (db : Db) : Prop where
  linked : ProbesLinked db
  row : ∃ event ∈ db.outboxEvents, what event ∧ event.OfProbe

theorem OutboxEvent.OfProbe.of_envelope {event event' : OutboxEvent} (ofProbe : event.OfProbe)
    (same : event'.envelope = event.envelope) : event'.OfProbe := by
  obtain ⟨version, applies⟩ := ofProbe
  refine ⟨version, ?_⟩
  cases version <;> simpa only [Version.appliesTo, same] using applies

/-- What others do during a poll is no consumer's step. -/
def PollReadings.Aside (readings : PollReadings) : Prop :=
  ∀ eventId, ∀ step ∈ (readings.event eventId).others, step.Aside

/-- The clocks of a poll, and what others enqueue during it, are later than `t`. -/
structure PollReadings.After (t : Timestamp) (readings : PollReadings) : Prop where
  claim : t < readings.clock.lease
  process : ∀ eventId, t < (readings.event eventId).database
  others : ∀ eventId, ∀ step ∈ (readings.event eventId).others, step.After t

/-- The poll gets as far as its claim, which returns. -/
def PollReadings.Claims (readings : PollReadings) (db : Db) : Prop :=
  readings.permit = true ∧ ∃ result, claimOutboxV1 (readings.claim workerId 10) db = .ok result

section Poll

variable {what : OutboxEvent → Prop} {readings : PollReadings} {claimed : ClaimedEvent} {events : List ClaimedEvent}
  {db : Db}

/-- What others' steps and the worker's calls keep, the rest of a poll keeps. -/
theorem processAll_invariant {P : Db → Prop} {readings : Uuid → ProcessReadings}
    (aside : ∀ eventId, ∀ step ∈ (readings eventId).others, ∀ db, P db → P (step.after db))
    (processed : ∀ claimed ∈ events, ∀ db, P db → P (process (readings claimed.eventId) claimed db).2) (start : P db) :
    P (processAll readings events db).2 := by
  induction events generalizing db with
  | nil => exact start
  | cons claimed events ih =>
    have found : P ((readings claimed.eventId).others.foldl RetentionStep.after db) :=
      List.foldlRecOn _ _ start fun db holds step member => aside _ step member db holds
    exact ih (fun other member => processed other (List.mem_cons_of_mem _ member))
      (processed claimed List.mem_cons_self _ found)

theorem processAll_append (readings : Uuid → ProcessReadings) (first last : List ClaimedEvent) (db : Db) :
    (processAll readings (first ++ last) db).2 = (processAll readings last (processAll readings first db).2).2 := by
  induction first generalizing db with
  | nil => rfl
  | cons claimed first ih => exact ih _

theorem Stored.aside {step : RetentionStep} (stored : Stored what db) (aside : step.Aside) : Stored what (step.after db) := by
  obtain ⟨event, row, holds, ofProbe⟩ := stored.row
  exact ⟨stored.linked.after aside.probes, event, aside.row_kept stored.linked row ofProbe, holds, ofProbe⟩

theorem Stored.settle {s : Settlement} (stored : Stored what db)
    (keeps : ∀ event event', what event → SettleStep s event event' → what event') : Stored what (s.call.step db) := by
  obtain ⟨event, row, holds, ofProbe⟩ := stored.row
  obtain ⟨event', row', step⟩ := (s.rows db).forward event row
  exact ⟨stored.linked.step s.enqueuesNoProbe, event', row', keeps event event' holds step,
    OutboxEvent.OfProbe.of_envelope ofProbe step.envelope⟩

/-- The row of one event, when another one is settled. -/
theorem Stored.settle_other {s : Settlement} {row : OutboxEvent} (stored : Stored (· = row) db)
    (other : s.eventId ≠ row.eventId) : Stored (· = row) (s.call.step db) := by
  refine stored.settle fun before after same step => ?_
  subst same
  exact step.eq_of_other other.symm

theorem Stored.process {readings : ProcessReadings} (stored : Stored what db)
    (keeps : ∀ event event', what event → ProcessStep readings claimed event event' → what event') :
    Stored what (Runtime.process readings claimed db).2 := by
  rw [process_step]
  exact stored.settle fun event event' holds step => keeps event event' holds (SettleStep.processStep step)

theorem Stored.processAll (stored : Stored what db) (aside : readings.Aside)
    (keeps : ∀ claimed ∈ events, ∀ event event', what event →
      ProcessStep (readings.event claimed.eventId) claimed event event' → what event') :
    Stored what (Runtime.processAll readings.event events db).2 :=
  processAll_invariant (fun eventId step member _ held => held.aside (aside eventId step member))
    (fun claimed member _ held => held.process (keeps claimed member)) stored

theorem processAll_chances_le {horizon : Timestamp} (aside : readings.Aside) (late : readings.After horizon) (eventId : Uuid) :
    (processAll readings.event events db).2.chances horizon eventId ≤ db.chances horizon eventId := by
  refine processAll_invariant (P := fun db' => db'.chances horizon eventId ≤ db.chances horizon eventId) ?_ ?_ le_rfl
  · intro other step member db' fewer
    exact ((aside other step member).chances_le (late.others other step member) eventId).trans fewer
  · intro claimed _ db' fewer
    exact (process_chances_le (late.process claimed.eventId) eventId).trans fewer

/-- What a poll does to the database. -/
theorem doPoll_cases (readings : PollReadings) (state : WorkerState) (db : Db) :
    ((doPoll readings state db).2.2 = db ∧ ¬ readings.Claims db)
      ∨ ∃ claimed db₁ seconds, claimOutboxV1 (readings.claim workerId 10) db = .ok (claimed, db₁)
        ∧ Leased (readings.claim workerId 10) db claimed db₁ workerId seconds
        ∧ (doPoll readings state db).2.2 = (processAll readings.event claimed db₁).2 := by
  unfold doPoll
  split
  next permit =>
    rcases ran : claimOutboxV1 (readings.claim workerId 10) db with e | ⟨claimed, db₁⟩
    · left
      refine ⟨rfl, ?_⟩
      rintro ⟨_, result, returned⟩
      rw [ran] at returned
      cases returned
    · right
      obtain ⟨consumer, seconds, leased⟩ := claimV1_cases ran
      have valid : (readings.claim workerId 10).validate = .ok workerId := rfl
      have same : workerId = consumer := Except.ok.inj (valid.symm.trans leased.valid)
      exact ⟨claimed, db₁, seconds, rfl, same ▸ leased, rfl⟩
  next refused =>
    left
    exact ⟨rfl, fun claims => refused claims.1⟩

variable {c : Claim} {consumer : String} {seconds : Int}

theorem rowAfter_same {event : OutboxEvent} (unclaimed : event ∉ c.candidates db)
    (kept : event.exhausted c.clock.bury ≠ true) :
    c.rowAfter consumer seconds db event = event := by
  rw [Claim.rowAfter, if_neg unclaimed, if_neg kept]

variable {db₁ : Db}

/-- A claim returns no event twice. -/
theorem Leased.ids_nodup {claimed : List ClaimedEvent} (leased : Leased c db claimed db₁ consumer seconds) :
    (claimed.map ClaimedEvent.eventId).Nodup := by
  have ids : ((c.candidates db).map (c.returned seconds)).map ClaimedEvent.eventId
      = (c.candidates db).map OutboxEvent.eventId := List.map_map
  rw [(leased.claimed.map ClaimedEvent.eventId).nodup_iff, ids]
  have distinct : (c.candidates db).Nodup := Table.select_nodup
  exact distinct.map_on fun event first other last same =>
    Table.eq_of_key (mem_of_candidate first) (mem_of_candidate last) same

theorem claim_linked {claimed : List ClaimedEvent} (linked : ProbesLinked db)
    (ran : claimOutboxV1 c db = .ok (claimed, db₁)) : ProbesLinked db₁ := by
  have call : (Call.claim .v1 c).exec db = .ok (.claimed claimed, db₁) := by
    simp only [Call.exec, ran]
    rfl
  have quiet : (Call.claim .v1 c).EnqueuesNoProbe := trivial
  exact linked.exec quiet call

/-- A claim changes a probe's event as it changes its row. -/
theorem Stored.leased {claimed : List ClaimedEvent} {what' : OutboxEvent → Prop} (stored : Stored what db)
    (linked : ProbesLinked db₁) (leased : Leased c db claimed db₁ consumer seconds)
    (changes : ∀ event, what event → what' (c.rowAfter consumer seconds db event)) : Stored what' db₁ := by
  obtain ⟨event, row, holds, ofProbe⟩ := stored.row
  refine ⟨linked, _, leased.mem_iff.2 ⟨event, row, rfl⟩, changes event holds, OutboxEvent.OfProbe.of_envelope ofProbe ?_⟩
  unfold Claim.rowAfter
  split
  · rfl
  · split <;> rfl

theorem Stored.claim {claimed : List ClaimedEvent} {what' : OutboxEvent → Prop} (stored : Stored what db)
    (ran : claimOutboxV1 c db = .ok (claimed, db₁)) (leased : Leased c db claimed db₁ workerId seconds)
    (changes : ∀ event, what event → what' (c.rowAfter workerId seconds db event)) : Stored what' db₁ :=
  stored.leased (claim_linked stored.linked ran) leased changes

end Poll

end Liqi.Runtime
