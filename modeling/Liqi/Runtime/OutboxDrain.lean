import Liqi.Runtime.WorkerSteps
import Mathlib.Data.Set.Finite.List
import Mathlib.Order.Filter.Finite

/-!
# Draining the outbox

The worker applies the events of V1 probes and reports every other event as failed, those of V0 probes among them. In
a run of polls in which the worker is the only consumer, a pending event of a V1 probe is acknowledged with its effect,
because whoever is claimed before it uses up an attempt; a pending event of a V0 probe never is. So the worker drains
the probe events exactly if none of them is of a V0 probe: `worker_drains_iff`.
-/

namespace Liqi.Runtime

open Filter Postgres Beam Liqi.Database

/-- The event has succeeded, its effect is stored and its probe is completed. -/
structure Drained (db : Db) (eventId : Uuid) : Prop where
  succeeded : ∃ event ∈ db.outboxEvents, event.eventId = eventId ∧ event.Succeeded
  applied : ∃ effect ∈ db.probeEffects, effect.eventId = eventId
    ∧ ∃ state ∈ db.probeState, state.probeId = effect.probeId ∧ state.Completed

def DeadLettered (db : Db) (eventId : Uuid) : Prop :=
  ∃ event ∈ db.outboxEvents, event.eventId = eventId ∧ ∃ now, event.state = .deadLetter now

/-- A pending event of a probe, of either generation. -/
structure PendingProbe (db : Db) (event : OutboxEvent) : Prop where
  stored : event ∈ db.outboxEvents
  pending : event.state = .pending
  ofProbe : event.OfProbe

/-! ## Runs -/

def WorkerStep.Aside : WorkerStep → Prop
  | .poll readings => readings.Aside
  | .other step => step.Aside

def WorkerStep.After (t : Timestamp) : WorkerStep → Prop
  | .poll readings => readings.After t
  | .other step => step.After t

/-- A run in which the worker is the only consumer: time advances, and for every event there is always another poll
whose claim returns and does not find the event locked. -/
structure Attended (start : Deployment) (run : Nat → WorkerStep) : Prop where
  aside : ∀ n, (run n).Aside
  advances : ∀ t, ∀ᶠ n in atTop, (run n).After t
  polled : ∀ eventId, ∃ᶠ n in atTop, ∃ readings, run n = .poll readings ∧ readings.skipped eventId = false
    ∧ readings.Claims (stateAt start run n).db

/-! ## An acknowledged event -/

/-- The event is acknowledged and its effect stored. -/
structure Served (eventId : Uuid) (db : Db) : Prop where
  event : Stored (fun event => event.eventId = eventId ∧ event.Succeeded) db
  effect : ∃ effect ∈ db.probeEffects, effect.eventId = eventId

section Served

variable {eventId : Uuid} {db : Db} {readings : PollReadings} {events : List ClaimedEvent}

theorem Served.drained (served : Served eventId db) : Drained db eventId := by
  obtain ⟨event, stored, done, _⟩ := served.event.row
  obtain ⟨effect, present, named⟩ := served.effect
  obtain ⟨state, known, probe, _, completed⟩ := served.event.linked.effects effect present
  exact ⟨⟨event, stored, done⟩, effect, present, named, state, known, probe, completed⟩

theorem Served.not_deadLettered (served : Served eventId db) : ¬ DeadLettered db eventId := by
  rintro ⟨row, present, same, now, dead⟩
  obtain ⟨done, present', ⟨same', _, succeeded⟩, _⟩ := served.event.row
  rw [Table.eq_of_key present present' (same.trans same'.symm), succeeded] at dead
  cases dead

theorem Stored.not_deadLettered {event : OutboxEvent} (stored : Stored (· = event) db) (pending : event.state = .pending) :
    ¬ DeadLettered db event.eventId := by
  rintro ⟨row, present, same, now, dead⟩
  obtain ⟨_, present', rfl, _⟩ := stored.row
  rw [Table.eq_of_key present present' same, pending] at dead
  cases dead

theorem Served.aside {step : RetentionStep} (served : Served eventId db) (aside : step.Aside) :
    Served eventId (step.after db) := by
  obtain ⟨effect, present, named⟩ := served.effect
  exact ⟨served.event.aside aside, effect, RetentionStep.effects_kept aside.probes present, named⟩

theorem Served.settle (served : Served eventId db) (s : Settlement) : Served eventId (s.call.step db) := by
  obtain ⟨effect, present, named⟩ := served.effect
  refine ⟨served.event.settle ?_, effect, Settlement.effects_kept present, named⟩
  rintro event event' ⟨same, done⟩ step
  rw [step.eq_of_terminal done.terminal]
  exact ⟨same, done⟩

theorem Served.process {readings : ProcessReadings} {claimed : ClaimedEvent} (served : Served eventId db) :
    Served eventId (Runtime.process readings claimed db).2 := by
  rw [process_step]
  exact served.settle _

theorem Served.processAll (served : Served eventId db) (aside : readings.Aside) :
    Served eventId (Runtime.processAll readings.event events db).2 :=
  processAll_invariant (fun other step member _ held => held.aside (aside other step member))
    (fun _ _ _ held => held.process) served

theorem Served.leased {c : Claim} {claimed : List ClaimedEvent} {db₁ : Db} {consumer : String} {seconds : Int}
    (served : Served eventId db) (linked : ProbesLinked db₁) (leased : Leased c db claimed db₁ consumer seconds) :
    Served eventId db₁ := by
  refine ⟨served.event.leased linked leased ?_, ?_⟩
  · rintro event ⟨same, done⟩
    have unclaimed : event ∉ c.candidates db := fun candidate =>
      not_terminal_of_claimable (candidate_of_mem candidate).2 done.terminal
    rw [rowAfter_same unclaimed fun exhausted => not_terminal_of_exhausted exhausted done.terminal]
    exact ⟨same, done⟩
  · rw [leased.outboxOnly.probeTables.2]
    exact served.effect

theorem Served.poll (served : Served eventId db) (aside : readings.Aside) (state : WorkerState) :
    Served eventId (doPoll readings state db).2.2 := by
  rcases doPoll_cases readings state db with ⟨same, _⟩ | ⟨claimed, db₁, seconds, ran, leased, after⟩
  · rw [same]
    exact served
  · rw [after]
    exact (served.leased (claim_linked served.event.linked ran) leased).processAll aside

end Served

/-! ## A waiting event of a V1 probe -/

/-- A pending event of a V1 probe, with an attempt left. -/
structure Waiting (event : OutboxEvent) : Prop where
  pending : event.state = .pending
  left : event.attemptCount < event.maxAttempts
  v1 : Version.appliesTo .v1 event = true

section Waiting

variable {event : OutboxEvent} {db db₁ : Db} {readings : PollReadings} {claimed : List ClaimedEvent} {seconds : Int}

theorem not_exhausted_of_left (left : event.attemptCount < event.maxAttempts) (now : Timestamp) :
    event.exhausted now ≠ true := by
  simp only [OutboxEvent.exhausted, ne_eq, Bool.and_eq_true, decide_eq_true_eq, not_and]
  omega

theorem claimable_of_pending (pending : event.state = .pending) (left : event.attemptCount < event.maxAttempts)
    {now : Timestamp} (available : event.availableAt ≤ now) : event.claimable now = true := by
  simp [OutboxEvent.claimable, pending, available, left]

/-- The row of one event, while the worker processes others. -/
theorem Stored.beside {row : OutboxEvent} (stored : Stored (· = row) db) (aside : readings.Aside)
    (others : ∀ other ∈ claimed, other.eventId ≠ row.eventId) :
    Stored (· = row) (Runtime.processAll readings.event claimed db).2 := by
  refine stored.processAll aside fun other member event event' same step => ?_
  subst same
  cases step with
  | same => rfl
  | applied identified | rejected identified | rescheduled identified =>
    exact absurd identified.symm (others other member)

/-- An event that the worker holds is served once the worker has processed it. -/
theorem Stored.served {row : OutboxEvent} {lease : Timestamp} {given : ClaimedEvent} (stored : Stored (· = row) db)
    (identified : given.eventId = row.eventId) (copied : given.envelope = row.envelope)
    (leased : row.LeasedTo given.claimToken workerId lease) (v1 : Version.appliesTo .v1 row = true)
    (readings : ProcessReadings) : Served row.eventId (Runtime.process readings given db).2 := by
  obtain ⟨event, present, rfl, ofProbe⟩ := stored.row
  obtain ⟨succeeded, effect⟩ := process_applies stored.linked present identified copied leased v1
  exact ⟨⟨process_linked stored.linked, _, succeeded, ⟨rfl, readings.database, rfl⟩,
    OutboxEvent.OfProbe.of_envelope ofProbe rfl⟩, effect⟩

/-- An event that the poll has claimed is served by the time the poll ends. -/
theorem Waiting.served (waiting : Waiting event) (stored : Stored (· = event) db) (aside : readings.Aside)
    (ran : claimOutboxV1 (readings.claim workerId 10) db = .ok (claimed, db₁))
    (leased : Leased (readings.claim workerId 10) db claimed db₁ workerId seconds)
    (candidate : event ∈ (readings.claim workerId 10).candidates db) :
    Served event.eventId (processAll readings.event claimed db₁).2 := by
  have held : Stored (· = (readings.claim workerId 10).leased workerId seconds event) db₁ := by
    refine stored.claim ran leased ?_
    rintro other rfl
    rw [Claim.rowAfter, if_pos candidate]
  have returned : (readings.claim workerId 10).returned seconds event ∈ claimed :=
    leased.claimed.mem_iff.2 (List.mem_map_of_mem candidate)
  obtain ⟨first, last, rfl⟩ := List.append_of_mem returned
  have distinct := Leased.ids_nodup leased
  rw [List.map_append, List.nodup_append] at distinct
  have others : ∀ other ∈ first, other.eventId ≠ event.eventId := fun other member =>
    distinct.2.2 _ (List.mem_map_of_mem member) _ (by simp [Claim.returned])
  rw [processAll_append]
  have found := held.beside aside others
  generalize (processAll readings.event first db₁).2 = db₂ at found ⊢
  have before : Stored (· = (readings.claim workerId 10).leased workerId seconds event)
      ((readings.event event.eventId).others.foldl RetentionStep.after db₂) :=
    List.foldlRecOn _ _ found fun _ stays step member => stays.aside (aside _ step member)
  have token : ((readings.claim workerId 10).leased workerId seconds event).LeasedTo
      ((readings.claim workerId 10).returned seconds event).claimToken workerId (readings.clock.lease + seconds * 1000000) := rfl
  exact (before.served rfl rfl token waiting.v1 (readings.event event.eventId)).processAll aside

/-- An event that the poll has not claimed waits on. -/
theorem Waiting.waits (waiting : Waiting event) (stored : Stored (· = event) db) (aside : readings.Aside)
    (ran : claimOutboxV1 (readings.claim workerId 10) db = .ok (claimed, db₁))
    (leased : Leased (readings.claim workerId 10) db claimed db₁ workerId seconds)
    (passed : event ∉ (readings.claim workerId 10).candidates db) :
    Stored (· = event) (processAll readings.event claimed db₁).2 := by
  have kept : Stored (· = event) db₁ := by
    refine stored.claim ran leased ?_
    rintro other rfl
    exact rowAfter_same passed (not_exhausted_of_left waiting.left _)
  refine kept.beside aside fun other member same => passed ?_
  obtain ⟨event', row, rfl, _⟩ := stored.row
  obtain ⟨candidate, chosen, rfl⟩ := List.mem_map.1 (leased.claimed.mem_iff.1 member)
  rwa [← Table.eq_of_key (mem_of_candidate chosen) row same]

/-- **A poll.** A waiting event is served, or waits on; and if the poll could have claimed it, another event that was
available no later has one claim less to come. -/
theorem Waiting.poll (waiting : Waiting event) (stored : Stored (· = event) db) (aside : readings.Aside) (state : WorkerState) :
    Served event.eventId (doPoll readings state db).2.2
      ∨ Stored (· = event) (doPoll readings state db).2.2
        ∧ (readings.Claims db → readings.skipped event.eventId = false → readings.After event.availableAt →
          ∃ other, (doPoll readings state db).2.2.chances event.availableAt other < db.chances event.availableAt other) := by
  rcases doPoll_cases readings state db with ⟨same, idle⟩ | ⟨claimed, db₁, seconds, ran, leased, after⟩
  · rw [same]
    exact .inr ⟨stored, fun claims => absurd claims idle⟩
  · rw [after]
    by_cases candidate : event ∈ (readings.claim workerId 10).candidates db
    · exact .inl (waiting.served stored aside ran leased candidate)
    · refine .inr ⟨waiting.waits stored aside ran leased candidate, fun _ seen late => ?_⟩
      obtain ⟨event', row, rfl, _⟩ := stored.row
      obtain ⟨other, chosen, early⟩ := candidates_before rfl (by decide) row
        (claimable_of_pending waiting.pending waiting.left (le_of_lt late.claim)) seen candidate
      exact ⟨other.eventId, lt_of_le_of_lt (processAll_chances_le aside late other.eventId) (leased.chances_lt chosen early)⟩

end Waiting

/-! ## An event of a V0 probe -/

/-- The row of a V0 probe's event that has not succeeded. -/
structure Unsupported (eventId : Uuid) (event : OutboxEvent) : Prop where
  eventId : event.eventId = eventId
  v0 : Version.appliesTo .v0 event = true
  unfinished : ¬ event.Succeeded

theorem not_v1_of_v0 {event : OutboxEvent} (v0 : Version.appliesTo .v0 event = true) : Version.appliesTo .v1 event = false := by
  simp only [Version.appliesTo, Bool.and_eq_true, beq_iff_eq] at v0
  simp [Version.appliesTo, v0.1]

/-- No poll acknowledges the event of a V0 probe. -/
theorem Unsupported.poll {eventId : Uuid} {db : Db} {readings : PollReadings} (stored : Stored (Unsupported eventId) db)
    (aside : readings.Aside) (state : WorkerState) : Stored (Unsupported eventId) (doPoll readings state db).2.2 := by
  rcases doPoll_cases readings state db with ⟨same, _⟩ | ⟨claimed, db₁, seconds, ran, leased, after⟩
  · rw [same]
    exact stored
  rw [after]
  refine Stored.processAll (stored.claim ran leased ?_) aside ?_
  · intro event row
    unfold Claim.rowAfter
    split
    · exact ⟨row.eventId, row.v0, fun ⟨_, done⟩ => nomatch done⟩
    · split
      · exact ⟨row.eventId, row.v0, fun ⟨_, done⟩ => nomatch done⟩
      · exact row
  · intro _ _ event event' row step
    cases step with
    | same => exact row
    | applied _ _ v1 =>
      rw [not_v1_of_v0 row.v0] at v1
      cases v1
    | rejected | rescheduled => exact ⟨row.eventId, row.v0, fun ⟨_, done⟩ => nomatch done⟩

/-! ## Every run -/

section Run

variable {start : Deployment} {run : Nat → WorkerStep} {event : OutboxEvent}

theorem stateAt_poll {readings : PollReadings} {n : Nat} (made : run n = .poll readings) :
    (stateAt start run (n + 1)).db = (doPoll readings (stateAt start run n).worker (stateAt start run n).db).2.2 := by
  rw [stateAt, made]
  rfl

variable {step : WorkerStep} {eventId : Uuid}

theorem WorkerStep.Aside.served (aside : step.Aside) {deployment : Deployment} (served : Served eventId deployment.db)
    : Served eventId (step.after deployment).db := by
  cases step with
  | poll readings => exact served.poll aside _
  | other step => exact served.aside aside

theorem WorkerStep.Aside.unsupported (aside : step.Aside) {deployment : Deployment}
    (stored : Stored (Unsupported eventId) deployment.db) :
    Stored (Unsupported eventId) (step.after deployment).db := by
  cases step with
  | poll readings => exact Unsupported.poll stored aside _
  | other step => exact stored.aside aside

theorem Attended.stays_unsupported (attended : Attended start run) (stored : Stored (Unsupported eventId) start.db)
    (n : Nat) : Stored (Unsupported eventId) (stateAt start run n).db := by
  induction n with
  | zero => exact stored
  | succ n ih => exact (attended.aside n).unsupported ih

/-- Late steps give nobody more chances. -/
theorem WorkerStep.chances_le {horizon : Timestamp} (aside : step.Aside) (late : step.After horizon)
    (deployment : Deployment) (eventId : Uuid) :
    (step.after deployment).db.chances horizon eventId ≤ deployment.db.chances horizon eventId := by
  cases step with
  | poll readings =>
    show (doPoll readings deployment.worker deployment.db).2.2.chances horizon eventId ≤ _
    rcases doPoll_cases readings deployment.worker deployment.db with ⟨same, _⟩ | ⟨claimed, db₁, seconds, _, leased, after⟩
    · rw [same]
    · rw [after]
      exact (processAll_chances_le aside late eventId).trans (leased.chances_le eventId)
  | other step => exact RetentionStep.Aside.chances_le aside late eventId

/-- **Progress.** A waiting event of a V1 probe waits on until it is served, and it is served. -/
theorem Attended.serves (attended : Attended start run) (waiting : Waiting event)
    (stored : Stored (· = event) start.db) :
    (∀ n, Served event.eventId (stateAt start run n).db ∨ Stored (· = event) (stateAt start run n).db) ∧
      ∀ᶠ n in atTop, Served event.eventId (stateAt start run n).db := by
  -- once all clocks are past the event's `available_at`, nobody new gets ahead of it
  refine serves_of_chances (fun n => (stateAt start run n).db) event.availableAt (Served event.eventId)
    (Stored (· = event)) stored (fun n served => (attended.aside n).served served) (attended.polled event.eventId)
    (attended.advances event.availableAt) (fun n late => WorkerStep.chances_le (attended.aside n) late _) fun n waits => ?_
  have aside := attended.aside n
  dsimp only [stateAt]
  cases made : run n with
  | poll readings =>
    rw [made] at aside
    refine (waiting.poll waits aside _).imp_right (And.imp_right fun uses => ?_)
    rintro ⟨_, ⟨⟩, seen, claims⟩ late
    exact uses claims seen late
  | other step =>
    rw [made] at aside
    exact .inr ⟨waits.aside aside, nofun⟩

end Run

/-- **Draining.** From every state in which only `request_probe` has enqueued probe events, and in every run in which
the worker is the only consumer: no pending probe event is ever dead-lettered and all of them are drained from some
time on, exactly if none of them is of a V0 probe. -/
theorem worker_drains_iff (steps : List RetentionStep) (probes : ∀ step ∈ steps, step.EnqueuesNoProbe) (worker : WorkerState)
    (run : Nat → WorkerStep) (attended : Attended ⟨worker, runSteps steps⟩ run) :
    ((∀ event, PendingProbe (runSteps steps) event →
        ∀ n, ¬ DeadLettered (stateAt ⟨worker, runSteps steps⟩ run n).db event.eventId)
      ∧ ∀ᶠ n in atTop, ∀ event, PendingProbe (runSteps steps) event →
        Drained (stateAt ⟨worker, runSteps steps⟩ run n).db event.eventId)
    ↔ ∀ event, PendingProbe (runSteps steps) event → Version.appliesTo .v0 event = false := by
  have stored : ∀ {what : OutboxEvent → Prop} {event}, PendingProbe (runSteps steps) event → what event →
      Stored what (runSteps steps) := fun pending holds =>
    ⟨runSteps_linked probes, _, pending.stored, holds, pending.ofProbe⟩
  constructor
  · rintro ⟨_, drained⟩ event pending
    by_contra v0
    obtain ⟨n, all⟩ := drained.exists
    obtain ⟨done, present, same, succeeded⟩ := (all event pending).succeeded
    have unsupported : Unsupported event.eventId event :=
      ⟨rfl, by simpa using v0, fun ⟨_, done⟩ => by rw [pending.pending] at done; cases done⟩
    obtain ⟨row, present', unfinished, _⟩ := (attended.stays_unsupported (stored pending unsupported) n).row
    rw [Table.eq_of_key present present' (same.trans unfinished.eventId.symm)] at succeeded
    exact unfinished.unfinished succeeded
  · intro none
    have waits : ∀ event, PendingProbe (runSteps steps) event → Waiting event := by
      intro event pending
      refine ⟨pending.pending, (runSteps_bounded steps event pending.stored).pending pending.pending, ?_⟩
      obtain ⟨version, applies⟩ := pending.ofProbe
      cases version with
      | v0 =>
        rw [none event pending] at applies
        cases applies
      | v1 => exact applies
    refine ⟨fun event pending n => ?_, ?_⟩
    · rcases (attended.serves (waits event pending) (stored pending rfl)).1 n with served | waiting
      · exact served.not_deadLettered
      · exact waiting.not_deadLettered pending.pending
    · have finite : {event | PendingProbe (runSteps steps) event}.Finite :=
        (List.finite_toSet (runSteps steps).outboxEvents.rows).subset fun event pending => pending.stored
      refine (eventually_all_finite finite).2 fun event pending => ?_
      exact (attended.serves (waits event pending) (stored pending rfl)).2.mono fun _ served => served.drained

/-! ## Runs on one probe -/

/-- Poll `n`, ten seconds after the one before it. -/
def samplePoll (n : Nat) : PollReadings where
  permit := true
  clock := ⟨(n + 1) * 10000000, (n + 1) * 10000000, (n + 1) * 10000000⟩
  token := fun _ => sampleUuid (Fin.ofNat 256 (n + 3))
  skipped := fun _ => false
  event := fun _ => ⟨[], (n + 1) * 10000000, (n + 1) * 10000000⟩

def samplePolls (n : Nat) : WorkerStep := .poll (samplePoll n)

def sampleV0 : List RetentionStep :=
  [.call (.requestV0
    { probeId := some (sampleUuid 1), eventId := some (sampleUuid 2), occurredAt := some 0, correlationId := none,
      causationId := none, metadata := none } ⟨0, 0, 0⟩)]

/-- A worker that just started, on the database that some steps have left. -/
def sampleDeployment (steps : List RetentionStep) : Deployment := ⟨⟨true, none⟩, runSteps steps⟩

def sampleReply (steps : List RetentionStep) (n : Nat) : Except WorkerError (List (Except WorkerError OutboxStatus)) :=
  (doPoll (samplePoll n) (stateAt (sampleDeployment steps) samplePolls n).worker
    (stateAt (sampleDeployment steps) samplePolls n).db).1

/-- The event of a V0 probe is retried seven times and then dead-lettered. -/
theorem v0_probe_dead_lettered : (∃ event, PendingProbe (runSteps sampleV0) event
      ∧ DeadLettered (stateAt (sampleDeployment sampleV0) samplePolls 8).db event.eventId)
    ∧ (List.range 8).map (sampleReply sampleV0)
      = List.replicate 7 (.ok [.ok .retryScheduled]) ++ [.ok [.ok .deadLettered]] := by
  have rows : ∃ event ∈ (runSteps sampleV0).outboxEvents.rows, event.state = .pending
      ∧ Version.appliesTo .v0 event = true
      ∧ ∃ dead ∈ (stateAt (sampleDeployment sampleV0) samplePolls 8).db.outboxEvents.rows,
        dead.eventId = event.eventId ∧ dead.state = .deadLetter 80000000 := by
    decide +kernel
  obtain ⟨event, stored, pending, v0, dead, present, same, lost⟩ := rows
  refine ⟨⟨event, ⟨stored, pending, .v0, v0⟩, dead, present, same, 80000000, lost⟩, ?_⟩
  decide +kernel

/-! A poll of a worker that has nothing left to do. -/

section Idle

variable {readings : PollReadings} {db : Db} (done : ∀ event ∈ db.outboxEvents, event.Terminal)

include done

theorem candidates_of_terminal (c : Claim) : c.candidates db = [] :=
  List.eq_nil_iff_forall_not_mem.2 fun event candidate =>
    not_terminal_of_claimable (candidate_of_mem candidate).2 (done event (mem_of_candidate candidate))

/-- A claim that finds nothing returns. -/
theorem claim_of_terminal {c : Claim} {consumer : String} (valid : c.validate = .ok consumer) :
    ∃ db₁, claimOutboxV0 c db = .ok ([], db₁) := by
  have none : claimCandidates c (c.swept db) = [] := candidates_of_terminal done c
  rw [claimOutboxV0, valid]
  show ∃ db₁, leaseCandidates c consumer (c.swept db) = .ok ([], db₁)
  unfold leaseCandidates
  rw [none]
  cases c.leaseSeconds <;> exact ⟨_, rfl⟩

theorem claims_of_terminal (permit : readings.permit = true) : readings.Claims db := by
  obtain ⟨db₁, ran⟩ := claim_of_terminal done (rfl : (readings.claim workerId 10).validate = .ok workerId)
  refine ⟨permit, ([], db₁), ?_⟩
  rw [claimOutboxV1, ran]
  rfl

/-- A claim that finds nothing leaves everything as it is. -/
theorem Leased.of_terminal {c : Claim} {claimed : List ClaimedEvent} {db₁ : Db} {consumer : String} {seconds : Int}
    (leased : Leased c db claimed db₁ consumer seconds) :
    claimed = [] ∧ ∀ event ∈ db₁.outboxEvents, event.Terminal := by
  constructor
  · have same := leased.claimed
    rw [candidates_of_terminal done, List.map_nil] at same
    exact same.eq_nil
  · intro event stored
    obtain ⟨event, old, rfl⟩ := leased.mem_iff.1 stored
    have unclaimed : event ∉ c.candidates db := by
      rw [candidates_of_terminal done]
      exact List.not_mem_nil
    rw [rowAfter_same unclaimed fun exhausted => not_terminal_of_exhausted exhausted (done event old)]
    exact done event old

theorem terminal_poll (state : WorkerState) : ∀ event ∈ (doPoll readings state db).2.2.outboxEvents, event.Terminal := by
  rcases doPoll_cases readings state db with ⟨same, _⟩ | ⟨claimed, db₁, seconds, _, leased, after⟩
  · rw [same]
    exact done
  · obtain ⟨nothing, terminal⟩ := Leased.of_terminal done leased
    rw [after, nothing]
    exact terminal

end Idle

def sampleRequest (probeId eventId : Uuid) : RetentionStep :=
  .call (.requestV1
    { probeId := some probeId, eventId := some eventId, scope := some "probe", idempotencyKey := some "key",
      requestFingerprint := some "0123456789abcdef0123456789abcdef0123456789abcdef0123456789abcdef",
      expectedVersion := some 0, occurredAt := some 0, correlationId := none, causationId := none, traceContext := none,
      deadlineAt := none, metadata := none } ⟨0, 0, 0⟩)

def sampleV1 : List RetentionStep := [sampleRequest (sampleUuid 1) (sampleUuid 2)]

theorem samplePolls_attended : Attended (sampleDeployment sampleV1) samplePolls := by
  have done : ∀ n, ∀ event ∈ (stateAt (sampleDeployment sampleV1) samplePolls (n + 1)).db.outboxEvents, event.Terminal := by
    intro n
    induction n with
    | zero =>
      have first : ∀ event ∈ (stateAt (sampleDeployment sampleV1) samplePolls 1).db.outboxEvents.rows,
          event.state = .succeeded 10000000 := by decide +kernel
      exact fun event stored => OutboxEvent.Succeeded.terminal ⟨_, first event stored⟩
    | succ n ih =>
      have made : samplePolls (n + 1) = .poll (samplePoll (n + 1)) := rfl
      rw [stateAt_poll made]
      exact terminal_poll ih _
  have claims : ∀ n, (samplePoll n).Claims (stateAt (sampleDeployment sampleV1) samplePolls n).db := by
    intro n
    cases n with
    | zero =>
      have first : (claimOutboxV1 ((samplePoll 0).claim workerId 10) (runSteps sampleV1)).isOk = true := by decide +kernel
      rw [stateAt, sampleDeployment]
      rcases ran : claimOutboxV1 ((samplePoll 0).claim workerId 10) (runSteps sampleV1) with e | result
      · rw [ran] at first
        cases first
      · exact ⟨rfl, result, ran⟩
    | succ n => exact claims_of_terminal (done n) rfl
  refine ⟨fun n eventId step member => absurd member List.not_mem_nil, fun t => ?_, fun eventId => ?_⟩
  · refine eventually_atTop.2 ⟨t.toNat, fun n later => ?_⟩
    have past : t < ((n : Int) + 1) * 10000000 := by
      -- `omega` does not see through `Timestamp`
      have late : ∀ i : Int, i.toNat ≤ n → i < ((n : Int) + 1) * 10000000 := by
        intro i later
        omega
      exact late t later
    exact ⟨past, fun _ => past, fun _ step member => absurd member List.not_mem_nil⟩
  · exact frequently_atTop.2 fun n => ⟨n, le_rfl, samplePoll n, rfl, rfl, claims n⟩

/-- The event of a V1 probe is drained. -/
theorem v1_probe_drained : (∃ event, PendingProbe (runSteps sampleV1) event)
    ∧ ∀ᶠ n in atTop, ∀ event, PendingProbe (runSteps sampleV1) event →
      Drained (stateAt (sampleDeployment sampleV1) samplePolls n).db event.eventId := by
  have rows : (∃ event ∈ (runSteps sampleV1).outboxEvents.rows, event.state = .pending
      ∧ Version.appliesTo .v1 event = true)
      ∧ ∀ event ∈ (runSteps sampleV1).outboxEvents.rows, Version.appliesTo .v0 event = false := by
    decide +kernel
  obtain ⟨⟨event, stored, pending, v1⟩, others⟩ := rows
  have probes : ∀ step ∈ sampleV1, step.EnqueuesNoProbe := by
    intro step member
    rw [List.mem_singleton.1 member]
    trivial
  refine ⟨⟨event, stored, pending, .v1, v1⟩, ?_⟩
  exact ((worker_drains_iff sampleV1 probes ⟨true, none⟩ samplePolls samplePolls_attended).2
    fun event pending => others event pending.stored).2

end Liqi.Runtime
