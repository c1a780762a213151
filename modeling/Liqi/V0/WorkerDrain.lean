import Liqi.Runtime.OutboxDrain
import Liqi.V0.WorkerCalls

/-!
# What the V0 worker starves

A claim leases its rows before they are decoded, and one row that `map_event_row` refuses fails all of them: the rows
it accepts stay leased until they expire, with one attempt less, and the eighth time the event is dead. As long as no
batch mixes the two kinds of rows, every accepted event is applied; `mixed_batches_starve` is what happens otherwise.
-/

namespace Liqi.V0

open Filter Postgres Liqi.Database
open Liqi.Runtime (Stored Served Drained DeadLettered rowAfter_same not_exhausted_of_left claimable_of_pending)

/-- `map_event_row` takes the row. -/
def Accepted (event : OutboxEvent) : Prop := (mapEventRow event.eventId event.envelope.content).isOk = true

instance (event : OutboxEvent) : Decidable (Accepted event) := inferInstanceAs (Decidable (_ = true))

/-- The batch that a `run_once` claims holds accepted rows only, or none. -/
def PlatformProbeWorker.Unmixed (worker : PlatformProbeWorker) (readings : RunReadings) (db : Db) : Prop :=
  (∀ event ∈ (worker.claimed readings).candidates db, Accepted event)
    ∨ ∀ event ∈ (worker.claimed readings).candidates db, ¬ Accepted event

section Accepted

variable {event : OutboxEvent} {row : ClaimedEvent} {delivery : OutboxDelivery}

theorem Accepted.envelope (accepted : Accepted event) :
    ∃ envelope, mapEventRow event.eventId event.envelope.content = .ok envelope := by
  unfold Accepted at accepted
  rcases mapped : mapEventRow event.eventId event.envelope.content with e | envelope
  · rw [mapped] at accepted
    cases accepted
  · exact ⟨envelope, rfl⟩

theorem Accepted.applies (accepted : Accepted event) : Version.appliesTo .v0 event = true := by
  obtain ⟨envelope, mapped⟩ := accepted.envelope
  obtain ⟨typed, version, _⟩ := mapEventRow_ok mapped
  simp only [Version.appliesTo, typed, version, platformProbeEvent]
  decide

/-- The delivery of a claimed row. -/
theorem mapClaimedRow_ok (mapped : mapClaimedRow row = .ok delivery) :
    delivery.event.eventId = row.eventId ∧ delivery.claimToken = row.claimToken
      ∧ delivery.event.payload = row.envelope.content.payload := by
  unfold mapClaimedRow at mapped
  split at mapped
  · cases mapped
  next same =>
    cases mapped
    obtain ⟨_, _, metadata, rfl⟩ := mapEventRow_ok same
    exact ⟨rfl, rfl, rfl⟩

theorem Accepted.delivers (accepted : Accepted event) (c : Claim) (seconds : Int) :
    ∃ delivery, mapClaimedRow (c.returned seconds event) = .ok delivery := by
  obtain ⟨envelope, mapped⟩ := accepted.envelope
  unfold mapClaimedRow
  rw [Claim.returned, mapped]
  exact ⟨_, rfl⟩

theorem mapClaimedRow_error {c : Claim} {seconds : Int} {e : PersistenceError}
    (refused : mapClaimedRow (c.returned seconds event) = .error e) : ¬ Accepted event := by
  intro accepted
  obtain ⟨delivery, mapped⟩ := accepted.delivers c seconds
  rw [mapped] at refused
  cases refused

end Accepted

/-! ## What `request_probe_v0` has written -/

/-- The payload of a V0 probe's event is the one that `request_probe_v0` writes. -/
def PayloadsWritten (db : Db) : Prop :=
  ∀ event ∈ db.outboxEvents, Version.appliesTo .v0 event = true →
    ∃ probeId : Uuid, event.envelope.content.payload = Jsonb.buildObject [("probeId", .string probeId.text)]

section Payloads

variable {db : Db} {event : OutboxEvent}

/-- The payload that a call drafts for the event of a V0 probe. -/
theorem payload_of_draft {call : Call} (only : call.EnqueuesNoProbe) {d : EventDraft} {now : Timestamp}
    (drafts : call.Drafts d) (drafted : d.row now = .ok event) (v0 : Version.appliesTo .v0 event = true) :
    ∃ probeId : Uuid, event.envelope.content.payload = Jsonb.buildObject [("probeId", .string probeId.text)] := by
  have columns := EventDraft.columns (EventDraft.fresh_row drafted).content
  cases call with
  | enqueueV0 | enqueueV1 =>
    subst drafts
    rw [not_applies_of_draft drafted only .v0] at v0
    cases v0
  | requestV0 a clock =>
    obtain ⟨state, rfl⟩ := drafts
    exact ⟨state.probeId, (Option.some.inj columns.payload).symm⟩
  | requestV1 a clock =>
    obtain ⟨state, rfl⟩ := drafts
    have typed : "platform.probe.requested.v1" = event.envelope.content.eventType := Option.some.inj columns.eventType
    simp only [Version.appliesTo, ← typed, Bool.and_eq_true, beq_iff_eq] at v0
    exact absurd v0.1 (by decide)
  | _ => cases drafts

theorem PayloadsWritten.after {step : RetentionStep} (written : PayloadsWritten db) (only : step.EnqueuesNoProbe) :
    PayloadsWritten (step.after db) := by
  intro event stored v0
  have change := graphStep step db
  generalize step.after db = after at change stored
  cases change with
  | raised => exact written event stored v0
  | called made ran =>
    subst made
    rcases (Call.rowSteps_exec ran).backward event stored with ⟨before, old, row⟩ | ⟨_, new, _⟩
    · rw [row.envelope]
      refine written before old ?_
      simpa only [Version.appliesTo, row.envelope] using v0
    · obtain ⟨d, now, drafts, _, drafted⟩ := Call.drafted_of_new ran stored new
      exact payload_of_draft only drafts drafted v0
  | commands keys => exact written event stored v0
  | events unnamed => exact written event (Table.mem_delete.1 stored).1 v0

theorem runSteps_payloads {steps : List RetentionStep} (only : ∀ step ∈ steps, step.EnqueuesNoProbe) :
    PayloadsWritten (runSteps steps) :=
  runSteps_invariant Table.forall_empty fun _ written step listed => written.after (only step listed)

end Payloads

/-! ## A waiting event -/

/-- A pending event that `map_event_row` takes, with an attempt left and a payload that names its probe. -/
structure Waiting (parseStr : String → Option Uuid) (event : OutboxEvent) : Prop where
  pending : event.state = .pending
  left : event.attemptCount < event.maxAttempts
  accepted : Accepted event
  named : (extractProbeId parseStr event.envelope.content.payload).isSome = true

/-- What others do during a `run_once` is no consumer's step. -/
def RunReadings.Aside (readings : RunReadings) : Prop := ∀ step, .others step ∈ readings.turns → step.Aside

/-- The clocks of a `run_once`, and what others enqueue during it, are later than `t`. -/
structure RunReadings.After (t : Timestamp) (readings : RunReadings) : Prop where
  claim : t < readings.claim.clock.lease
  calls : ∀ seen, readings.Sees seen → t < seen.database
  others : ∀ step, .others step ∈ readings.turns → step.After t

/-- The claim of a `run_once` returns. -/
def PlatformProbeWorker.Claims (worker : PlatformProbeWorker) (readings : RunReadings) (db : Db) : Prop :=
  (claimOutboxV0 (worker.claimed readings) db).isOk = true

section Batch

variable {parseStr : String → Option Uuid} {worker : PlatformProbeWorker} {readings : RunReadings}
  {deliveries : List OutboxDelivery} {event : OutboxEvent} {delivery : OutboxDelivery} {eventId : Uuid} {db : Db}

theorem served_processAll (served : Served eventId db) (aside : readings.Aside) :
    Served eventId (worker.processAll parseStr readings deliveries db).2 :=
  processAll_db (fun step member _ held => held.aside (aside step member)) (fun _ _ _ _ _ _ held => held.settle _) served

/-- The row of one event, while the worker settles others. -/
theorem stored_beside (stored : Stored (· = event) db) (aside : readings.Aside)
    (others : ∀ other ∈ deliveries, other.event.eventId ≠ event.eventId) :
    Stored (· = event) (worker.processAll parseStr readings deliveries db).2 :=
  processAll_db (fun step member _ held => held.aside (aside step member))
    (fun other member _ _ _ _ held => held.settle_other (others other member)) stored

theorem processAll_chances_le {horizon : Timestamp} (aside : readings.Aside) (late : readings.After horizon)
    (eventId : Uuid) :
    (worker.processAll parseStr readings deliveries db).2.chances horizon eventId ≤ db.chances horizon eventId := by
  refine processAll_db (P := fun db' => db'.chances horizon eventId ≤ db.chances horizon eventId) ?_ ?_ le_rfl
  · intro step member db' fewer
    exact ((aside step member).chances_le (late.others step member) eventId).trans fewer
  · intro delivery _ seen sees failure db' fewer
    exact (Settlement.chances_le (late.calls seen sees) eventId).trans fewer

/-- The call of a future that holds its event serves it. -/
theorem processDelivery_serves {seen : JobReadings} {lease : Timestamp} (stored : Stored (· = event) db)
    (identified : delivery.event.eventId = event.eventId)
    (leased : event.LeasedTo delivery.claimToken worker.consumerId lease)
    (named : (extractProbeId parseStr delivery.event.payload).isSome = true)
    (v0 : Version.appliesTo .v0 event = true) :
    Served event.eventId (worker.processDelivery parseStr seen (.starting delivery) db).2 := by
  obtain ⟨event, present, rfl, ofProbe⟩ := stored.row
  obtain ⟨db', applied, succeeded, effect⟩ :=
    Settlement.applies (s := worker.settle seen delivery none) stored.linked present identified leased v0
  have ran : (worker.processDelivery parseStr seen (.starting delivery) db).2 = db' := by
    obtain ⟨probeId, found⟩ := Option.isSome_iff_exists.1 named
    unfold PlatformProbeWorker.processDelivery PostgresAuthorityStore.applyProbeEffectAndAck applyProbeEffectAndAckV0
    simp only [found]
    rw [show applyProbeEffectAndAck .v0 seen.database (some delivery.event.eventId) (some delivery.claimToken)
      (some worker.consumerId) db = .ok (.acked, db') from applied]
  have linked : ProbesLinked (worker.processDelivery parseStr seen (.starting delivery) db).2 :=
    processDelivery_keeps stored.linked fun failure => stored.linked.step (Settlement.enqueuesNoProbe _)
  rw [ran] at linked ⊢
  exact ⟨⟨linked, _, succeeded, ⟨rfl, seen.database, rfl⟩, Runtime.OutboxEvent.OfProbe.of_envelope ofProbe rfl⟩, effect⟩

/-- The event is leased to the worker, and its delivery has not been looked at. -/
structure Tended (event : OutboxEvent) (delivery : OutboxDelivery) (pool : Pool) (db : Db) : Prop where
  stored : Stored (· = event) db
  present : delivery ∈ pool.queued ∨ .starting delivery ∈ pool.active
  queued : ∀ other ∈ pool.queued, other.event.eventId = event.eventId → other = delivery
  unstarted : ∀ job ∈ pool.active, job.delivery.event.eventId = event.eventId → job = .starting delivery

theorem Tended.fill {pool : Pool} {limit : Nat} (tended : Tended event delivery pool db) :
    Tended event delivery (pool.fill limit) db := by
  refine ⟨tended.stored, ?_, fun other member => tended.queued other (List.mem_of_mem_drop member), ?_⟩
  · rcases tended.present with waits | runs
    · rw [← List.take_append_drop (limit - pool.active.length) pool.queued] at waits
      rcases List.mem_append.1 waits with taken | left
      · exact .inr (List.mem_append_right _ (List.mem_map_of_mem taken))
      · exact .inl left
    · exact .inr (List.mem_append_left _ runs)
  · intro job member same
    rcases List.mem_append.1 member with old | new
    · exact tended.unstarted job old same
    · obtain ⟨other, taken, rfl⟩ := List.mem_map.1 new
      rw [tended.queued other (List.mem_of_mem_take taken) same]

/-- A turn of another future. -/
theorem Tended.polled {pool pool' : Pool} {job : Job} {db' : Db} (tended : Tended event delivery pool db)
    (polled : Polled job pool pool') (other : job.delivery.event.eventId ≠ event.eventId)
    (identified : delivery.event.eventId = event.eventId) (stored : Stored (· = event) db') :
    Tended event delivery pool' db' := by
  refine ⟨stored, ?_, ?_, ?_⟩
  · rw [polled.queued]
    refine tended.present.imp_right fun runs => polled.others _ runs ?_
    rintro rfl
    exact other identified
  · rw [polled.queued]
    exact tended.queued
  · intro job' member same
    rcases polled.left job' member with old | rfl
    · exact tended.unstarted job' old same
    · exact absurd same other

theorem Tended.work_pos {pool : Pool} (tended : Tended event delivery pool db) : 0 < pool.work := by
  unfold Pool.work
  rcases tended.present with waits | runs
  · have some := List.length_pos_of_mem waits
    omega
  · have weight : 2 ≤ (pool.active.map Job.weight).sum := List.le_sum_of_mem (List.mem_map_of_mem runs)
    omega

/-- **A batch.** The event of a delivery is served by the time the batch has been processed. -/
theorem processAll_serves {lease : Timestamp} (aside : readings.Aside) (stored : Stored (· = event) db)
    (member : delivery ∈ deliveries) (identified : delivery.event.eventId = event.eventId)
    (distinct : ∀ other ∈ deliveries, other.event.eventId = event.eventId → other = delivery)
    (leased : event.LeasedTo delivery.claimToken worker.consumerId lease)
    (named : (extractProbeId parseStr delivery.event.payload).isSome = true)
    (v0 : Version.appliesTo .v0 event = true) :
    Served event.eventId (worker.processAll parseStr readings deliveries db).2 := by
  have kept : Served event.eventId (worker.processAll parseStr readings deliveries db).2
      ∨ Tended event delivery (worker.processAll parseStr readings deliveries db).1
        (worker.processAll parseStr readings deliveries db).2 := by
    refine processAll_invariant (Q := fun pool db => Served event.eventId db ∨ Tended event delivery pool db) ?_ ?_
      (.inr ⟨stored, .inl member, distinct, nofun⟩)
    · rintro step here pool db (served | tended)
      · exact .inl (served.aside (aside step here))
      · exact .inr { tended with stored := tended.stored.aside (aside step here) }
    · intro index seen _ pool db holds
      rcases poll_cases parseStr worker index seen pool db with ⟨_, same⟩ | ⟨job, _, polled, called⟩
      · rw [same]
        exact holds.imp_right Tended.fill
      · rw [called]
        rcases holds with served | tended
        · exact .inl (processDelivery_keeps served fun failure => served.settle _)
        · by_cases ours : job.delivery.event.eventId = event.eventId
          · left
            rw [tended.fill.unstarted job polled.running ours]
            exact processDelivery_serves tended.stored identified leased named v0
          · right
            refine tended.fill.polled polled ours identified ?_
            exact processDelivery_keeps tended.stored fun failure => tended.stored.settle_other ours
  refine kept.elim id fun tended => ?_
  exact absurd (processAll_work parseStr worker readings deliveries db) tended.work_pos.ne'

end Batch

/-! ## A `run_once` -/

section Run

/-- The rows that the claim of a `run_once` leases to the worker. -/
structure Claimed (worker : PlatformProbeWorker) (readings : RunReadings) (db : Db) (rows : List ClaimedEvent) (db₁ : Db)
    (seconds : Int) : Prop where
  ran : claimOutboxV0 (worker.claimed readings) db = .ok (rows, db₁)
  leased : Leased (worker.claimed readings) db rows db₁ worker.consumerId seconds

variable {parseStr : String → Option Uuid} {worker : PlatformProbeWorker} {readings : RunReadings} {event : OutboxEvent}
  {rows : List ClaimedEvent} {deliveries : List OutboxDelivery} {seconds : Int} {eventId : Uuid} {db db₁ : Db}

theorem Claimed.linked (claimed : Claimed worker readings db rows db₁ seconds) (linked : ProbesLinked db) :
    ProbesLinked db₁ := by
  have call : (Call.claim .v0 (worker.claimed readings)).exec db = .ok (.claimed rows, db₁) := by
    simp only [Call.exec, claimed.ran]
    rfl
  have quiet : (Call.claim .v0 (worker.claimed readings)).EnqueuesNoProbe := trivial
  exact linked.exec quiet call

theorem runOnce_claimed (parseStr : String → Option Uuid) (worker : PlatformProbeWorker) (readings : RunReadings) (db : Db) :
    ((∃ e, claimOutboxV0 (worker.claimed readings) db = .error e) ∧ (worker.runOnce parseStr readings db).2 = db)
      ∨ ∃ rows db₁ seconds, Claimed worker readings db rows db₁ seconds ∧
        ((∃ e, rows.mapM mapClaimedRow = .error e ∧ (worker.runOnce parseStr readings db).2 = db₁)
          ∨ ∃ deliveries, rows.mapM mapClaimedRow = .ok deliveries ∧
            (worker.runOnce parseStr readings db).2 = (worker.processAll parseStr readings deliveries db₁).2) := by
  refine (runOnce_cases worker readings db).imp_right ?_
  rintro ⟨rows, db₁, ran, rest⟩
  obtain ⟨consumer, seconds, leased⟩ := claim_cases ran
  have same : worker.consumerId = consumer := Option.some.inj (Claim.consumerId_of_valid leased.valid)
  exact ⟨rows, db₁, seconds, ⟨ran, same ▸ leased⟩, rest⟩

/-- What a claim keeps and processing keeps, a `run_once` keeps. -/
theorem runOnce_invariant {P : Db → Prop} (holds : P db)
    (claim : ∀ rows db₁ seconds, Claimed worker readings db rows db₁ seconds → P db₁)
    (processed : ∀ deliveries db₁, P db₁ → P (worker.processAll parseStr readings deliveries db₁).2) :
    P (worker.runOnce parseStr readings db).2 := by
  rcases runOnce_claimed parseStr worker readings db with ⟨_, same⟩ | ⟨rows, db₁, seconds, claimed, rest⟩
  · rw [same]
    exact holds
  rcases rest with ⟨_, _, after⟩ | ⟨deliveries, _, after⟩
  · rw [after]
    exact claim rows db₁ seconds claimed
  · rw [after]
    exact processed deliveries db₁ (claim rows db₁ seconds claimed)

theorem served_run (served : Served eventId db) (aside : readings.Aside) :
    Served eventId (worker.runOnce parseStr readings db).2 :=
  runOnce_invariant served
    (fun _ _ _ claimed => served.leased (claimed.linked served.event.linked) claimed.leased)
    fun _ _ held => served_processAll held aside

theorem runOnce_chances_le {horizon : Timestamp} (aside : readings.Aside) (late : readings.After horizon) (eventId : Uuid) :
    (worker.runOnce parseStr readings db).2.chances horizon eventId ≤ db.chances horizon eventId :=
  runOnce_invariant (P := fun db' => db'.chances horizon eventId ≤ db.chances horizon eventId) le_rfl
    (fun _ _ _ claimed => claimed.leased.chances_le eventId)
    fun _ _ fewer => (processAll_chances_le aside late eventId).trans fewer

variable (claimed : Claimed worker readings db rows db₁ seconds)

include claimed

/-- An event that the claim has passed over waits on. -/
theorem Waiting.passed (waiting : Waiting parseStr event) (stored : Stored (· = event) db)
    (passed : event ∉ (worker.claimed readings).candidates db) : Stored (· = event) db₁ := by
  refine stored.leased (claimed.linked stored.linked) claimed.leased ?_
  rintro other rfl
  exact rowAfter_same passed (not_exhausted_of_left waiting.left _)

variable (decoded : rows.mapM mapClaimedRow = .ok deliveries)

include decoded

/-- The deliveries of a claim are those of its candidates. -/
theorem mem_deliveries {delivery : OutboxDelivery} :
    delivery ∈ deliveries ↔ ∃ event ∈ (worker.claimed readings).candidates db,
      mapClaimedRow ((worker.claimed readings).returned seconds event) = .ok delivery := by
  rw [mem_of_mapM decoded]
  constructor
  · rintro ⟨row, member, mapped⟩
    obtain ⟨event, candidate, rfl⟩ := List.mem_map.1 (claimed.leased.claimed.mem_iff.1 member)
    exact ⟨event, candidate, mapped⟩
  · rintro ⟨event, candidate, mapped⟩
    exact ⟨_, claimed.leased.claimed.mem_iff.2 (List.mem_map_of_mem candidate), mapped⟩

theorem Waiting.waits (waiting : Waiting parseStr event) (stored : Stored (· = event) db) (aside : readings.Aside)
    (passed : event ∉ (worker.claimed readings).candidates db) :
    Stored (· = event) (worker.processAll parseStr readings deliveries db₁).2 := by
  refine stored_beside (waiting.passed claimed stored passed) aside fun delivery member same => passed ?_
  obtain ⟨other, candidate, mapped⟩ := (mem_deliveries claimed decoded).1 member
  obtain ⟨event', row, rfl, _⟩ := stored.row
  have identified : other.eventId = event'.eventId := (mapClaimedRow_ok mapped).1.symm.trans same
  rwa [← Table.eq_of_key (mem_of_candidate candidate) row identified]

/-- An event that the claim has taken is served by the time the `run_once` ends. -/
theorem Waiting.served (waiting : Waiting parseStr event) (stored : Stored (· = event) db) (aside : readings.Aside)
    (candidate : event ∈ (worker.claimed readings).candidates db) :
    Served event.eventId (worker.processAll parseStr readings deliveries db₁).2 := by
  have held : Stored (· = (worker.claimed readings).leased worker.consumerId seconds event) db₁ := by
    refine stored.leased (claimed.linked stored.linked) claimed.leased ?_
    rintro other rfl
    rw [Claim.rowAfter, if_pos candidate]
  obtain ⟨delivery, mapped⟩ := waiting.accepted.delivers (worker.claimed readings) seconds
  have member : delivery ∈ deliveries := (mem_deliveries claimed decoded).2 ⟨event, candidate, mapped⟩
  obtain ⟨identified, token, payload⟩ := mapClaimedRow_ok mapped
  have distinct : ∀ other ∈ deliveries, other.event.eventId = event.eventId → other = delivery := by
    intro other member same
    obtain ⟨event', candidate', mapped'⟩ := (mem_deliveries claimed decoded).1 member
    have key : event'.eventId = event.eventId := (mapClaimedRow_ok mapped').1.symm.trans same
    rw [Table.eq_of_key (mem_of_candidate candidate') (mem_of_candidate candidate) key, mapped] at mapped'
    exact (Except.ok.inj mapped').symm
  let row := (worker.claimed readings).leased worker.consumerId seconds event
  have token : row.LeasedTo delivery.claimToken worker.consumerId
      (readings.claim.clock.lease + seconds * 1000000) := by
    rw [token]
    rfl
  have named : (extractProbeId parseStr delivery.event.payload).isSome = true := by
    rw [payload]
    exact waiting.named
  have v0 : Version.appliesTo .v0 row = true := waiting.accepted.applies
  have served : Served row.eventId (worker.processAll parseStr readings deliveries db₁).2 :=
    processAll_serves aside held member identified distinct token named v0
  exact served

omit claimed decoded

/-- **A `run_once`.** If its batch is not mixed, a waiting event is served or waits on; and if the claim could have
taken it, another event that was available no later has one claim less to come. -/
theorem Waiting.run (waiting : Waiting parseStr event) (stored : Stored (· = event) db) (aside : readings.Aside)
    (unmixed : worker.Unmixed readings db) :
    Served event.eventId (worker.runOnce parseStr readings db).2
      ∨ Stored (· = event) (worker.runOnce parseStr readings db).2
        ∧ (worker.Claims readings db → readings.claim.skipped event.eventId = false → readings.After event.availableAt →
          ∃ other, (worker.runOnce parseStr readings db).2.chances event.availableAt other
            < db.chances event.availableAt other) := by
  rcases runOnce_claimed parseStr worker readings db with ⟨⟨e, raised⟩, same⟩ | ⟨rows, db₁, seconds, claimed, rest⟩
  · rw [same]
    refine .inr ⟨stored, fun claims => ?_⟩
    rw [PlatformProbeWorker.Claims, raised] at claims
    cases claims
  -- an event that could be claimed and is not stands behind a candidate
  have uses (passed : event ∉ (worker.claimed readings).candidates db)
      (seen : readings.claim.skipped event.eventId = false) (late : readings.After event.availableAt) :
      ∃ other, db₁.chances event.availableAt other < db.chances event.availableAt other := by
    obtain ⟨event', row, rfl, _⟩ := stored.row
    have positive : (0 : Int) < worker.claimBatch := by
      have bounds := worker.batch_bounds
      omega
    obtain ⟨other, chosen, early⟩ := candidates_before (c := worker.claimed readings) rfl positive row
      (claimable_of_pending waiting.pending waiting.left (le_of_lt late.claim)) seen passed
    exact ⟨other.eventId, claimed.leased.chances_lt chosen early⟩
  rcases rest with ⟨e, failed, after⟩ | ⟨deliveries, decoded, after⟩
  · rw [after]
    obtain ⟨row, member, refused⟩ := mapM_error failed
    obtain ⟨other, candidate, rfl⟩ := List.mem_map.1 (claimed.leased.claimed.mem_iff.1 member)
    -- one row is refused, so the batch has no accepted ones
    have passed : event ∉ (worker.claimed readings).candidates db := by
      rcases unmixed with all | none
      · exact absurd (all other candidate) (mapClaimedRow_error refused)
      · exact fun candidate => none event candidate waiting.accepted
    exact .inr ⟨waiting.passed claimed stored passed, fun _ => uses passed⟩
  · rw [after]
    by_cases candidate : event ∈ (worker.claimed readings).candidates db
    · exact .inl (waiting.served claimed decoded stored aside candidate)
    · refine .inr ⟨waiting.waits claimed decoded stored aside candidate, fun _ seen late => ?_⟩
      obtain ⟨other, fewer⟩ := uses candidate seen late
      exact ⟨other, lt_of_le_of_lt (processAll_chances_le aside late other) fewer⟩

end Run

/-! ## Every run -/

def WorkerStep.Aside : WorkerStep → Prop
  | .runOnce readings => readings.Aside
  | .other step => step.Aside

def WorkerStep.After (t : Timestamp) : WorkerStep → Prop
  | .runOnce readings => readings.After t
  | .other step => step.After t

/-- A run in which the worker is the only consumer: time advances, and for every event there is always another
`run_once` whose claim returns and does not find the event locked. -/
structure Attended (parseStr : String → Option Uuid) (worker : PlatformProbeWorker) (start : Db) (run : Nat → WorkerStep) :
    Prop where
  aside : ∀ n, (run n).Aside
  advances : ∀ t, ∀ᶠ n in atTop, (run n).After t
  attempted : ∀ eventId, ∃ᶠ n in atTop, ∃ readings, run n = .runOnce readings
    ∧ readings.claim.skipped eventId = false ∧ worker.Claims readings (stateAt parseStr worker start run n)

/-- No `run_once` claims a row that `map_event_row` takes together with one that it refuses. -/
def NeverMixed (parseStr : String → Option Uuid) (worker : PlatformProbeWorker) (start : Db) (run : Nat → WorkerStep) : Prop :=
  ∀ n readings, run n = .runOnce readings → worker.Unmixed readings (stateAt parseStr worker start run n)

section Runs

variable {parseStr : String → Option Uuid} {worker : PlatformProbeWorker} {start : Db} {run : Nat → WorkerStep}
  {event : OutboxEvent}

theorem stateAt_runOnce {readings : RunReadings} {n : Nat} (made : run n = .runOnce readings) :
    stateAt parseStr worker start run (n + 1)
      = (worker.runOnce parseStr readings (stateAt parseStr worker start run n)).2 := by
  rw [stateAt, made]
  rfl

theorem WorkerStep.Aside.served {step : WorkerStep} (aside : step.Aside) {eventId : Uuid} {db : Db}
    (served : Served eventId db) : Served eventId (step.after parseStr worker db) := by
  cases step with
  | runOnce readings => exact served_run served aside
  | other step => exact served.aside aside

/-- Late steps give nobody more chances. -/
theorem WorkerStep.Aside.chances_le {step : WorkerStep} {horizon : Timestamp} {db : Db} (aside : step.Aside)
    (late : step.After horizon) (eventId : Uuid) :
    (step.after parseStr worker db).chances horizon eventId ≤ db.chances horizon eventId := by
  cases step with
  | runOnce readings => exact runOnce_chances_le aside late eventId
  | other step => exact RetentionStep.Aside.chances_le aside late eventId

/-- **Progress.** A waiting event waits on until it is served, and it is served. -/
theorem Attended.serves (attended : Attended parseStr worker start run) (unmixed : NeverMixed parseStr worker start run)
    (waiting : Waiting parseStr event) (stored : Stored (· = event) start) :
    (∀ n, Served event.eventId (stateAt parseStr worker start run n) ∨
      Stored (· = event) (stateAt parseStr worker start run n)) ∧
      ∀ᶠ n in atTop, Served event.eventId (stateAt parseStr worker start run n) := by
  refine serves_of_chances (stateAt parseStr worker start run) event.availableAt (Served event.eventId)
    (Stored (· = event)) stored (fun n served => (attended.aside n).served served) (attended.attempted event.eventId)
    (attended.advances event.availableAt) (fun n late => (attended.aside n).chances_le late) fun n waits => ?_
  have aside := attended.aside n
  have batch := unmixed n
  dsimp only [stateAt]
  cases made : run n with
  | runOnce readings =>
    rw [made] at aside
    refine (waiting.run waits aside (batch readings made)).imp_right (And.imp_right fun uses => ?_)
    rintro ⟨_, ⟨⟩, seen, claims⟩ late
    exact uses claims seen late
  | other step =>
    rw [made] at aside
    exact .inr ⟨waits.aside aside, nofun⟩

end Runs

/-- A parser that takes the texts that the database takes. -/
def sampleParse (text : String) : Option Uuid :=
  match castUuid (some text) with
  | .ok id => id
  | .error _ => none

theorem sampleParse_text (id : Uuid) : sampleParse id.text = some id := by
  rw [sampleParse, castUuid_text]

def sampleWorker : PlatformProbeWorker := .new 10 1000000000 60000000000 4

/-- `run_once` number `n`, forty seconds after the one before it, so that all leases have expired. -/
def sampleRun (n : Nat) : RunReadings where
  claim :=
    { clock := ⟨(n + 1) * 40000000, (n + 1) * 40000000, (n + 1) * 40000000⟩
      token := fun eventId => sampleUuid (Fin.ofNat 256 (2 * n + if eventId = sampleUuid 2 then 10 else 11))
      skipped := fun _ => false }
  turns := []
  rest := fun _ => ⟨(n + 1) * 40000000000, (n + 1) * 40000000⟩

def sampleRuns (n : Nat) : WorkerStep := .runOnce (sampleRun n)

/-- A V0 probe and a V1 probe. -/
def sampleMixed : List RetentionStep := Runtime.sampleV0 ++ [Runtime.sampleRequest (sampleUuid 3) (sampleUuid 4)]

section Idle

variable {n : Nat} {db : Db} (done : ∀ event ∈ db.outboxEvents, event.Terminal)

include done

theorem claims_of_terminal : sampleWorker.Claims (sampleRun n) db := by
  obtain ⟨db₁, ran⟩ := Runtime.claim_of_terminal done
    (rfl : (sampleWorker.claimed (sampleRun n)).validate = .ok probeConsumer)
  rw [PlatformProbeWorker.Claims, ran]
  rfl

theorem terminal_runOnce :
    ∀ event ∈ (sampleWorker.runOnce sampleParse (sampleRun n) db).2.outboxEvents, event.Terminal := by
  rcases runOnce_claimed sampleParse sampleWorker (sampleRun n) db with ⟨_, same⟩ | ⟨rows, db₁, seconds, claimed, rest⟩
  · rw [same]
    exact done
  obtain ⟨nothing, terminal⟩ := Runtime.Leased.of_terminal done claimed.leased
  rcases rest with ⟨_, _, after⟩ | ⟨deliveries, decoded, after⟩
  · rw [after]
    exact terminal
  · rw [nothing] at decoded
    cases decoded
    rw [after]
    exact terminal

end Idle

theorem sampleRuns_terminal (n : Nat) : ∀ event ∈
    (stateAt sampleParse sampleWorker (runSteps Runtime.sampleV0) sampleRuns (n + 1)).outboxEvents, event.Terminal := by
  induction n with
  | zero =>
    have first : ∀ event ∈
        (stateAt sampleParse sampleWorker (runSteps Runtime.sampleV0) sampleRuns (0 + 1)).outboxEvents.rows,
        event.state = .succeeded 40000000 := by
      decide +kernel
    exact fun event stored => OutboxEvent.Succeeded.terminal ⟨_, first event stored⟩
  | succ n ih =>
    have made : sampleRuns (n + 1) = .runOnce (sampleRun (n + 1)) := rfl
    rw [stateAt_runOnce made]
    exact terminal_runOnce ih

theorem sampleRuns_attended : Attended sampleParse sampleWorker (runSteps Runtime.sampleV0) sampleRuns := by
  have claims : ∀ n, sampleWorker.Claims (sampleRun n)
      (stateAt sampleParse sampleWorker (runSteps Runtime.sampleV0) sampleRuns n) := by
    intro n
    cases n with
    | zero =>
      rw [stateAt, PlatformProbeWorker.Claims]
      decide +kernel
    | succ n => exact claims_of_terminal (sampleRuns_terminal n)
  refine ⟨fun n step member => absurd member List.not_mem_nil, fun t => ?_, fun eventId => ?_⟩
  · refine eventually_atTop.2 ⟨t.toNat, fun n later => ?_⟩
    have past : t < ((n : Int) + 1) * 40000000 := by
      -- `omega` does not see through `Timestamp`
      have late : ∀ i : Int, i.toNat ≤ n → i < ((n : Int) + 1) * 40000000 := by
        intro i later
        omega
      exact late t later
    refine ⟨past, ?_, fun step member => absurd member List.not_mem_nil⟩
    rintro seen (⟨index, member⟩ | ⟨_, rfl⟩)
    · exact absurd member List.not_mem_nil
    · exact past
  · exact frequently_atTop.2 fun n => ⟨n, le_rfl, sampleRun n, rfl, rfl, claims n⟩

theorem sampleRuns_unmixed : NeverMixed sampleParse sampleWorker (runSteps Runtime.sampleV0) sampleRuns := by
  intro n readings made
  cases made
  left
  cases n with
  | zero =>
    rw [stateAt]
    decide +kernel
  | succ n =>
    intro event candidate
    rw [Runtime.candidates_of_terminal (sampleRuns_terminal n)] at candidate
    exact absurd candidate List.not_mem_nil

end Liqi.V0
