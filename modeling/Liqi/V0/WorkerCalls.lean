import Liqi.Database.Settlements
import Liqi.V0.ProbeWorker

/-!
# The calls of a `run_once`

Each future of the buffer settles its delivery with one call at a time, and `Polled` says what such a turn does to the
buffer. From it follow what every turn keeps, and that the buffer is empty in the end.
-/

namespace Liqi.V0

open Postgres Liqi.Database

variable {parseStr : String → Option Uuid} {worker : PlatformProbeWorker}

/-! ### One call -/

/-- When a delivery that failed is tried again. -/
def PlatformProbeWorker.retryAt (worker : PlatformProbeWorker) (readings : JobReadings) (delivery : OutboxDelivery) :
    Timestamp :=
  toTimestamp (readings.utcNow + retryDelay worker.retryBase worker.retryMax delivery.attempt delivery.event.eventId)

/-- The settlement of a delivery, as a failure or not. -/
def PlatformProbeWorker.settle (worker : PlatformProbeWorker) (readings : JobReadings) (delivery : OutboxDelivery)
    (failure : Option String) : Settlement where
  version := .v0
  now := readings.database
  eventId := delivery.event.eventId
  token := delivery.claimToken
  consumer := worker.consumerId
  failure := failure.map fun reasonCode => (reasonCode, worker.retryAt readings delivery)

section Calls

variable {readings : JobReadings} {delivery : OutboxDelivery} {job : Job} {db : Db}

theorem retry_db (readings : JobReadings) {delivery : OutboxDelivery} (retry : OutboxRetry) (db : Db)
    (delay : retry.delay = retryDelay worker.retryBase worker.retryMax delivery.attempt delivery.event.eventId) :
    (PostgresAuthorityStore.retry readings delivery.event.eventId delivery.claimToken worker.consumerId retry db).2 = db
      ∨ (PostgresAuthorityStore.retry readings delivery.event.eventId delivery.claimToken worker.consumerId retry db).2
        = (worker.settle readings delivery (some retry.reasonCode)).call.step db := by
  unfold PostgresAuthorityStore.retry
  rcases retry.validate with e | ⟨⟩
  · exact .inl rfl
  · right
    simp only [Settlement.call, PlatformProbeWorker.settle, PlatformProbeWorker.retryAt, Option.map_some, ← delay,
      Call.step, Call.exec, Settlement.holder]
    rcases failOutboxV0 readings.database (some delivery.event.eventId) (some delivery.claimToken)
      (some worker.consumerId) (some retry.reasonCode) (some (toTimestamp (readings.utcNow + retry.delay))) db
      with e | ⟨status, db'⟩
    · rfl
    · cases status <;> rfl

theorem apply_db (worker : PlatformProbeWorker) (readings : JobReadings) (delivery : OutboxDelivery) (db : Db) :
    (PostgresAuthorityStore.applyProbeEffectAndAck readings delivery.event.eventId delivery.claimToken worker.consumerId db).2
      = (worker.settle readings delivery none).call.step db := by
  unfold PostgresAuthorityStore.applyProbeEffectAndAck
  simp only [Settlement.call, PlatformProbeWorker.settle, Option.map_none, Call.step, Call.exec, Settlement.holder]
  rcases applyProbeEffectAndAckV0 readings.database (some delivery.event.eventId) (some delivery.claimToken)
    (some worker.consumerId) db with e | ⟨status, db'⟩
  · rfl
  · cases status <;> rfl

theorem retryDelivery_db {reasonCode : String} :
    (worker.retryDelivery readings delivery reasonCode db).2 = db
      ∨ (worker.retryDelivery readings delivery reasonCode db).2
        = (worker.settle readings delivery (some reasonCode)).call.step db := by
  have called := retry_db readings ⟨delivery.attempt, outboxMaxAttempts,
    retryDelay worker.retryBase worker.retryMax delivery.attempt delivery.event.eventId, reasonCode⟩ db rfl
  unfold PlatformProbeWorker.retryDelivery
  dsimp only
  split
  next same => rwa [same] at called
  next same => rwa [same] at called

theorem retryDelivery_ready (worker : PlatformProbeWorker) (readings : JobReadings) (delivery : OutboxDelivery)
    (reasonCode : String) (db : Db) : ∃ result, (worker.retryDelivery readings delivery reasonCode db).1 = .ready result := by
  unfold PlatformProbeWorker.retryDelivery
  dsimp only
  split <;> exact ⟨_, rfl⟩

/-- A future's call settles its delivery, or changes nothing. -/
theorem processDelivery_db :
    (worker.processDelivery parseStr readings job db).2 = db
      ∨ ∃ failure, (worker.processDelivery parseStr readings job db).2
        = (worker.settle readings job.delivery failure).call.step db := by
  unfold PlatformProbeWorker.processDelivery
  cases job with
  | starting delivery =>
    dsimp only [Job.delivery]
    split
    · exact retryDelivery_db.imp_right fun called => ⟨_, called⟩
    · have called := apply_db worker readings delivery db
      right
      refine ⟨none, ?_⟩
      rw [← called]
      split
      all_goals
        next same => rw [same]
  | retrying delivery => exact retryDelivery_db.imp_right fun called => ⟨_, called⟩

/-- What the settlements of its delivery keep, a future's call keeps. -/
theorem processDelivery_keeps {P : Db → Prop} (holds : P db)
    (settles : ∀ failure, P ((worker.settle readings job.delivery failure).call.step db)) :
    P (worker.processDelivery parseStr readings job db).2 := by
  rcases processDelivery_db with same | ⟨failure, settled⟩
  · rw [same]
    exact holds
  · rw [settled]
    exact settles failure

/-- A future goes on only to schedule the retry. -/
theorem processDelivery_pending {job' : Job} (pending : (worker.processDelivery parseStr readings job db).1 = .pending job') :
    job' = .retrying job.delivery ∧ job = .starting job.delivery := by
  unfold PlatformProbeWorker.processDelivery at pending
  cases job with
  | starting delivery =>
    dsimp only [Job.delivery] at pending ⊢
    split at pending
    · obtain ⟨result, ready⟩ := retryDelivery_ready worker readings delivery "invalid_probe_payload" db
      rw [ready] at pending
      cases pending
    · split at pending
      all_goals first
        | cases pending; exact ⟨rfl, rfl⟩
        | cases pending
  | retrying delivery =>
    obtain ⟨result, ready⟩ := retryDelivery_ready worker readings delivery "probe_effect_failed" db
    rw [ready] at pending
    cases pending

end Calls

/-! ### One turn of the buffer -/

def Job.weight : Job → Nat
  | .starting _ => 2
  | .retrying _ => 1

/-- The calls that are left at most. -/
def Pool.work (pool : Pool) : Nat := 2 * pool.queued.length + (pool.active.map Job.weight).sum

/-- What is done about a future of the buffer in a turn. -/
structure Polled (job : Job) (pool pool' : Pool) : Prop where
  running : job ∈ pool.active
  queued : pool'.queued = pool.queued
  others : ∀ other ∈ pool.active, other ≠ job → other ∈ pool'.active
  left : ∀ other ∈ pool'.active, other ∈ pool.active ∨ other = .retrying job.delivery
  less : pool'.work < pool.work

section Turns

variable {readings : JobReadings} {job : Job} {pool pool' : Pool} {db : Db} {limit index n : Nat}

theorem fill_work : (pool.fill limit).work = pool.work := by
  have counted (deliveries : List OutboxDelivery) : ((deliveries.map Job.starting).map Job.weight).sum
      = 2 * deliveries.length := by
    induction deliveries with
    | nil => rfl
    | cons delivery deliveries ih =>
      rw [List.map_cons, List.map_cons, List.sum_cons, ih, List.length_cons, Job.weight]
      omega
  unfold Pool.work Pool.fill
  rw [List.map_append, List.sum_append, counted, List.length_take, List.length_drop]
  omega

/-- Whatever work is left, the buffer holds some of it. -/
theorem fill_active (positive : 1 ≤ limit) (some : 0 < pool.work) : (pool.fill limit).active ≠ [] := by
  intro empty
  obtain ⟨idle, full⟩ := List.append_eq_nil_iff.1 empty
  rw [idle, List.length_nil, Nat.sub_zero, List.map_eq_nil_iff, List.take_eq_nil_iff] at full
  rcases full with none | none
  · omega
  · rw [Pool.work, idle, none] at some
    exact absurd some (by simp)

theorem Job.weight_pos (job : Job) : 0 < job.weight := by
  cases job
  · exact Nat.two_pos
  · exact Nat.one_pos

section Shape

variable {outcomes : List (Except ApplicationError DeliveryOutcome)}

/-- What stands before a future of the buffer, the future, and what stands after it. -/
theorem active_shape {active : List Job} (found : active[index]? = some job) :
    ∃ first last, active = first ++ job :: last ∧ active.eraseIdx index = first ++ last
      ∧ ∀ job', active.set index job' = first ++ job' :: last := by
  obtain ⟨inside, at_index⟩ := List.getElem?_eq_some_iff.1 found
  refine ⟨active.take index, active.drop (index + 1), ?_, List.eraseIdx_eq_take_drop_succ _ _, fun job' => ?_⟩
  · rw [← at_index, List.cons_getElem_drop_succ, List.take_append_drop]
  · rw [List.set_eq_take_append_cons_drop, if_pos inside]

/-- A future of the buffer is done, or goes on as one that weighs less. -/
theorem Polled.of_shape {first left last : List Job} (shape : pool.active = first ++ job :: last)
    (shape' : pool'.active = first ++ (left ++ last)) (queued : pool'.queued = pool.queued)
    (goesOn : ∀ other ∈ left, other = .retrying job.delivery) (less : (left.map Job.weight).sum < job.weight) :
    Polled job pool pool' := by
  refine ⟨by simp [shape], queued, fun other member different => ?_, fun other member => ?_, ?_⟩
  · rw [shape] at member
    rw [shape']
    simp only [List.mem_append, List.mem_cons] at member ⊢
    tauto
  · have new := goesOn other
    rw [shape'] at member
    rw [shape]
    simp only [List.mem_append, List.mem_cons] at member ⊢
    tauto
  · unfold Pool.work
    rw [shape, shape', queued]
    simp only [List.map_append, List.map_cons, List.sum_append, List.sum_cons]
    omega

theorem Polled.of_erase (found : pool.active[index]? = some job) :
    Polled job pool { pool with active := pool.active.eraseIdx index, outcomes := outcomes } := by
  obtain ⟨first, last, shape, erased, _⟩ := active_shape found
  exact .of_shape shape (show _ = first ++ ([] ++ last) from erased) rfl nofun job.weight_pos

theorem Polled.of_set (found : pool.active[index]? = some job) (starting : job = .starting job.delivery) :
    Polled job pool { pool with active := pool.active.set index (.retrying job.delivery) } := by
  obtain ⟨first, last, shape, _, replaced⟩ := active_shape found
  have weight : job.weight = 2 := by
    rw [starting]
    rfl
  refine .of_shape shape (show _ = first ++ ([.retrying job.delivery] ++ last) from replaced _) rfl (by simp) ?_
  rw [weight]
  exact Nat.one_lt_two

end Shape

/-- **A turn.** The buffer is filled up; the future at the index, if there is one, makes its call. -/
theorem poll_cases (parseStr : String → Option Uuid) (worker : PlatformProbeWorker) (index : Nat) (readings : JobReadings)
    (pool : Pool) (db : Db) :
    ((pool.fill worker.concurrency).active[index]? = none
        ∧ worker.poll parseStr index readings (pool, db) = (pool.fill worker.concurrency, db))
      ∨ ∃ job, (pool.fill worker.concurrency).active[index]? = some job
        ∧ Polled job (pool.fill worker.concurrency) (worker.poll parseStr index readings (pool, db)).1
        ∧ (worker.poll parseStr index readings (pool, db)).2 = (worker.processDelivery parseStr readings job db).2 := by
  unfold PlatformProbeWorker.poll
  dsimp only
  generalize pool.fill worker.concurrency = full
  rcases found : full.active[index]? with _ | job
  · exact .inl ⟨rfl, rfl⟩
  right
  refine ⟨job, rfl, ?_⟩
  dsimp only
  rcases result : worker.processDelivery parseStr readings job db with ⟨⟨job'⟩ | ⟨result⟩, db'⟩
  · obtain ⟨rfl, starting⟩ := processDelivery_pending (congrArg Prod.fst result)
    exact ⟨.of_set found starting, rfl⟩
  · exact ⟨.of_erase found, rfl⟩

theorem poll_work_le : (worker.poll parseStr index readings (pool, db)).1.work ≤ pool.work := by
  rcases poll_cases parseStr worker index readings pool db with ⟨_, same⟩ | ⟨job, _, polled, _⟩
  · rw [same, fill_work]
  · have less := polled.less
    rw [fill_work] at less
    omega

theorem poll_first_work (some : 0 < pool.work) : (worker.poll parseStr 0 readings (pool, db)).1.work < pool.work := by
  rcases poll_cases parseStr worker 0 readings pool db with ⟨none, _⟩ | ⟨job, _, polled, _⟩
  · rw [List.getElem?_eq_none_iff, Nat.le_zero, List.length_eq_zero_iff] at none
    exact absurd none (fill_active worker.concurrent some)
  · have less := polled.less
    rwa [fill_work] at less

/-- The calls that are left empty the buffer. -/
theorem finish_work {rest : Nat → JobReadings} {state : Pool × Db} (enough : state.1.work ≤ n) :
    (worker.finish parseStr rest n state).1.work = 0 := by
  induction n generalizing state with
  | zero => exact Nat.le_zero.1 enough
  | succ n ih =>
    refine ih ?_
    by_cases some : 0 < state.1.work
    · have less : (worker.poll parseStr 0 (rest n) state).1.work < state.1.work := poll_first_work some
      omega
    · have most : (worker.poll parseStr 0 (rest n) state).1.work ≤ state.1.work := poll_work_le
      omega

end Turns

/-! ### A batch -/

/-- The clock readings that the futures of a batch may see. -/
def RunReadings.Sees (readings : RunReadings) (seen : JobReadings) : Prop :=
  (∃ index, .job index seen ∈ readings.turns) ∨ ∃ n, readings.rest n = seen

section Batch

variable {readings : RunReadings} {deliveries : List OutboxDelivery} {pool : Pool} {db : Db}

/-- What the turns of futures and the steps of others keep, a batch keeps. -/
theorem processAll_invariant {Q : Pool → Db → Prop}
    (others : ∀ step, .others step ∈ readings.turns → ∀ pool db, Q pool db → Q pool (step.after db))
    (poll : ∀ index seen, readings.Sees seen → ∀ pool db, Q pool db →
      Q (worker.poll parseStr index seen (pool, db)).1 (worker.poll parseStr index seen (pool, db)).2)
    (start : Q ⟨deliveries, [], []⟩ db) :
    Q (worker.processAll parseStr readings deliveries db).1 (worker.processAll parseStr readings deliveries db).2 := by
  have finished : ∀ n state, Q state.1 state.2 →
      Q (worker.finish parseStr readings.rest n state).1 (worker.finish parseStr readings.rest n state).2 := by
    intro n
    induction n with
    | zero => exact fun _ holds => holds
    | succ n ih => exact fun state holds => ih _ (poll 0 _ (.inr ⟨n, rfl⟩) state.1 state.2 holds)
  refine finished _ _ (List.foldlRecOn (motive := fun state : Pool × Db => Q state.1 state.2) _ _ start ?_)
  intro state holds turn member
  cases turn with
  | job index seen => exact poll index seen (.inl ⟨index, member⟩) state.1 state.2 holds
  | others step => exact others step member state.1 state.2 holds

theorem processAll_work (parseStr : String → Option Uuid) (worker : PlatformProbeWorker) (readings : RunReadings)
    (deliveries : List OutboxDelivery) (db : Db) : (worker.processAll parseStr readings deliveries db).1.work = 0 := by
  refine finish_work (List.foldlRecOn (motive := fun state : Pool × Db => state.1.work ≤ 2 * deliveries.length) _ _ ?_ ?_)
  · simp [Pool.work]
  · intro state most turn _
    cases turn with
    | job index seen => exact poll_work_le.trans most
    | others step => exact most

/-- The deliveries that are not settled yet are of the batch. -/
structure Pool.Of (deliveries : List OutboxDelivery) (pool : Pool) : Prop where
  queued : ∀ delivery ∈ pool.queued, delivery ∈ deliveries
  active : ∀ job ∈ pool.active, job.delivery ∈ deliveries

theorem Pool.Of.fill {limit : Nat} (batch : pool.Of deliveries) : (pool.fill limit).Of deliveries := by
  refine ⟨fun delivery member => batch.queued _ (List.mem_of_mem_drop member), fun job member => ?_⟩
  rcases List.mem_append.1 member with old | new
  · exact batch.active job old
  · obtain ⟨delivery, taken, rfl⟩ := List.mem_map.1 new
    exact batch.queued _ (List.mem_of_mem_take taken)

theorem Polled.of {pool' : Pool} {job : Job} (polled : Polled job pool pool') (batch : pool.Of deliveries) :
    pool'.Of deliveries := by
  refine ⟨fun delivery member => batch.queued delivery (polled.queued ▸ member), fun other member => ?_⟩
  rcases polled.left other member with old | rfl
  · exact batch.active other old
  · exact batch.active job polled.running

/-- What the steps of others and the settlements of a batch's deliveries keep, the batch keeps. -/
theorem processAll_db {P : Db → Prop}
    (others : ∀ step, .others step ∈ readings.turns → ∀ db, P db → P (step.after db))
    (settles : ∀ delivery ∈ deliveries, ∀ seen, readings.Sees seen → ∀ failure db, P db →
      P ((worker.settle seen delivery failure).call.step db)) (start : P db) :
    P (worker.processAll parseStr readings deliveries db).2 := by
  refine (processAll_invariant (Q := fun pool db => pool.Of deliveries ∧ P db)
    (fun step member pool db holds => ⟨holds.1, others step member db holds.2⟩) ?_ ⟨⟨fun _ h => h, nofun⟩, start⟩).2
  rintro index seen sees pool db ⟨batch, holds⟩
  rcases poll_cases parseStr worker index seen pool db with ⟨_, same⟩ | ⟨job, _, polled, called⟩
  · rw [same]
    exact ⟨batch.fill, holds⟩
  · refine ⟨polled.of batch.fill, ?_⟩
    rw [called]
    exact processDelivery_keeps holds fun failure =>
      settles _ (batch.fill.active job polled.running) seen sees failure db holds

end Batch

/-! ### The claim -/

/-- The claim that a `run_once` makes. -/
def PlatformProbeWorker.claimed (worker : PlatformProbeWorker) (readings : RunReadings) : Claim :=
  readings.claim.claim worker.consumerId worker.claimBatch 30

theorem request_valid (worker : PlatformProbeWorker) : worker.request.validate = .ok () := by
  have bounds := worker.batch_bounds
  obtain ⟨named, short⟩ := worker.identified
  refine if_neg ?_
  simp only [PlatformProbeWorker.request, outboxClaimBatchMax, List.length_singleton, not_or]
  exact ⟨named, by omega, by simp, by omega, by omega, by omega, by simp⟩

theorem claim_eq (worker : PlatformProbeWorker) (readings : RunReadings) (db : Db) :
    PostgresAuthorityStore.claim readings.claim worker.request db
      = match claimOutboxV0 (worker.claimed readings) db with
        | .error e => (.error (mapSqlx e), db)
        | .ok (rows, db) => (rows.mapM mapClaimedRow, db) := by
  have bounds := worker.batch_bounds
  have batch : batchI32 worker.claimBatch = .ok (worker.claimBatch : Int) := if_pos (by omega)
  have lease : batchI32 (outboxLease / 1000000000) = .ok 30 := rfl
  unfold PostgresAuthorityStore.claim
  rw [request_valid]
  rw [if_neg fun other => other rfl]
  simp only [PlatformProbeWorker.request, batch, lease]
  rfl

/-- **`run_once`.** The claim raises; or it leases rows that do not all decode; or their deliveries are processed. -/
theorem runOnce_cases (worker : PlatformProbeWorker) (readings : RunReadings) (db : Db) :
    ((∃ e, claimOutboxV0 (worker.claimed readings) db = .error e) ∧ (worker.runOnce parseStr readings db).2 = db)
      ∨ ∃ rows db₁, claimOutboxV0 (worker.claimed readings) db = .ok (rows, db₁) ∧
        ((∃ e, rows.mapM mapClaimedRow = .error e ∧ (worker.runOnce parseStr readings db).2 = db₁)
          ∨ ∃ deliveries, rows.mapM mapClaimedRow = .ok deliveries ∧
            (worker.runOnce parseStr readings db).2 = (worker.processAll parseStr readings deliveries db₁).2) := by
  unfold PlatformProbeWorker.runOnce
  rw [claim_eq]
  rcases claimOutboxV0 (worker.claimed readings) db with e | ⟨rows, db₁⟩
  · exact .inl ⟨⟨e, rfl⟩, rfl⟩
  · refine .inr ⟨rows, db₁, rfl, ?_⟩
    dsimp only
    rcases rows.mapM mapClaimedRow with e | deliveries
    · exact .inl ⟨e, rfl, rfl⟩
    · exact .inr ⟨deliveries, rfl, rfl⟩

end Liqi.V0
