import Liqi.Database.CallEffects

/-!
# What a call does to one event

`RowStep` lists every way in which a call can change a row of `outbox_events`, with the guard that
allowed it. `Call.rowStep` shows that the list is complete. The lease and ledger properties are
proved from it, row by row.
-/

namespace Liqi.Database

open Postgres

/-- The claim that `ack`, `fail` and `apply` are called with. -/
def Call.holder : Call → Option Holder
  | .ack _ _ holder => some holder
  | .fail _ _ holder _ _ => some holder
  | .apply _ _ holder => some holder
  | _ => none

/-- The calls that enqueue events. -/
def Call.enqueues : Call → Bool
  | .enqueueV0 .. => true
  | .enqueueV1 .. => true
  | .requestV0 .. => true
  | .requestV1 .. => true
  | _ => false

/-- The events that a call returns, none unless it is a claim that succeeds. -/
def Call.claimed (call : Call) (db : Db) : List ClaimedEvent :=
  match call.exec db with
  | .ok (.claimed events, _) => events
  | _ => []

/-- How often an event is among those returned. -/
def claimsOf (eventId : Uuid) (events : List ClaimedEvent) : Nat := events.countP fun event => event.eventId = eventId

/-- The call ends the lease of the event, by an acknowledgement or a failure. -/
def Call.Settles (call : Call) (db : Db) (eventId : Uuid) : Prop :=
  ∃ holder status db', call.holder = some holder ∧ holder.eventId = some eventId ∧
    call.exec db = .ok (.status status, db') ∧ status.settles = true

/-- `NULL` stands for the token or the consumer of the event's lease, and what is not `NULL` matches: a
guard written with inequalities lets this through. -/
def Holder.SlipsPast (holder : Holder) (event : OutboxEvent) : Prop :=
  ∃ t c lease, event.LeasedTo t c lease ∧ holder.eventId = some event.eventId ∧
    (holder.token = none ∨ holder.token = some t) ∧ (holder.consumer = none ∨ holder.consumer = some c) ∧
    (holder.token = none ∨ holder.consumer = none)

/-- One row before and after a call. -/
inductive RowStep (call : Call) (db : Db) (event : OutboxEvent) : OutboxEvent → Prop where
  | same (unreturned : claimsOf event.eventId (call.claimed db) = 0) : RowStep call db event event
  | buried {version : Version} {c : Claim} (made : call = .claim version c)
      (exhausted : event.exhausted c.clock.bury = true) (unreturned : claimsOf event.eventId (call.claimed db) = 0) :
      RowStep call db event (event.bury c.clock.bury)
  | leased {version : Version} {c : Claim} {consumer : String} {seconds : Int} (made : call = .claim version c)
      (claimable : event.claimable c.clock.lease = true) (length : c.leaseSeconds = some seconds)
      (returned : ∀ row ∈ call.claimed db, row.eventId = event.eventId → row = c.returned seconds event)
      (once : claimsOf event.eventId (call.claimed db) = 1) :
      RowStep call db event (c.leased consumer seconds event)
  | acked {t : Uuid} {c : String} {lease now : Timestamp} (leased : event.LeasedTo t c lease)
      (settled : call.Settles db event.eventId) (unreturned : claimsOf event.eventId (call.claimed db) = 0) :
      RowStep call db event (event.succeed now)
  | rejected {t : Uuid} {c code : String} {lease now : Timestamp} (leased : event.LeasedTo t c lease)
      (spent : event.maxAttempts ≤ event.attemptCount) (settled : call.Settles db event.eventId)
      (unreturned : claimsOf event.eventId (call.claimed db) = 0) : RowStep call db event (event.reject code now)
  | rescheduled {t : Uuid} {c code : String} {lease now : Timestamp} {retryAt : Option Timestamp}
      (leased : event.LeasedTo t c lease) (left : event.attemptCount < event.maxAttempts)
      (settled : call.Settles db event.eventId) (unreturned : claimsOf event.eventId (call.claimed db) = 0) :
      RowStep call db event (event.reschedule code now retryAt)

/-- An event as it is enqueued. -/
structure Unclaimed (event : OutboxEvent) : Prop where
  state : event.state = .pending
  attemptCount : event.attemptCount = 0
  maxAttempts : 1 ≤ event.maxAttempts

/-- Every row takes a `RowStep`, and a new row is unclaimed. -/
structure RowSteps (call : Call) (db db' : Db) : Prop where
  forward : ∀ event ∈ db.outboxEvents, ∃ event' ∈ db'.outboxEvents, RowStep call db event event'
  backward : ∀ event' ∈ db'.outboxEvents, (∃ event ∈ db.outboxEvents, RowStep call db event event') ∨
    (Unclaimed event' ∧ db.outboxEvents.get? event'.eventId = none ∧ call.enqueues = true)
  stored : ∀ row ∈ call.claimed db, ∃ event ∈ db.outboxEvents, event.eventId = row.eventId

variable {call : Call} {event event' : OutboxEvent}

theorem RowStep.eventId {db : Db} (h : RowStep call db event event') :
    event'.eventId = event.eventId := by
  cases h <;> rfl

theorem RowStep.envelope {db : Db} (h : RowStep call db event event') :
    event'.envelope = event.envelope := by
  cases h <;> rfl

/-! ## Claims -/

theorem Fresh.unclaimed {d : EventDraft} {now : Timestamp} {row : OutboxEvent} (h : Fresh d now row) : Unclaimed row :=
  ⟨h.state, h.attemptCount, h.maxAttempts.1⟩

/-- Among rows of a table, the rows with one key are one row. -/
theorem countP_key {t : Table OutboxEvent.eventId} {rows : List OutboxEvent} (sub : ∀ row ∈ rows, row ∈ t)
    (distinct : rows.Nodup) (stored : event ∈ t) :
    rows.countP (fun row => row.eventId = event.eventId) = if event ∈ rows then 1 else 0 := by
  have same : rows.countP (fun row => row.eventId = event.eventId) = rows.count event := by
    apply List.countP_congr
    intro row h
    simp only [decide_eq_true_eq, beq_iff_eq]
    constructor
    · intro key
      exact Table.eq_of_key (sub row h) stored key
    · rintro rfl
      rfl
  rw [same, distinct.count]

theorem swept_outboxEvents (c : Claim) (db : Db) :
    (c.swept db).outboxEvents = db.outboxEvents.update (·.exhausted c.clock.bury) (OutboxEvent.bury c.clock.bury)
      (OutboxEvent.bury_eventId c.clock.bury) := rfl

theorem claimable_not_exhausted {now now' : Timestamp} (h : event.claimable now = true) :
    event.exhausted now' = false := by
  unfold OutboxEvent.claimable at h
  unfold OutboxEvent.exhausted
  simp only [Bool.and_eq_true, decide_eq_true_eq] at h
  simp only [Bool.and_eq_false_iff, decide_eq_false_iff_not]
  omega

theorem not_claimable_bury (event : OutboxEvent) (now now' : Timestamp) : (event.bury now).claimable now' = false := by
  simp [OutboxEvent.claimable, OutboxEvent.bury, OutboxEvent.leaseExpired]

section Claims

variable {version : Version} {c : Claim} {db db' : Db} {consumer : String} {seconds : Int}

variable {event : OutboxEvent}

/-- The candidates are claimable rows of the swept table. -/
theorem mem_candidates (h : event ∈ c.candidates db) :
    event ∈ (c.swept db).outboxEvents ∧ event.claimable c.clock.lease = true := by
  obtain ⟨stored, selected⟩ := Table.mem_of_select h
  simp only [Bool.and_eq_true] at selected
  exact ⟨stored, selected.1⟩

/-- A candidate was never buried: it is a row of the table before the claim. -/
theorem mem_of_candidate (h : event ∈ c.candidates db) : event ∈ db.outboxEvents := by
  obtain ⟨stored, claimable⟩ := mem_candidates h
  rw [swept_outboxEvents] at stored
  obtain ⟨row, old, same⟩ := Table.mem_update.1 stored
  split at same
  · rw [same, not_claimable_bury] at claimable
    cases claimable
  · rw [same]
    exact old

theorem candidate_of_mem (h : event ∈ c.candidates db) :
    event.exhausted c.clock.bury = false ∧ event.claimable c.clock.lease = true :=
  ⟨claimable_not_exhausted (mem_candidates h).2, (mem_candidates h).2⟩

theorem Leased.claimsOf {claimed : List ClaimedEvent} (h : Leased c db claimed db' consumer seconds)
    (stored : event ∈ db.outboxEvents) :
    claimsOf event.eventId claimed = if event ∈ c.candidates db then 1 else 0 := by
  unfold Liqi.Database.claimsOf
  rw [h.claimed.countP_eq, List.countP_map]
  exact countP_key (fun row => mem_of_candidate) Table.select_nodup stored

/-- The row that a claim leaves of each row. -/
def Claim.rowAfter (c : Claim) (consumer : String) (seconds : Int) (db : Db) (event : OutboxEvent) : OutboxEvent :=
  if event ∈ c.candidates db then c.leased consumer seconds event
  else if event.exhausted c.clock.bury then event.bury c.clock.bury
  else event

theorem Leased.mem_iff {claimed : List ClaimedEvent} (h : Leased c db claimed db' consumer seconds)
    {event' : OutboxEvent} :
    event' ∈ db'.outboxEvents ↔ ∃ event ∈ db.outboxEvents, event' = c.rowAfter consumer seconds db event := by
  have rows : db'.outboxEvents = (c.swept db).outboxEvents.update (fun event => decide (event ∈ c.candidates db))
      (c.leased consumer seconds) (c.leased_eventId consumer seconds) := by
    rw [h.after]
    rfl
  have after : ∀ event, (if decide ((if event.exhausted c.clock.bury then event.bury c.clock.bury else event)
        ∈ c.candidates db) then
      c.leased consumer seconds (if event.exhausted c.clock.bury then event.bury c.clock.bury else event)
      else if event.exhausted c.clock.bury then event.bury c.clock.bury else event)
      = c.rowAfter consumer seconds db event := by
    intro event
    unfold Claim.rowAfter
    by_cases exhausted : event.exhausted c.clock.bury = true
    · have buried : event.bury c.clock.bury ∉ c.candidates db := by
        intro h
        have := (mem_candidates h).2
        rw [not_claimable_bury] at this
        cases this
      have other : event ∉ c.candidates db := by
        intro h
        rw [(candidate_of_mem h).1] at exhausted
        cases exhausted
      simp [exhausted, buried, other]
    · simp [exhausted]
  rw [rows, swept_outboxEvents, Table.mem_update]
  constructor
  · rintro ⟨row, swept, rfl⟩
    obtain ⟨event, stored, rfl⟩ := Table.mem_update.1 swept
    exact ⟨event, stored, after event⟩
  · rintro ⟨event, stored, rfl⟩
    exact ⟨_, Table.mem_update.2 ⟨event, stored, rfl⟩, (after event).symm⟩

theorem Leased.rowStep {claimed : List ClaimedEvent} (h : Leased c db claimed db' consumer seconds)
    (returns : (Call.claim version c).claimed db = claimed) (stored : event ∈ db.outboxEvents) :
    RowStep (.claim version c) db event (c.rowAfter consumer seconds db event) := by
  have count := h.claimsOf stored
  rw [← returns] at count
  unfold Claim.rowAfter
  split
  · rename_i candidate
    rw [if_pos candidate] at count
    have length := h.lease (List.ne_nil_of_mem candidate)
    refine .leased rfl (candidate_of_mem candidate).2 length ?_ count
    intro row claimed same
    rw [returns, h.claimed.mem_iff] at claimed
    obtain ⟨other, selected, rfl⟩ := List.mem_map.1 claimed
    rw [Table.eq_of_key (mem_of_candidate selected) stored same]
  · rename_i candidate
    rw [if_neg candidate] at count
    split
    · rename_i exhausted
      exact .buried rfl exhausted count
    · exact .same count

theorem Leased.rowSteps {claimed : List ClaimedEvent} (h : Leased c db claimed db' consumer seconds)
    (returns : (Call.claim version c).claimed db = claimed) : RowSteps (.claim version c) db db' where
  forward event stored := ⟨_, h.mem_iff.2 ⟨event, stored, rfl⟩, h.rowStep returns stored⟩
  backward event' stored := by
    obtain ⟨event, old, rfl⟩ := h.mem_iff.1 stored
    exact .inl ⟨event, old, h.rowStep returns old⟩
  stored row claimed := by
    rw [returns, h.claimed.mem_iff] at claimed
    obtain ⟨event, selected, rfl⟩ := List.mem_map.1 claimed
    exact ⟨event, mem_of_candidate selected, rfl⟩

end Claims

/-! ## The other calls -/

section Others

variable {call : Call} {db db' : Db}

theorem RowSteps.of_same (events : db'.outboxEvents = db.outboxEvents) (none : call.claimed db = []) :
    RowSteps call db db' := by
  have step : ∀ event, RowStep call db event event := fun event => .same (by rw [none]; rfl)
  refine ⟨?_, ?_, by simp [none]⟩
  · intro event stored
    exact ⟨event, by rw [events]; exact stored, step event⟩
  · intro event stored
    rw [events] at stored
    exact .inl ⟨event, stored, step event⟩

theorem RowSteps.of_insert {row : OutboxEvent} (fresh : Unclaimed row) (absent : db.outboxEvents.get? row.eventId = none)
    (events : db'.outboxEvents = db.outboxEvents.insert row) (none : call.claimed db = [])
    (producer : call.enqueues = true) : RowSteps call db db' := by
  have step : ∀ event, RowStep call db event event := fun event => .same (by rw [none]; rfl)
  refine ⟨?_, ?_, by simp [none]⟩
  · intro event stored
    exact ⟨event, by rw [events]; exact (Table.mem_insert absent).2 (.inl stored), step event⟩
  · intro event stored
    rw [events] at stored
    rcases (Table.mem_insert absent).1 stored with old | rfl
    · exact .inl ⟨event, old, step event⟩
    · exact .inr ⟨fresh, absent, producer⟩

/-- One row changes, the others stay. -/
theorem RowSteps.of_set {event : OutboxEvent} (f : OutboxEvent → OutboxEvent)
    (hf : ∀ row, (f row).eventId = row.eventId) (stored : event ∈ db.outboxEvents)
    (events : db'.outboxEvents = db.outboxEvents.update (fun row => decide (row.eventId = event.eventId)) f hf)
    (none : call.claimed db = []) (changed : RowStep call db event (f event)) : RowSteps call db db' := by
  have step : ∀ row ∈ db.outboxEvents, RowStep call db row (if decide (row.eventId = event.eventId) then f row else row) := by
    intro row h
    by_cases same : row.eventId = event.eventId
    · obtain rfl := Table.eq_of_key h stored same
      simpa using changed
    · simp only [same, decide_false, Bool.false_eq_true, if_false]
      exact .same (by rw [none]; rfl)
  refine ⟨?_, ?_, by simp [none]⟩
  · intro row h
    exact ⟨_, by rw [events]; exact Table.mem_update.2 ⟨row, h, rfl⟩, step row h⟩
  · intro row' h
    rw [events] at h
    obtain ⟨row, old, rfl⟩ := Table.mem_update.1 h
    exact .inl ⟨row, old, step row old⟩

theorem Enqueued.rowSteps {row : OutboxEvent} (h : Enqueued row db db') (fresh : Unclaimed row)
    {db₁ db₂ : Db} (before : db.outboxEvents = db₁.outboxEvents) (after : db₂.outboxEvents = db'.outboxEvents)
    (none : call.claimed db₁ = []) (producer : call.enqueues = true) : RowSteps call db₁ db₂ := by
  cases h with
  | stored => exact .of_same (after.trans before) none
  | inserted absent =>
    rw [before] at absent
    refine .of_insert fresh absent ?_ none producer
    rw [after, ← before]

variable {version : Version} {now : Timestamp}

theorem Published.outboxEvents {eventId : Uuid} {id : Nat} (h : Published version now eventId db id db') :
    db'.outboxEvents = db.outboxEvents := by
  cases h with
  | already => rfl
  | appended => exact Db.outboxEvents_setHandoff _ _ _

theorem ProbeStored.outboxEvents {state : ProbeState} (h : ProbeStored state db db') :
    db'.outboxEvents = db.outboxEvents := by
  cases h <;> rfl

/-- A reply that is not a list of claimed events. -/
theorem claimed_eq_nil {reply : Reply} (ran : call.exec db = .ok (reply, db')) (other : ∀ events, reply ≠ .claimed events) :
    call.claimed db = [] := by
  unfold Call.claimed
  rw [ran]
  cases reply with
  | claimed events => exact absurd rfl (other events)
  | _ => rfl

theorem claimed_eq {events : List ClaimedEvent} (ran : call.exec db = .ok (.claimed events, db')) :
    call.claimed db = events := by
  unfold Call.claimed
  rw [ran]

theorem claimed_error {e : SqlError} (raised : call.exec db = .error e) : call.claimed db = [] := by
  unfold Call.claimed
  rw [raised]

/-- The acknowledgement of a held claim, in `ack` and at the end of `apply`. -/
theorem RowSteps.of_ack {event : OutboxEvent} {t : Uuid} {c : String} {lease : Timestamp} {holder : Holder} {db₁ : Db}
    (events : db₁.outboxEvents = db.outboxEvents) (stored : event ∈ db.outboxEvents)
    (leased : event.LeasedTo t c lease) (held : call.holder = some holder)
    (identified : holder.eventId = some event.eventId)
    (ran : call.exec db = .ok (.status .acked, acknowledge event t c now db₁)) :
    RowSteps call db (acknowledge event t c now db₁) := by
  have none := claimed_eq_nil ran nofun
  refine .of_set (OutboxEvent.succeed now) (OutboxEvent.succeed_eventId now) stored ?_ none ?_
  · rw [← events]
    rfl
  · exact .acked leased ⟨holder, _, _, held, identified, ran, rfl⟩ (by rw [none]; rfl)

theorem ack_rowSteps {holder : Holder} {status : OutboxStatus}
    (ran : (Call.ack version now holder).exec db = .ok (.status status, db'))
    (acked : ackOutboxV0 now holder.eventId holder.token holder.consumer db = (status, db')) :
    RowSteps (.ack version now holder) db db' := by
  rcases ack_cases now holder.eventId holder.token holder.consumer db with
    ⟨same, _⟩ | ⟨event, t, c, lease, stored, leased, identified, _, _, done⟩
  · rw [acked] at same
    exact .of_same (congrArg Db.outboxEvents same) (claimed_eq_nil ran nofun)
  · rw [acked] at done
    cases done
    exact .of_ack rfl stored leased rfl identified ran

theorem fail_rowSteps {holder : Holder} {code : Option String} {retryAt : Option Timestamp} {status : OutboxStatus}
    (ran : (Call.fail version now holder code retryAt).exec db = .ok (.status status, db'))
    (failed : failOutboxV0 now holder.eventId holder.token holder.consumer code retryAt db = .ok (status, db')) :
    RowSteps (.fail version now holder code retryAt) db db' := by
  have none := claimed_eq_nil ran nofun
  rcases fail_cases failed with rfl | ⟨event, t, c, lease, code, stored, leased, identified, _, _, _, after, settles⟩
  · exact .of_same rfl none
  · have settled : (Call.fail version now holder _ retryAt).Settles db event.eventId :=
      ⟨holder, status, db', rfl, identified, ran, settles⟩
    unfold giveUp at after
    split at after
    · rename_i spent
      subst after
      exact .of_set (OutboxEvent.reject code now) (OutboxEvent.reject_eventId code now) stored rfl none
        (.rejected leased spent settled (by rw [none]; rfl))
    · rename_i left
      subst after
      exact .of_set (OutboxEvent.reschedule code now retryAt) (OutboxEvent.reschedule_eventId code now retryAt) stored
        rfl none
        (.rescheduled leased (by omega) settled (by rw [none]; rfl))

theorem effect_outboxEvents {row : ProbeEffect} {probeId : Uuid} {db₁ : Db} (effect : insertEffect row db = .ok db₁) :
    (completeProbe probeId now db₁).outboxEvents = db.outboxEvents := by
  rcases insertEffect_cases effect with ⟨rfl, _⟩ | ⟨_, _, _, rfl⟩ <;> rfl

theorem apply_rowSteps {version : Version} {now : Timestamp} {holder : Holder} {status : OutboxStatus}
    (ran : (Call.apply version now holder).exec db = .ok (.status status, db'))
    (applied : applyProbeEffectAndAck version now holder.eventId holder.token holder.consumer db = .ok (status, db')) :
    RowSteps (.apply version now holder) db db' := by
  have none := claimed_eq_nil ran nofun
  rcases apply_cases applied with ⟨rfl, _⟩ | ⟨_, _, _, _, probeId, db₁, passed, acked⟩
  · exact .of_same rfl none
  · have events : (completeProbe probeId now db₁).outboxEvents = db.outboxEvents := effect_outboxEvents passed.effect
    rcases ack_cases now holder.eventId holder.token holder.consumer (completeProbe probeId now db₁) with
      ⟨same, _⟩ | ⟨event, t, c, lease, stored, leased, identified, _, _, done⟩
    · rw [← acked] at same
      exact .of_same (by rw [← events]; exact congrArg Db.outboxEvents same) none
    · rw [← acked] at done
      cases done
      rw [events] at stored
      exact .of_ack events stored leased rfl identified ran

theorem ProbeRequested.rowSteps {state : ProbeState} {row : OutboxEvent} {id : Nat} {db₁ db₂ db₃ : Db}
    (h : ProbeRequested version now state row id db db₁ db₂ db₃ db') (none : call.claimed db = [])
    (producer : call.enqueues = true) : RowSteps call db db' := by
  obtain ⟨_, _, fresh⟩ := h.fresh
  refine h.event.rowSteps fresh.unclaimed h.probe.outboxEvents ?_ none producer
  rw [h.after]
  exact h.handoff.outboxEvents

end Others

theorem Call.rowSteps_exec {db db' : Db} {r : Reply} (ran : call.exec db = .ok (r, db')) :
    RowSteps call db db' := by
  cases Call.done ran with
  | enqueuedV0 drafted event | enqueuedV1 drafted event =>
    exact event.rowSteps (EventDraft.fresh_row drafted).unclaimed rfl rfl (claimed_eq_nil ran nofun) rfl
  | published handoff => exact .of_same handoff.outboxEvents (claimed_eq_nil ran nofun)
  | requestedV0 h | created _ h => exact h.request.rowSteps (claimed_eq_nil ran nofun) rfl
  | repeated => exact .of_same rfl (claimed_eq_nil ran nofun)
  | leased h => exact h.rowSteps (claimed_eq ran)
  | acked h => exact ack_rowSteps ran h
  | failed h => exact fail_rowSteps ran h
  | applied h => exact apply_rowSteps ran h
  | pruned => exact .of_same rfl (claimed_eq_nil ran nofun)

/-- **Completeness.** Every call, whether it returns or raises, changes each row by a `RowStep`. -/
theorem Call.rowSteps (call : Call) (db : Db) : RowSteps call db (call.step db) := by
  unfold Call.step
  split
  · rename_i ran
    exact Call.rowSteps_exec ran
  · rename_i raised
    exact .of_same rfl (claimed_error raised)

end Liqi.Database
