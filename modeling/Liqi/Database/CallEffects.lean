import Liqi.Database.Calls
import Liqi.Database.ConsumerEffects
import Liqi.Database.ProducerEffects

/-!
# What a call has done

`Call.Done` says once what a call that returns has done to the database, and the invariants of runs are proved by its
cases. `OutboxOnly` and `ConsumerOnly` are the frames of the calls that leave most tables alone, and `ProbeRequested` is
what the requests for a probe of both generations have in common.
-/

namespace Liqi.Database

open Postgres

variable {db db' : Db}

/-- Only the tables of the outbox have changed. -/
def OutboxOnly (db db' : Db) : Prop :=
  ∃ events attempts, db' = { db with outboxEvents := events, outboxAttempts := attempts }

/-- Only the tables that consumers write have changed. -/
def ConsumerOnly (db db' : Db) : Prop :=
  ∃ events attempts states effects,
    db' = { db with outboxEvents := events, outboxAttempts := attempts, probeState := states, probeEffects := effects }

theorem OutboxOnly.refl (db : Db) : OutboxOnly db db := ⟨_, _, rfl⟩

theorem OutboxOnly.consumerOnly (only : OutboxOnly db db') : ConsumerOnly db db' := by
  obtain ⟨events, attempts, rfl⟩ := only
  exact ⟨events, attempts, db.probeState, db.probeEffects, rfl⟩

theorem OutboxOnly.probeTables (only : OutboxOnly db db') :
    db'.probeState = db.probeState ∧ db'.probeEffects = db.probeEffects := by
  obtain ⟨_, _, rfl⟩ := only
  exact ⟨rfl, rfl⟩

section Frames

variable {version : Version} {now : Timestamp} {eventId token : Option Uuid} {consumer : Option String}
  {status : OutboxStatus}

theorem Enqueued.outboxOnly {row : OutboxEvent} (h : Enqueued row db db') : OutboxOnly db db' := by
  cases h <;> exact ⟨_, _, rfl⟩

theorem ProbeStored.consumerOnly {state : ProbeState} (h : ProbeStored state db db') : ConsumerOnly db db' := by
  cases h <;> exact ⟨_, _, _, _, rfl⟩

theorem Leased.outboxOnly {c : Claim} {claimed : List ClaimedEvent} {consumer : String} {seconds : Int}
    (h : Leased c db claimed db' consumer seconds) : OutboxOnly db db' := by
  rw [h.after]
  exact ⟨_, _, rfl⟩

theorem ack_outboxOnly (acked : ackOutboxV0 now eventId token consumer db = (status, db')) : OutboxOnly db db' := by
  rcases ack_cases now eventId token consumer db with ⟨same, _⟩ | ⟨_, _, _, _, _, _, _, _, _, done⟩
  · rw [acked] at same
    exact same ▸ .refl db
  · rw [acked] at done
    cases done
    exact ⟨_, _, rfl⟩

theorem fail_outboxOnly {code : Option String} {retryAt : Option Timestamp}
    (failed : failOutboxV0 now eventId token consumer code retryAt db = .ok (status, db')) : OutboxOnly db db' := by
  rcases fail_cases failed with rfl | ⟨_, _, _, _, _, _, _, _, _, _, _, rfl, _⟩
  · exact .refl db'
  · unfold giveUp
    split <;> exact ⟨_, _, rfl⟩

theorem apply_consumerOnly
    (applied : applyProbeEffectAndAck version now eventId token consumer db = .ok (status, db')) :
    ConsumerOnly db db' := by
  rcases apply_cases applied with ⟨rfl, _⟩ | ⟨_, _, _, _, _, _, passed, acked⟩
  · exact (OutboxOnly.refl db').consumerOnly
  · obtain ⟨_, _, rfl⟩ := ack_outboxOnly acked.symm
    rcases insertEffect_cases passed.effect with ⟨rfl, _⟩ | ⟨_, _, _, rfl⟩ <;> exact ⟨_, _, _, _, rfl⟩

end Frames

/-- A request has stored its probe, enqueued and published its event, and may have recorded its answer. -/
structure ProbeRequested (version : Version) (now : Timestamp) (state : ProbeState) (row : OutboxEvent) (id : Nat)
    (db db₁ db₂ db₃ db' : Db) : Prop where
  probe : ProbeStored state db db₁
  fresh : ∃ d enqueued, Fresh d enqueued row
  key : row.eventId = state.requestedEventId
  event : Enqueued row db₁ db₂
  handoff : Published version now state.requestedEventId db₂ id db₃
  after : db' = { db₃ with commandIdempotency := db'.commandIdempotency }
  commands : ∀ record ∈ db'.commandIdempotency,
    record ∈ db₃.commandIdempotency ∨ record.eventId = state.requestedEventId

section Requests

variable {clock : RequestClock} {state : ProbeState} {row : OutboxEvent} {db₁ db₂ db₃ : Db}

theorem RequestedV0.request {a : RequestProbeV0} {id : Nat} (h : RequestedV0 a clock db db' state row id db₁ db₂) :
    ProbeRequested .v0 clock.published state row id db db₁ db₂ db' db' where
  probe := h.probe
  fresh := ⟨_, _, EventDraft.fresh_row h.drafted⟩
  key := (Option.some.inj (EventDraft.fresh_row h.drafted).eventId).symm
  event := h.event
  handoff := h.handoff
  after := rfl
  commands _ := .inl

theorem CreatedV1.request {a : RequestProbeV1} {id : CommandIdentity} {cursor : Nat}
    (h : CreatedV1 a id clock db db' state row cursor db₁ db₂ db₃) :
    ProbeRequested .v1 clock.published state row cursor db db₁ db₂ db₃ db' where
  probe := h.probe ▸ .inserted h.absent h.unrequested
  fresh := ⟨_, _, EventDraft.fresh_row h.drafted⟩
  key := (Option.some.inj (EventDraft.fresh_row h.drafted).eventId).symm
  event := h.event
  handoff := h.handoff
  after := by rw [h.record]
  commands record stored := by
    rw [h.record] at stored
    rcases Table.mem_of_mem_insert stored with old | rfl
    · exact .inl old
    · exact .inr rfl

end Requests

/-- What a call that returns has done. -/
inductive Call.Done (db : Db) : Call → Reply → Db → Prop where
  | enqueuedV0 {a now row db'} (drafted : EventDraft.row a.draft now = .ok row) (event : Enqueued row db db') :
      Done db (.enqueueV0 a now) (.event row.eventId) db'
  | enqueuedV1 {a now row db'} (drafted : EventDraft.row a.draft now = .ok row) (event : Enqueued row db db') :
      Done db (.enqueueV1 a now) (.event row.eventId) db'
  | published {version now eventId id db'} (handoff : Published version now eventId db id db') :
      Done db (.publish version now (some eventId)) (.handoff id) db'
  | requestedV0 {a clock state row id db₁ db₂ db' eventId} (h : RequestedV0 a clock db db' state row id db₁ db₂) :
      Done db (.requestV0 a clock) (.event eventId) db'
  | repeated {a clock receipt} : Done db (.requestV1 a clock) (.receipt receipt) db
  | created {a id clock state row cursor db₁ db₂ db₃ db' receipt} (identified : RequestProbeV1.identity a = .ok id)
      (h : CreatedV1 a id clock db db' state row cursor db₁ db₂ db₃) :
      Done db (.requestV1 a clock) (.receipt receipt) db'
  | leased {version c claimed consumer seconds db'} (h : Leased c db claimed db' consumer seconds) :
      Done db (.claim version c) (.claimed claimed) db'
  | acked {version now holder status db'}
      (h : ackOutboxV0 now (Holder.eventId holder) holder.token holder.consumer db = (status, db')) :
      Done db (.ack version now holder) (.status status) db'
  | failed {version now holder code retryAt status db'}
      (h : failOutboxV0 now (Holder.eventId holder) holder.token holder.consumer code retryAt db = .ok (status, db')) :
      Done db (.fail version now holder code retryAt) (.status status) db'
  | applied {version now holder status db'}
      (h : applyProbeEffectAndAck version now (Holder.eventId holder) holder.token holder.consumer db
        = .ok (status, db')) : Done db (.apply version now holder) (.status status) db'
  | pruned {cutoff n skipped pruned} (size : 1 ≤ n ∧ n ≤ 500) :
      Done db (.pruneHandoff (some cutoff) (some n) skipped) (.pruned pruned)
        (deleteHandoffs (pruneCandidates cutoff n.toNat skipped db) db)

/-- **Inversion.** A call that returns has done what its function does. -/
theorem Call.done {call : Call} {r : Reply} (ran : call.exec db = .ok (r, db')) : Call.Done db call r db' := by
  cases call with
  | enqueueV0 a now =>
    obtain ⟨_, inner, rfl⟩ := reply_ok ran
    obtain ⟨_, drafted, rfl, event, _⟩ := enqueue_run inner
    exact .enqueuedV0 drafted event
  | enqueueV1 a now =>
    obtain ⟨_, inner, rfl⟩ := reply_ok ran
    obtain ⟨_, drafted, rfl, event, _⟩ := enqueue_run inner
    exact .enqueuedV1 drafted event
  | publish version now eventId =>
    cases version <;>
    · obtain ⟨_, inner, rfl⟩ := reply_ok ran
      obtain ⟨_, rfl, handoff⟩ := publish_run inner
      exact .published handoff
  | requestV0 a clock =>
    obtain ⟨_, inner, rfl⟩ := reply_ok ran
    obtain ⟨_, _, _, _, _, h⟩ := requestV0_run inner
    exact .requestedV0 h
  | requestV1 a clock =>
    obtain ⟨_, inner, rfl⟩ := reply_ok ran
    obtain ⟨_, identified, ⟨rfl, _⟩ | ⟨_, _, _, _, _, _, h, _⟩⟩ := requestV1_run inner
    · exact .repeated
    · exact .created identified h
  | claim version c =>
    cases version with
    | v0 =>
      obtain ⟨_, inner, rfl⟩ := reply_ok ran
      obtain ⟨_, _, h⟩ := claim_cases inner
      exact .leased h
    | v1 =>
      obtain ⟨_, inner, rfl⟩ := reply_ok ran
      obtain ⟨_, _, h⟩ := claimV1_cases inner
      exact .leased h
  | ack version now holder =>
    cases version <;>
    · obtain ⟨_, inner, rfl⟩ := reply_ok ran
      exact .acked (Except.ok.inj inner)
  | fail version now holder code retryAt =>
    cases version <;>
    · obtain ⟨_, inner, rfl⟩ := reply_ok ran
      exact .failed inner
  | apply version now holder =>
    cases version <;>
    · obtain ⟨_, inner, rfl⟩ := reply_ok ran
      exact .applied inner
  | pruneHandoff recordedBefore batch skipped =>
    obtain ⟨_, inner, rfl⟩ := reply_ok ran
    obtain ⟨_, _, rfl, rfl, size, rfl⟩ := prune_cases inner
    exact .pruned size

end Liqi.Database
