import Liqi.Database.OutboxSteps

/-!
# Leases on outbox events

A lease belongs to one consumer until it expires or is settled; only its holder can settle it; a
settled event stays settled; and no event is claimed more often than it may be attempted. Each of
these is a property of runs, proved from `RowStep`.
-/

namespace Liqi.Database

open Postgres

/-- The event is done: `succeeded` or `dead_letter`. -/
def OutboxEvent.Terminal (event : OutboxEvent) : Prop :=
  match event.state with
  | .succeeded _ => True
  | .deadLetter _ => True
  | _ => False

variable {event : OutboxEvent} {lease : Timestamp}

theorem OutboxEvent.LeasedTo.not_terminal {t : Uuid} {c : String} (h : event.LeasedTo t c lease) :
    ¬ event.Terminal := by
  have state : event.state = .processing t c lease := h
  simp [OutboxEvent.Terminal, state]

theorem not_terminal_of_exhausted {now : Timestamp} (h : event.exhausted now = true) :
    ¬ event.Terminal := by
  unfold OutboxEvent.exhausted OutboxEvent.leaseExpired at h
  unfold OutboxEvent.Terminal
  cases state : event.state <;> simp [state] at h ⊢

theorem not_terminal_of_claimable {now : Timestamp} (h : event.claimable now = true) :
    ¬ event.Terminal := by
  unfold OutboxEvent.claimable OutboxEvent.leaseExpired at h
  unfold OutboxEvent.Terminal
  cases state : event.state <;> simp [state] at h ⊢

def OutboxEvent.Succeeded (event : OutboxEvent) : Prop := ∃ now, event.state = .succeeded now

theorem OutboxEvent.Succeeded.terminal (h : event.Succeeded) : event.Terminal := by
  obtain ⟨now, state⟩ := h
  simp [OutboxEvent.Terminal, state]

/-! ## A settled event stays settled -/

variable {call : Call} {db : Db} {event' : OutboxEvent}

theorem RowStep.terminal (h : RowStep call db event event') (done : event.Terminal) : event' = event := by
  cases h with
  | same => rfl
  | buried _ exhausted => exact absurd done (not_terminal_of_exhausted exhausted)
  | leased _ claimable => exact absurd done (not_terminal_of_claimable claimable)
  | acked leased | rejected leased | rescheduled leased => exact absurd done leased.not_terminal

theorem terminal_kept {calls : List Call} (stored : event ∈ (runCalls calls).outboxEvents) (done : event.Terminal)
    (more : List Call) : event ∈ (runCalls (calls ++ more)).outboxEvents := by
  induction more using List.reverseRecOn with
  | nil => rwa [List.append_nil]
  | append_singleton more call ih =>
    rw [← List.append_assoc, runCalls_append]
    obtain ⟨event', after, step⟩ := (call.rowSteps _).forward event ih
    rwa [step.terminal done] at after

/-! ## The number of claims -/

/-- Every event that the claims of a run have returned, in order. -/
def claimHistory (calls : List Call) : List ClaimedEvent :=
  (calls.foldl (fun s call => (call.step s.1, s.2 ++ call.claimed s.1)) (Db.migrated, [])).2

theorem claimHistory_fst (calls : List Call) :
    (calls.foldl (fun (s : Db × List ClaimedEvent) call => (call.step s.1, s.2 ++ call.claimed s.1))
      (Db.migrated, [])).1 = runCalls calls := by
  induction calls using List.reverseRecOn with
  | nil => rfl
  | append_singleton calls call ih =>
    rw [List.foldl_append, runCalls_append]
    simp [ih]

theorem claimHistory_append (calls : List Call) (call : Call) :
    claimHistory (calls ++ [call]) = claimHistory calls ++ call.claimed (runCalls calls) := by
  unfold claimHistory
  rw [List.foldl_append]
  simp [claimHistory_fst]

theorem claimsOf_append (eventId : Uuid) (first last : List ClaimedEvent) :
    claimsOf eventId (first ++ last) = claimsOf eventId first + claimsOf eventId last :=
  List.countP_append

theorem claimsOf_absent {eventId : Uuid} (absent : db.outboxEvents.get? eventId = none) :
    claimsOf eventId (call.claimed db) = 0 := by
  unfold claimsOf
  rw [List.countP_eq_zero]
  intro row claimed
  obtain ⟨event, stored, same⟩ := (call.rowSteps db).stored row claimed
  have := Table.get?_eq_none.1 absent event stored
  simpa [← same] using this

/-- An event within its attempts; a pending one has an attempt left. -/
structure Bounded (event : OutboxEvent) : Prop where
  count : event.attemptCount ≤ event.maxAttempts
  pending : event.state = .pending → event.attemptCount < event.maxAttempts

theorem RowStep.bounded (h : RowStep call db event event') (inv : Bounded event) : Bounded event' := by
  cases h with
  | same => exact inv
  | leased _ claimable =>
    have left : event.attemptCount < event.maxAttempts := by
      simp only [OutboxEvent.claimable, Bool.and_eq_true, decide_eq_true_eq] at claimable
      exact claimable.2
    exact ⟨left, fun pending => by cases pending⟩
  | buried | acked | rejected => exact ⟨inv.count, fun pending => by cases pending⟩
  | rescheduled _ left => exact ⟨inv.count, fun _ => left⟩

/-- The attempt counter counts the claims that returned the event. -/
theorem RowStep.attemptCount (h : RowStep call db event event') :
    event'.attemptCount = event.attemptCount + claimsOf event.eventId (call.claimed db) := by
  cases h with
  | same unreturned | buried _ _ unreturned => rw [unreturned]; rfl
  | leased _ _ _ _ once => rw [once]; rfl
  | acked _ _ unreturned | rejected _ _ _ unreturned | rescheduled _ _ _ unreturned => rw [unreturned]; rfl

/-- The invariant of the counters over a run. -/
structure Counted (db : Db) (history : List ClaimedEvent) : Prop where
  bounded : ∀ event ∈ db.outboxEvents, Bounded event
  count : ∀ event ∈ db.outboxEvents, claimsOf event.eventId history = event.attemptCount
  absent : ∀ eventId, db.outboxEvents.get? eventId = none → claimsOf eventId history = 0

theorem Counted.step {history : List ClaimedEvent} (inv : Counted db history) (call : Call) :
    Counted (call.step db) (history ++ call.claimed db) := by
  have steps := call.rowSteps db
  refine ⟨?_, ?_, ?_⟩
  · intro event' stored
    rcases steps.backward event' stored with ⟨event, old, step⟩ | ⟨fresh, _, _⟩
    · exact step.bounded (inv.bounded event old)
    · have count := fresh.attemptCount
      have most := fresh.maxAttempts
      exact ⟨by omega, fun _ => by omega⟩
  · intro event' stored
    rw [claimsOf_append]
    rcases steps.backward event' stored with ⟨event, old, step⟩ | ⟨fresh, absent, _⟩
    · rw [step.eventId, inv.count event old, step.attemptCount]
    · rw [inv.absent _ absent, claimsOf_absent absent, fresh.attemptCount]
  · intro eventId absent
    have before : db.outboxEvents.get? eventId = none := by
      rw [Table.get?_eq_none] at absent ⊢
      intro event old same
      obtain ⟨event', stored, step⟩ := steps.forward event old
      exact absent event' stored (by rw [step.eventId, same])
    rw [claimsOf_append, inv.absent _ before, claimsOf_absent before]

theorem counted_run (calls : List Call) : Counted (runCalls calls) (claimHistory calls) := by
  induction calls using List.reverseRecOn with
  | nil => exact ⟨Table.forall_empty, Table.forall_empty, fun _ _ => rfl⟩
  | append_singleton calls call ih =>
    rw [runCalls_append, claimHistory_append]
    exact ih.step call

/-! ## Exclusive until it expires -/

/-- The clock reading at which a claim leases events. -/
def Call.leaseClock : Call → Option Timestamp
  | .claim _ c => some c.clock.lease
  | _ => none

/-- A claimed row takes the `leased` step. -/
theorem RowStep.of_claimed (h : RowStep call db event event') {row : ClaimedEvent} (claimed : row ∈ call.claimed db)
    (same : row.eventId = event.eventId) :
    ∃ version c consumer seconds, call = .claim version c ∧ event.claimable c.clock.lease = true ∧
      row = c.returned seconds event ∧ event' = c.leased consumer seconds event := by
  have some : 0 < claimsOf event.eventId (call.claimed db) := by
    unfold claimsOf
    rw [List.countP_pos_iff]
    exact ⟨row, claimed, by simpa using same⟩
  cases h with
  | @leased version c consumer seconds made claimable length returned once =>
    exact ⟨version, c, consumer, seconds, made, claimable, returned row claimed same, rfl⟩
  | same | buried | acked | rejected | rescheduled => omega

/-- Between a claim and the settlement of its lease until `lease`: the event is done, or still leased
until then, or a claim has read a clock past it. -/
def Guarded (lease : Timestamp) (clocks : List Timestamp) (event : OutboxEvent) : Prop :=
  event.Terminal ∨ (∃ t c, event.LeasedTo t c lease) ∨ ∃ now ∈ clocks, lease ≤ now

theorem Guarded.step {clocks : List Timestamp} (inv : Guarded lease clocks event)
    (step : RowStep call db event event') (unsettled : ¬ call.Settles db event.eventId) :
    Guarded lease (clocks ++ call.leaseClock.toList) event' := by
  rcases inv with done | leased | ⟨now, read, past⟩
  · rw [step.terminal done]
    exact .inl done
  · obtain ⟨t, consumer, leased⟩ := leased
    have state : event.state = .processing t consumer lease := leased
    cases step with
    | same => exact .inr (.inl ⟨t, consumer, leased⟩)
    | buried => exact .inl trivial
    | @leased _ c _ _ made claimable =>
      refine .inr (.inr ⟨c.clock.lease, ?_, ?_⟩)
      · rw [made]
        simp [Call.leaseClock]
      · simp only [OutboxEvent.claimable, OutboxEvent.leaseExpired, state, Bool.and_eq_true, Bool.or_eq_true,
          decide_eq_true_eq] at claimable
        rcases claimable.1 with pending | expired
        · simp at pending
        · exact expired
    | acked _ settled | rejected _ _ settled | rescheduled _ _ settled => exact absurd settled unsettled
  · exact .inr (.inr ⟨now, List.mem_append_left _ read, past⟩)

/-- The lease that a claim grants is guarded until it is settled. -/
theorem guarded_run {before : List Call} {version : Version} {c : Claim} {row : ClaimedEvent}
    (claimed : row ∈ (Call.claim version c).claimed (runCalls before)) (during : List Call)
    (unsettled : ∀ first call last, during = first ++ call :: last →
      ¬ call.Settles (runCalls (before ++ .claim version c :: first)) row.eventId) :
    ∃ event ∈ (runCalls (before ++ .claim version c :: during)).outboxEvents, event.eventId = row.eventId ∧
      Guarded row.leaseExpiresAt (during.filterMap Call.leaseClock) event := by
  induction during using List.reverseRecOn with
  | nil =>
    rw [runCalls_append]
    have steps := (Call.claim version c).rowSteps (runCalls before)
    obtain ⟨event, old, same⟩ := steps.stored row claimed
    obtain ⟨event', stored, step⟩ := steps.forward event old
    obtain ⟨_, c', consumer, seconds, made, _, rfl, rfl⟩ := step.of_claimed claimed same.symm
    cases made
    exact ⟨_, stored, rfl, .inr (.inl ⟨_, _, rfl⟩)⟩
  | append_singleton during call ih =>
    obtain ⟨event, old, same, inv⟩ := ih fun first other last split =>
      unsettled first other (last ++ [call]) (by rw [split]; simp)
    have split : before ++ Call.claim version c :: (during ++ [call]) = (before ++ .claim version c :: during) ++ [call] := by
      simp
    rw [split, runCalls_append]
    obtain ⟨event', stored, step⟩ := (call.rowSteps _).forward event old
    have open_ := unsettled during call [] (by simp)
    rw [← same] at open_
    refine ⟨event', stored, by rw [step.eventId, same], ?_⟩
    have next := inv.step step open_
    rw [List.filterMap_append]
    cases clock : call.leaseClock with
    | none | some => simpa [clock] using next

/-- A second claim of the event finds the lease expired. -/
theorem lease_expired_of_reclaimed {before during : List Call} {version version' : Version} {c c' : Claim}
    {row row' : ClaimedEvent} (claimed : row ∈ (Call.claim version c).claimed (runCalls before))
    (again : row' ∈ (Call.claim version' c').claimed (runCalls (before ++ .claim version c :: during)))
    (same : row'.eventId = row.eventId)
    (ticking : ((during ++ [Call.claim version' c']).filterMap Call.leaseClock).Pairwise (· ≤ ·))
    (unsettled : ∀ first call last, during = first ++ call :: last →
      ¬ call.Settles (runCalls (before ++ .claim version c :: first)) row.eventId) :
    row.leaseExpiresAt ≤ c'.clock.lease := by
  obtain ⟨event, stored, identified, inv⟩ := guarded_run claimed during unsettled
  obtain ⟨event', _, step⟩ := ((Call.claim version' c').rowSteps _).forward event stored
  obtain ⟨_, _, _, _, made, claimable, _, _⟩ := step.of_claimed again (by rw [same, identified])
  cases made
  rcases inv with done | ⟨t, consumer, leased⟩ | ⟨now, read, past⟩
  · exact absurd done (not_terminal_of_claimable claimable)
  · have state : event.state = .processing t consumer row.leaseExpiresAt := leased
    simp only [OutboxEvent.claimable, OutboxEvent.leaseExpired, state, Bool.and_eq_true, Bool.or_eq_true,
      decide_eq_true_eq] at claimable
    rcases claimable.1 with pending | expired
    · simp at pending
    · exact expired
  · rw [List.filterMap_append, List.pairwise_append] at ticking
    exact Int.le_trans past (ticking.2.2 now read c'.clock.lease (by simp [Call.leaseClock]))

/-! ## Only the holder settles -/

/-- The event's current claim is `token`, held by `consumer`. -/
def CurrentClaim (db : Db) (holder : Holder) : Prop :=
  ∃ event t c lease, event ∈ db.outboxEvents ∧ holder = ⟨some event.eventId, some t, some c⟩ ∧ event.LeasedTo t c lease

theorem holder_of_guards {holder : Holder} {t : Uuid} {c : String} (stored : event ∈ db.outboxEvents)
    (leased : event.LeasedTo t c lease) (identified : holder.eventId = some event.eventId)
    (token : holder.token = none ∨ holder.token = some t)
    (consumer : holder.consumer = none ∨ holder.consumer = some c) (hasToken : holder.token ≠ none)
    (hasConsumer : holder.consumer ≠ none) : CurrentClaim db holder := by
  have token := token.resolve_left hasToken
  have consumer := consumer.resolve_left hasConsumer
  obtain ⟨eventId, held, by_⟩ := holder
  exact ⟨event, t, c, lease, stored, by rw [Holder.mk.injEq]; exact ⟨identified, token, consumer⟩, leased⟩

/-- A call of `ack`, `fail` or `apply` under any other claim than the current one does nothing. -/
theorem step_of_other_claim {holder : Holder} (held : call.holder = some holder) (hasToken : holder.token ≠ none)
    (hasConsumer : holder.consumer ≠ none) (other : ¬ CurrentClaim db holder) :
    call.step db = db := by
  unfold Call.step
  cases ran : call.exec db with
  | error e => rfl
  | ok result =>
    obtain ⟨r, db'⟩ := result
    have ack : ∀ now, (ackOutboxV0 now holder.eventId holder.token holder.consumer db).2 = db := by
      intro now
      rcases ack_cases now holder.eventId holder.token holder.consumer db with
        ⟨same, _⟩ | ⟨event, t, c, lease, stored, leased, identified, token, consumer, _⟩
      · exact same
      · exact absurd (holder_of_guards stored leased identified (.inr token) (.inr consumer) hasToken hasConsumer) other
    cases call with
    | ack version now h =>
      cases held
      cases version <;>
      · obtain ⟨_, inner, _⟩ := reply_ok ran
        have same := ack now
        rw [show ackOutboxV0 now holder.eventId holder.token holder.consumer db = _ from Except.ok.inj inner] at same
        exact same
    | fail version now h code retryAt =>
      cases held
      cases version <;>
      · obtain ⟨_, inner, _⟩ := reply_ok ran
        rcases fail_cases inner with same | ⟨event, t, c, lease, _, stored, leased, identified, token, consumer, _⟩
        · exact same
        · exact absurd (holder_of_guards stored leased identified token consumer hasToken hasConsumer) other
    | apply version now h =>
      cases held
      cases version <;>
      · obtain ⟨_, inner, _⟩ := reply_ok ran
        rcases apply_cases inner with ⟨same, _⟩ | ⟨event, t, c, lease, _, _, passed, _⟩
        · exact same
        · exact absurd (holder_of_guards passed.stored passed.leased passed.identified passed.token passed.consumer
            hasToken hasConsumer) other
    | _ => cases held

/-- **Leases are exclusive, fenced and bounded.** Over any run of the schema's functions: an event is
not claimed again before its lease expires unless the lease was settled; `ack`, `fail` and `apply`
under another claim than the current one change nothing; a settled event keeps its row; and no event
is claimed more often than `max_attempts`. -/
theorem outbox_leases_exclusive_fenced_bounded :
    (∀ before version c during version' c' row row',
      row ∈ (Call.claim version c).claimed (runCalls before) →
      row' ∈ (Call.claim version' c').claimed (runCalls (before ++ .claim version c :: during)) →
      row'.eventId = row.eventId →
      ((during ++ [Call.claim version' c']).filterMap Call.leaseClock).Pairwise (· ≤ ·) →
      row.leaseExpiresAt ≤ c'.clock.lease ∨ ∃ first call last, during = first ++ call :: last ∧
        call.Settles (runCalls (before ++ .claim version c :: first)) row.eventId) ∧
    (∀ calls call holder, Call.holder call = some holder → holder.token ≠ none → holder.consumer ≠ none →
      ¬ CurrentClaim (runCalls calls) holder → runCalls (calls ++ [call]) = runCalls calls) ∧
    (∀ calls more, ∀ event ∈ (runCalls calls).outboxEvents, event.Terminal →
      event ∈ (runCalls (calls ++ more)).outboxEvents) ∧
    (∀ calls, ∀ event ∈ (runCalls calls).outboxEvents, event.attemptCount ≤ event.maxAttempts ∧
      (event.state = .pending → event.attemptCount < event.maxAttempts) ∧
      claimsOf event.eventId (claimHistory calls) ≤ event.maxAttempts) := by
  refine ⟨?_, ?_, ?_, ?_⟩
  · intro before version c during version' c' row row' claimed again same ticking
    by_cases settled : ∃ first call last, during = first ++ call :: last ∧
        call.Settles (runCalls (before ++ .claim version c :: first)) row.eventId
    · exact .inr settled
    · refine .inl (lease_expired_of_reclaimed claimed again same ticking ?_)
      intro first call last split settles
      exact settled ⟨first, call, last, split, settles⟩
  · intro calls call holder held hasToken hasConsumer other
    rw [runCalls_append]
    exact step_of_other_claim held hasToken hasConsumer other
  · intro calls more event stored done
    exact terminal_kept stored done more
  · intro calls event stored
    have inv := counted_run calls
    have bounded := inv.bounded event stored
    refine ⟨bounded.count, bounded.pending, ?_⟩
    rw [inv.count event stored]
    exact bounded.count

/-- An event claimed at 0 for five seconds and again at five seconds. -/
theorem outbox_leases_reclaimed_when_expired :
    ∃ row ∈ (Call.claim .v0 (sampleClaim 7 1 ⟨0, 0, 0⟩)).claimed (runCalls [sampleEnqueue 1 2]),
      ∃ row' ∈ (Call.claim .v0 (sampleClaim 8 1 ⟨5000000, 5000000, 5000000⟩)).claimed
          (runCalls [sampleEnqueue 1 2, .claim .v0 (sampleClaim 7 1 ⟨0, 0, 0⟩)]),
        row'.eventId = row.eventId ∧ (row.leaseExpiresAt ≤ 5000000 ∨
          ∃ first call last, ([] : List Call) = first ++ call :: last ∧ call.Settles
            (runCalls ([sampleEnqueue 1 2] ++ .claim .v0 (sampleClaim 7 1 ⟨0, 0, 0⟩) :: first)) row.eventId) := by
  obtain ⟨row, claimed⟩ := List.exists_mem_of_length_pos (show 0 <
    ((Call.claim .v0 (sampleClaim 7 1 ⟨0, 0, 0⟩)).claimed (runCalls [sampleEnqueue 1 2])).length by decide)
  obtain ⟨row', again⟩ := List.exists_mem_of_length_pos (show 0 <
    ((Call.claim .v0 (sampleClaim 8 1 ⟨5000000, 5000000, 5000000⟩)).claimed
      (runCalls ([sampleEnqueue 1 2] ++ .claim .v0 (sampleClaim 7 1 ⟨0, 0, 0⟩) :: []))).length by decide)
  have same : ∀ row ∈ (Call.claim .v0 (sampleClaim 7 1 ⟨0, 0, 0⟩)).claimed (runCalls [sampleEnqueue 1 2]),
      ∀ row' ∈ (Call.claim .v0 (sampleClaim 8 1 ⟨5000000, 5000000, 5000000⟩)).claimed
        (runCalls ([sampleEnqueue 1 2] ++ .claim .v0 (sampleClaim 7 1 ⟨0, 0, 0⟩) :: [])),
        row'.eventId = row.eventId := by decide
  exact ⟨row, claimed, row', again, same row claimed row' again,
    outbox_leases_exclusive_fenced_bounded.1 [sampleEnqueue 1 2] .v0 (sampleClaim 7 1 ⟨0, 0, 0⟩) [] .v0
      (sampleClaim 8 1 ⟨5000000, 5000000, 5000000⟩) row row' claimed again (same row claimed row' again) (by decide)⟩

end Liqi.Database
