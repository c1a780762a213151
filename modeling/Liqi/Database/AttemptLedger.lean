import Liqi.Database.LedgerSteps
import Liqi.Lockstep

/-!
# The attempt ledger

`outbox_attempts` is meant to tell the story of each event: one row per claim, numbered from one, open
exactly while the claim holds the lease, and closed as `succeeded` only by the acknowledgement that
settled the event. A call changes events and attempts by different statements, so the two tables can
part.

Some of the story is kept by every call (`Recorded`). The rest (`Settled`) is kept by every call except
two: a claim whose statements disagree on which leases it takes over, and a failure report let through
by a `NULL`.
-/

namespace Liqi.Database

open Postgres

/-- The ledger and the events agree. -/
structure Ledger (db : Db) : Prop where
  /-- The attempts of an event are numbered `1..attempt_count`. -/
  numbered : ∀ event ∈ db.outboxEvents, ∀ n,
    (∃ attempt ∈ db.outboxAttempts, attempt.Of event ∧ attempt.attemptNo = n) ↔ 1 ≤ n ∧ n ≤ event.attemptCount
  /-- An attempt is open while its token is the event's. -/
  unfinished : ∀ event ∈ db.outboxEvents, ∀ attempt ∈ db.outboxAttempts, attempt.Of event →
    (attempt.finished = none ↔ ∃ c lease, event.LeasedTo attempt.claimToken c lease)
  /-- An event has succeeded if its last attempt has, and no other attempt has. -/
  succeeded : ∀ event ∈ db.outboxEvents, event.Succeeded ↔
    ∃ last ∈ db.outboxAttempts, last.Of event ∧ last.attemptNo = event.attemptCount ∧
      ∀ attempt ∈ db.outboxAttempts, attempt.Of event → (attempt.Succeeded ↔ attempt = last)

/-- What every call keeps. -/
structure Recorded (db : Db) : Prop where
  known : ∀ attempt ∈ db.outboxAttempts, ∃ event ∈ db.outboxEvents, attempt.Of event ∧
    1 ≤ attempt.attemptNo ∧ attempt.attemptNo ≤ event.attemptCount
  all : ∀ event ∈ db.outboxEvents, ∀ n, 1 ≤ n → n ≤ event.attemptCount →
    ∃ attempt ∈ db.outboxAttempts, attempt.Of event ∧ attempt.attemptNo = n
  tokens : ∀ a ∈ db.outboxAttempts, ∀ b ∈ db.outboxAttempts, a.claimToken = b.claimToken → a = b
  current : ∀ event ∈ db.outboxEvents, ∀ t c lease, event.LeasedTo t c lease →
    ∃ attempt ∈ db.outboxAttempts, attempt.Of event ∧ attempt.attemptNo = event.attemptCount ∧
      attempt.claimToken = t ∧ attempt.consumerId = c
  succeeded : ∀ event ∈ db.outboxEvents, ∀ attempt ∈ db.outboxAttempts, attempt.Of event → attempt.Succeeded →
    event.Succeeded ∧ attempt.attemptNo = event.attemptCount

/-- What a call can break. -/
structure Settled (db : Db) : Prop where
  unfinished : ∀ event ∈ db.outboxEvents, ∀ attempt ∈ db.outboxAttempts, attempt.Of event →
    (attempt.finished = none ↔ ∃ c lease, event.LeasedTo attempt.claimToken c lease)
  succeeded : ∀ event ∈ db.outboxEvents, event.Succeeded →
    ∃ last ∈ db.outboxAttempts, last.Of event ∧ last.attemptNo = event.attemptCount ∧ last.Succeeded

theorem OutboxAttempt.Of.unique {db : Db} {attempt : OutboxAttempt} {a b : OutboxEvent} (ha : attempt.Of a)
    (hb : attempt.Of b) (stored : a ∈ db.outboxEvents) (stored' : b ∈ db.outboxEvents) : a = b :=
  Table.eq_of_key stored stored' (ha.symm.trans hb)

/-- Two attempts of one event with one number are one. -/
theorem OutboxAttempt.Of.eq {db : Db} {a b : OutboxAttempt} {event : OutboxEvent} (ha : a.Of event) (hb : b.Of event)
    (stored : a ∈ db.outboxAttempts) (stored' : b ∈ db.outboxAttempts) (number : a.attemptNo = b.attemptNo) : a = b :=
  Table.eq_of_key stored stored' (Prod.ext (ha.trans hb.symm) number)

theorem Recorded.ledger_iff {db : Db} (recorded : Recorded db) : Ledger db ↔ Settled db := by
  constructor
  · intro ledger
    refine ⟨ledger.unfinished, fun event stored done => ?_⟩
    obtain ⟨last, known, of, number, unique⟩ := (ledger.succeeded event stored).1 done
    exact ⟨last, known, of, number, (unique last known of).2 rfl⟩
  · intro settled
    refine ⟨?_, settled.unfinished, ?_⟩
    · intro event stored n
      constructor
      · rintro ⟨attempt, known, of, rfl⟩
        obtain ⟨event', stored', of', low, high⟩ := recorded.known attempt known
        rw [of'.unique of stored' stored] at high
        exact ⟨low, high⟩
      · rintro ⟨low, high⟩
        exact recorded.all event stored n low high
    · intro event stored
      constructor
      · intro done
        obtain ⟨last, known, of, number, succeeded⟩ := settled.succeeded event stored done
        refine ⟨last, known, of, number, fun attempt known' of' => ⟨fun h => ?_, fun h => h ▸ succeeded⟩⟩
        have number' := (recorded.succeeded event stored attempt known' of' h).2
        exact of'.eq of known' known (number'.trans number.symm)
      · rintro ⟨last, known, of, _, unique⟩
        exact (recorded.succeeded event stored last known of ((unique last known of).2 rfl)).1

/-! ## Every change -/

theorem OutboxEvent.LeasedTo.unique {event : OutboxEvent} {t t' : Uuid} {c c' : String} {lease lease' : Timestamp}
    (h : event.LeasedTo t c lease) (h' : event.LeasedTo t' c' lease') : t = t' ∧ c = c' := by
  have state : event.state = .processing t c lease := h
  have state' : event.state = .processing t' c' lease' := h'
  rw [state] at state'
  cases state'
  exact ⟨rfl, rfl⟩

section Steps

variable {db db' : Db} {row : OutboxEvent → OutboxEvent} {att : OutboxAttempt → OutboxAttempt}
  {made : OutboxEvent → Option OutboxAttempt} {event : OutboxEvent} {attempt : OutboxAttempt}

theorem Recorded.no_attempts (recorded : Recorded db) (absent : db.outboxEvents.get? event.eventId = none)
    (known : attempt ∈ db.outboxAttempts) : ¬ attempt.Of event := by
  intro of
  obtain ⟨other, stored, of', _⟩ := recorded.known attempt known
  exact Table.get?_eq_none.1 absent other stored (of'.symm.trans of)

theorem LedgerStep.of_iff (step : LedgerStep db db' row att made) : (att attempt).Of (row event) ↔ attempt.Of event := by
  unfold OutboxAttempt.Of
  rw [(step.later attempt).eventId, step.eventId]

/-- The attempts of a stored event after the step: later ones of its attempts, or the one that was made for it. -/
theorem LedgerStep.source_of (step : LedgerStep db db' row att made) (stored : event ∈ db.outboxEvents)
    {attempt' : OutboxAttempt} (known : attempt' ∈ db'.outboxAttempts) (of : attempt'.Of (row event)) :
    (∃ attempt ∈ db.outboxAttempts, attempt.Of event ∧ attempt' = att attempt) ∨ attempt' ∈ made event := by
  rcases step.source attempt' known with ⟨attempt, old, rfl⟩ | ⟨other, stored', new⟩
  · exact .inl ⟨attempt, old, step.of_iff.1 of, rfl⟩
  · have of' := (step.claim other stored' attempt' new).1
    rw [of'.unique (of.trans (step.eventId event)) stored' stored] at new
    exact .inr new

/-- There are no attempts of an event that was just enqueued. -/
theorem LedgerStep.none_of_new (step : LedgerStep db db' row att made) (recorded : Recorded db)
    (absent : db.outboxEvents.get? event.eventId = none) {attempt' : OutboxAttempt}
    (known : attempt' ∈ db'.outboxAttempts) : ¬ attempt'.Of event := by
  intro of
  rcases step.source attempt' known with ⟨attempt, old, rfl⟩ | ⟨other, stored, new⟩
  · exact recorded.no_attempts absent old ((step.later attempt).eventId.symm.trans of)
  · exact Table.get?_eq_none.1 absent other stored ((step.claim other stored attempt' new).1.symm.trans of)

theorem LedgerStep.count_of_succeeded (step : LedgerStep db db' row att made) (stored : event ∈ db.outboxEvents)
    (succeeded : (row event).Succeeded) : (row event).attemptCount = event.attemptCount := by
  have count := step.count event stored
  cases new : made event with
  | none =>
    rw [new] at count
    exact count
  | some attempt =>
    obtain ⟨_, _, _, _, leased⟩ := step.claim event stored attempt new
    exact absurd succeeded leased.not_succeeded

/-- The attempt of a lease's token is the event's last. -/
theorem Recorded.current_eq (recorded : Recorded db) (stored : event ∈ db.outboxEvents) {c : String} {lease : Timestamp}
    (leased : event.LeasedTo attempt.claimToken c lease) (known : attempt ∈ db.outboxAttempts) :
    attempt.Of event ∧ attempt.attemptNo = event.attemptCount ∧ attempt.consumerId = c := by
  obtain ⟨current, known', of, number, token, consumer⟩ := recorded.current event stored _ c lease leased
  obtain rfl := recorded.tokens current known' attempt known token
  exact ⟨of, number, consumer⟩

theorem Recorded.step (recorded : Recorded db) (step : LedgerStep db db' row att made) : Recorded db' := by
  refine ⟨?_, ?_, ?_, ?_, ?_⟩
  · intro attempt' known'
    rcases step.source attempt' known' with ⟨attempt, known, rfl⟩ | ⟨event, stored, new⟩
    · obtain ⟨event, stored, of, low, high⟩ := recorded.known attempt known
      have count := step.count event stored
      rw [(step.later attempt).attemptNo]
      exact ⟨_, step.stored event stored, step.of_iff.2 of, low, by omega⟩
    · obtain ⟨of, number, _⟩ := step.claim event stored attempt' new
      have count := step.count event stored
      rw [Option.mem_def.1 new] at count
      refine ⟨_, step.stored event stored, of.trans (step.eventId event).symm, ?_, number.le⟩
      simp only [Option.toList_some, List.length_singleton] at count
      omega
  · intro event' stored' n low high
    rcases step.origin event' stored' with ⟨event, stored, rfl⟩ | ⟨fresh, _⟩
    · by_cases earlier : n ≤ event.attemptCount
      · obtain ⟨attempt, known, of, number⟩ := recorded.all event stored n low earlier
        exact ⟨_, step.kept attempt known, step.of_iff.2 of, (step.later attempt).attemptNo.trans number⟩
      · have count := step.count event stored
        cases new : made event with
        | none =>
          rw [new, Option.toList_none, List.length_nil] at count
          omega
        | some attempt =>
          rw [new, Option.toList_some, List.length_singleton] at count
          obtain ⟨of, number, _⟩ := step.claim event stored attempt new
          exact ⟨attempt, step.added event stored attempt new, of.trans (step.eventId event).symm, by omega⟩
    · rw [fresh.attemptCount] at high
      omega
  · intro a' ha' b' hb' token
    rcases step.source a' ha' with ⟨a, ha, rfl⟩ | ⟨e, he, new⟩
    · rw [(step.later a).claimToken] at token
      rcases step.source b' hb' with ⟨b, hb, rfl⟩ | ⟨f, hf, new'⟩
      · rw [(step.later b).claimToken] at token
        rw [recorded.tokens a ha b hb token]
      · exact absurd token (step.unused f hf b' new' a ha)
    · rcases step.source b' hb' with ⟨b, hb, rfl⟩ | ⟨f, hf, new'⟩
      · rw [(step.later b).claimToken] at token
        exact absurd token.symm (step.unused e he a' new b hb)
      · exact step.distinct e he a' new f hf b' new' token
  · intro event' stored' t c lease leased
    rcases step.origin event' stored' with ⟨event, stored, rfl⟩ | ⟨fresh, _⟩
    · cases new : made event with
      | none =>
        have same := step.leased event stored new t c lease leased
        rw [same] at leased ⊢
        obtain ⟨attempt, known, of, number, token, consumer⟩ := recorded.current event stored t c lease leased
        have later := step.later attempt
        exact ⟨_, step.kept attempt known, later.eventId.trans of, later.attemptNo.trans number,
          later.claimToken.trans token, later.consumerId.trans consumer⟩
      | some attempt =>
        obtain ⟨of, number, _, lease', held⟩ := step.claim event stored attempt new
        obtain ⟨token, consumer⟩ := held.unique leased
        exact ⟨attempt, step.added event stored attempt new, of.trans (step.eventId event).symm, number, token, consumer⟩
    · have state : event'.state = .processing t c lease := leased
      rw [fresh.state] at state
      cases state
  · intro event' stored' attempt' known' of done
    rcases step.origin event' stored' with ⟨event, stored, rfl⟩ | ⟨_, absent⟩
    · rcases step.source_of stored known' of with ⟨attempt, known, ours, rfl⟩ | new
      · rw [(step.later attempt).attemptNo]
        rcases step.succeeds attempt known done with before | ⟨other, stored', lease, leased, succeeded⟩
        · obtain ⟨succeeded, number⟩ := recorded.succeeded event stored attempt known ours before
          rw [step.final event stored succeeded]
          exact ⟨succeeded, number⟩
        · obtain ⟨of', number, _⟩ := recorded.current_eq stored' leased known
          obtain rfl := of'.unique ours stored' stored
          exact ⟨succeeded, number.trans (step.count_of_succeeded stored succeeded).symm⟩
      · obtain ⟨_, finished⟩ := done
        rw [(step.claim event stored attempt' new).2.2.1] at finished
        cases finished
    · exact absurd of (step.none_of_new recorded absent known')

/-- The step closes the attempts whose leases end, and no others. -/
def Closes (db : Db) (row : OutboxEvent → OutboxEvent) (att : OutboxAttempt → OutboxAttempt) : Prop :=
  ∀ event ∈ db.outboxEvents, ∀ attempt ∈ db.outboxAttempts, ∀ c lease, event.LeasedTo attempt.claimToken c lease →
    attempt.finished = none → ((att attempt).finished = none ↔ ∃ c lease, (row event).LeasedTo attempt.claimToken c lease)

/-- **The ledger after a change.** -/
theorem Settled.step_iff (settled : Settled db) (recorded : Recorded db) (step : LedgerStep db db' row att made) :
    Settled db' ↔ Closes db row att := by
  constructor
  · intro settled' event stored attempt known c lease leased _
    have of := (recorded.current_eq stored leased known).1
    have after := settled'.unfinished _ (step.stored event stored) _ (step.kept attempt known) (step.of_iff.2 of)
    rwa [(step.later attempt).claimToken] at after
  · intro closes
    refine ⟨?_, ?_⟩
    · intro event' stored' attempt' known' of'
      rcases step.origin event' stored' with ⟨event, stored, rfl⟩ | ⟨_, absent⟩
      swap
      · exact absurd of' (step.none_of_new recorded absent known')
      rcases step.source_of stored known' of' with ⟨attempt, known, of, rfl⟩ | new
      swap
      · obtain ⟨_, _, opened, lease, leased⟩ := step.claim event stored attempt' new
        exact iff_of_true opened ⟨_, lease, leased⟩
      rw [(step.later attempt).claimToken]
      by_cases opened : attempt.finished = none
      · obtain ⟨c, lease, leased⟩ := (settled.unfinished event stored attempt known of).1 opened
        exact closes event stored attempt known c lease leased opened
      · refine iff_of_false (by rwa [(step.later attempt).finished opened]) ?_
        rintro ⟨c, lease, leased⟩
        cases new : made event with
        | none =>
          rw [step.leased event stored new _ c lease leased] at leased
          exact opened ((settled.unfinished event stored attempt known of).2 ⟨c, lease, leased⟩)
        | some another =>
          obtain ⟨_, _, _, _, held⟩ := step.claim event stored another new
          exact step.unused event stored another new attempt known (leased.unique held).1
    · intro event' stored' done
      rcases step.origin event' stored' with ⟨event, stored, rfl⟩ | ⟨fresh, _⟩
      swap
      · obtain ⟨_, state⟩ := done
        rw [fresh.state] at state
        cases state
      rw [step.count_of_succeeded stored done]
      rcases step.success event stored done with before | ⟨t, c, lease, leased, closed⟩
      · obtain ⟨last, known, of, number, now, finished⟩ := settled.succeeded event stored before
        have later := step.later last
        refine ⟨_, step.kept last known, step.of_iff.2 of, later.attemptNo.trans number, now, ?_⟩
        rw [later.finished (by rw [finished]; exact nofun), finished]
      · obtain ⟨current, known, of, number, token, consumer⟩ := recorded.current event stored t c lease leased
        have opened := (settled.unfinished event stored current known of).2 ⟨c, lease, by rw [token]; exact leased⟩
        exact ⟨_, step.kept current known, step.of_iff.2 of, (step.later current).attemptNo.trans number,
          closed current known token consumer opened⟩

end Steps

/-! ## The calls -/

theorem Recorded.call {db : Db} (recorded : Recorded db) (call : Call) : Recorded (call.step db) := by
  unfold Call.step
  split
  · rename_i ran
    cases Call.ledgerCase ran with
    | claimed _ leased => exact recorded.step leased.ledgerStep
    | quiet step | settled _ _ _ step | slipped _ step => exact recorded.step step
  · exact recorded

theorem recorded_run (calls : List Call) : Recorded (runCalls calls) := by
  refine runCalls_invariant ⟨?_, ?_, ?_, ?_, ?_⟩ fun _ recorded call _ => recorded.call call
  all_goals exact Table.forall_empty

/-- The leases that a claim's first statement sees as expired are the ones that it takes over: by its
third statement, or by the dead-lettering of its second. -/
def Claim.Agrees (c : Claim) (db : Db) : Prop :=
  ∀ event ∈ db.outboxEvents, event.isProcessing = true →
    (event.leaseExpired c.clock.expire = true ↔ event ∈ c.candidates db ∨ event.exhausted c.clock.bury = true)

section Calls

variable {call : Call} {db db' : Db} {event : OutboxEvent} {attempt : OutboxAttempt}

/-- The end of a lease closes its attempt, and no other. -/
theorem closes_settled {event' : OutboxEvent} {t : Uuid} {c : String} {lease now : Timestamp} {outcome : AttemptOutcome}
    {errorCode : Option String} (recorded : Recorded db) (stored : event ∈ db.outboxEvents)
    (leased : event.LeasedTo t c lease) (ending : LeaseEnd event event' outcome) :
    Closes db (replace event event') (closing t c now outcome errorCode) := by
  intro row present attempt known k lease' held opened
  obtain ⟨of, _, consumer⟩ := recorded.current_eq present held known
  unfold replace closing
  by_cases ours : row.eventId = event.eventId
  · rw [Table.eq_of_key present stored ours] at held
    obtain ⟨rfl, rfl⟩ := leased.unique held
    rw [if_pos ours, if_pos ⟨rfl, consumer, opened⟩]
    exact iff_of_false nofun fun ⟨c', lease', leased'⟩ => ending.unleased _ c' lease' leased'
  · rw [if_neg ours, if_neg]
    · exact iff_of_true opened ⟨k, lease', held⟩
    · rintro ⟨rfl, _⟩
      exact ours (of.symm.trans (recorded.current_eq stored leased known).1)

theorem isProcessing_iff : event.isProcessing = true ↔ ∃ t c lease, event.LeasedTo t c lease := by
  unfold OutboxEvent.isProcessing OutboxEvent.LeasedTo
  cases event.state <;> simp

/-- The attempt that holds the lease is closed by the first statement if it sees the lease as expired. -/
theorem attemptAfter_open {c : Claim} {k : String} {lease : Timestamp} (stored : event ∈ db.outboxEvents)
    (of : attempt.Of event) (leased : event.LeasedTo attempt.claimToken k lease) (opened : attempt.finished = none) :
    (c.attemptAfter db attempt).finished = none ↔ ¬ event.leaseExpired c.clock.expire = true := by
  have state : event.state = .processing attempt.claimToken k lease := leased
  have expired : expiredAttempt c.clock.expire db attempt = event.leaseExpired c.clock.expire := by
    rw [Bool.eq_iff_iff, expiredAttempt_iff stored of]
    exact and_iff_left ⟨by simp [OutboxEvent.claimToken, state], opened⟩
  unfold Claim.attemptAfter
  rw [expired]
  cases event.leaseExpired c.clock.expire with
  | true => simp [OutboxAttempt.close]
  | false => simp [opened]

/-- A claim closes the right attempts exactly if its statements agree. -/
theorem closes_claimed {c : Claim} {answer : List ClaimedEvent} {consumer : String} {seconds : Int}
    (settled : Settled db) (recorded : Recorded db) (h : Leased c db answer db' consumer seconds) :
    Closes db (c.rowAfter consumer seconds db) (c.attemptAfter db) ↔ c.Agrees db := by
  have taken : ∀ event ∈ db.outboxEvents, ∀ attempt ∈ db.outboxAttempts, ∀ k lease,
      event.LeasedTo attempt.claimToken k lease →
      ((∃ k lease, (c.rowAfter consumer seconds db event).LeasedTo attempt.claimToken k lease) ↔
        ¬ (event ∈ c.candidates db ∨ event.exhausted c.clock.bury = true)) := by
    intro event stored attempt known k lease leased
    rcases rowAfter_cases c consumer seconds db event with
      ⟨candidate, same⟩ | ⟨_, exhausted, same⟩ | ⟨other, left, same⟩
    · refine iff_of_false ?_ fun neither => neither (.inl candidate)
      rintro ⟨k', lease', held⟩
      have made : _ ∈ c.made consumer seconds db event := Claim.mem_made.2 ⟨candidate, rfl⟩
      obtain ⟨_, _, _, _, leased'⟩ := h.ledgerStep.claim event stored _ made
      exact h.ledgerStep.unused event stored _ made attempt known (held.unique leased').1
    · refine iff_of_false ?_ fun neither => neither (.inr exhausted)
      rw [same]
      rintro ⟨k', lease', ⟨⟩⟩
    · rw [same]
      exact iff_of_true ⟨k, lease, leased⟩ (by simp [other, left])
  constructor
  · intro closes event stored processing
    obtain ⟨t, k, lease, leased⟩ := isProcessing_iff.1 processing
    obtain ⟨current, known, of, _, rfl, _⟩ := recorded.current event stored t k lease leased
    have opened := (settled.unfinished event stored current known of).2 ⟨k, lease, leased⟩
    have closed := closes event stored current known k lease leased opened
    rwa [attemptAfter_open stored of leased opened, taken event stored current known k lease leased, not_iff_not] at closed
  · intro agrees event stored attempt known k lease leased opened
    have of := (recorded.current_eq stored leased known).1
    rw [attemptAfter_open stored of leased opened, taken event stored attempt known k lease leased, not_iff_not]
    exact agrees event stored (isProcessing_iff.2 ⟨_, k, lease, leased⟩)

theorem exec_fail (version : Version) (now : Timestamp) (holder : Holder) (code : Option String)
    (retryAt : Option Timestamp) (db : Db) : (Call.fail version now holder code retryAt).exec db
      = reply .status (failOutboxV0 now holder.eventId holder.token holder.consumer code retryAt db) := by
  cases version <;> rfl

theorem not_settled_of_slip (settled : Settled db) (recorded : Recorded db) (slip : FailSlip call db) :
    ¬ Settled (call.step db) := by
  obtain ⟨version, now, holder, code, retryAt, event, stored, rfl, valid, t, c, lease, leased, identified, token, consumer,
    null⟩ := slip
  have coded : (some code).filter validErrorCode = some code := Option.filter_eq_some_iff.2 ⟨rfl, valid⟩
  obtain ⟨status, failed⟩ := fail_of_guards now retryAt stored leased identified token consumer coded
  obtain ⟨f, hf, outcome, gave, ending, unsuccessful⟩ :=
    giveUp_cases event holder.token holder.consumer code now retryAt db
  have after : (Call.fail version now holder (some code) retryAt).step db = setEvent event.eventId f hf db := by
    unfold Call.step
    rw [exec_fail, failed, gave, finishAttempts_null null]
    rfl
  rw [after, settled.step_iff recorded (slip_step stored leased ending unsuccessful)]
  intro closes
  obtain ⟨current, known, of, _, rfl, _⟩ := recorded.current event stored t c lease leased
  have opened := (settled.unfinished event stored current known of).2 ⟨c, lease, leased⟩
  obtain ⟨c', lease', leased'⟩ := (closes event stored current known c lease leased opened).1 opened
  rw [replace, if_pos rfl] at leased'
  exact ending.unleased _ c' lease' leased'

/-- The condition on a step: a claim that returns takes over the leases it sees as expired, and a failure
report does not pass its guard by a `NULL`. -/
def KeepsLedger (call : Call) (db : Db) : Prop :=
  (∀ version c, call = .claim version c → (∃ reply db', call.exec db = .ok (reply, db')) → c.Agrees db) ∧
    ¬ FailSlip call db

theorem settled_step_iff (settled : Settled db) (recorded : Recorded db) :
    Settled (call.step db) ↔ KeepsLedger call db := by
  constructor
  · intro settled'
    refine ⟨?_, fun slip => not_settled_of_slip settled recorded slip settled'⟩
    rintro version c rfl ⟨reply, db', ran⟩
    rw [Call.step, ran] at settled'
    cases Call.done ran with
    | leased h => exact (closes_claimed settled recorded h).1 ((settled.step_iff recorded h.ledgerStep).1 settled')
  · intro keeps
    unfold Call.step
    split
    · rename_i ran
      cases Call.ledgerCase ran with
      | quiet step =>
        refine (settled.step_iff recorded step).2 fun event stored attempt known c lease leased opened => ?_
        exact iff_of_true opened ⟨c, lease, leased⟩
      | claimed made leased =>
        refine (settled.step_iff recorded leased.ledgerStep).2 ?_
        exact (closes_claimed settled recorded leased).2 (keeps.1 _ _ made ⟨_, _, ran⟩)
      | settled stored leased ending step =>
        exact (settled.step_iff recorded step).2 (closes_settled recorded stored leased ending)
      | slipped slip => exact absurd slip keeps.2
    · exact settled

end Calls

/-- **Ledger integrity.** In any run of any calls the ledger agrees with the events after every step exactly
if every step is a `KeepsLedger` step. -/
theorem ledger_iff_keepsLedger (calls : List Call) :
    (∀ before call after, calls = before ++ call :: after → Ledger (runCalls (before ++ [call]))) ↔
    ∀ before call after, calls = before ++ call :: after → KeepsLedger call (runCalls before) := by
  simp only [runCalls_append]
  show Lockstep.Throughout (fun db call => ((), Call.step db call)) (fun db call => Ledger (call.step db)) .migrated calls
    ↔ Lockstep.Throughout (fun db call => ((), Call.step db call)) (fun db call => KeepsLedger call db) .migrated calls
  refine @Lockstep.throughout_congr _ _ _ _ _ _ _ (fun _ _ => True) _ (fun db => Recorded db ∧ Settled db) ?_ ?_
    ⟨recorded_run [], Table.forall_empty, Table.forall_empty⟩ fun _ _ _ _ => trivial
  · rintro db call ⟨recorded, settled⟩ _ keeps
    have after := recorded.call call
    have kept := (settled_step_iff settled recorded).2 keeps
    exact ⟨after.ledger_iff.2 kept, after, kept⟩
  · rintro db call ⟨recorded, settled⟩ _ ledger
    exact (settled_step_iff settled recorded).1 ((recorded.call call).ledger_iff.1 ledger)

/-- Two events are leased; both leases expire; the next claim has room for one. All clocks only go forward. -/
def overtakenRun : List Call :=
  [sampleEnqueue 1 3, sampleEnqueue 2 3, .claim .v0 (sampleClaim 7 1 ⟨1, 1, 1⟩),
   .claim .v0 (sampleClaim 8 1 ⟨2, 2, 2⟩), .claim .v0 (sampleClaim 9 1 ⟨9000000, 9000001, 9000002⟩)]

/-- The second event is still leased under the token of an attempt that is closed. -/
theorem overtaken_lease_unrecorded : ¬ Ledger (runCalls overtakenRun) := by
  intro ledger
  have closed : ∃ attempt ∈ (runCalls overtakenRun).outboxAttempts.rows, attempt.eventId = sampleUuid 2 ∧
      attempt.claimToken = sampleUuid 8 ∧ attempt.finished = some (9000000, .leaseExpired) := by decide
  have leased : ∃ event ∈ (runCalls overtakenRun).outboxEvents.rows, event.eventId = sampleUuid 2 ∧
      event.state = .processing (sampleUuid 8) "worker" 5000002 := by decide
  obtain ⟨attempt, known, of, token, finished⟩ := closed
  obtain ⟨event, stored, key, state⟩ := leased
  have opened := (ledger.unfinished event stored attempt known (of.trans key.symm)).2
    ⟨"worker", 5000002, by rw [token]; exact state⟩
  rw [opened] at finished
  cases finished

end Liqi.Database
