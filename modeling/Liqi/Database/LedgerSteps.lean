import Liqi.Database.OutboxLease

/-!
# What a call does to events and attempts together

A call turns every event into a later row of it and every attempt into a later one of the same claim; a claim adds the
attempts of the events it leases. `LedgerStep` says what holds of every such change, and `LedgerCase` which changes there
are: nothing (but for a new event), a claim, the end of one lease with its attempt, or the end of a lease whose attempt
stays open because a `NULL` let the report through.
-/

namespace Liqi.Database

open Postgres

/-- The attempt is one of the event's. -/
def OutboxAttempt.Of (attempt : OutboxAttempt) (event : OutboxEvent) : Prop := attempt.eventId = event.eventId

def OutboxAttempt.Succeeded (attempt : OutboxAttempt) : Prop := ∃ now, attempt.finished = some (now, .succeeded)

/-- A failure report that passes its guard because of a `NULL`. -/
def FailSlip (call : Call) (db : Db) : Prop :=
  ∃ version now holder code retryAt, ∃ event ∈ db.outboxEvents, call = .fail version now holder (some code) retryAt ∧
    validErrorCode code = true ∧ holder.SlipsPast event

/-- An attempt before and after a step: of one claim, and closed once. -/
structure OutboxAttempt.Later (a b : OutboxAttempt) : Prop where
  eventId : b.eventId = a.eventId
  attemptNo : b.attemptNo = a.attemptNo
  claimToken : b.claimToken = a.claimToken
  consumerId : b.consumerId = a.consumerId
  finished : a.finished ≠ none → b.finished = a.finished

theorem OutboxAttempt.Later.refl (a : OutboxAttempt) : a.Later a := ⟨rfl, rfl, rfl, rfl, fun _ => rfl⟩

theorem OutboxAttempt.Later.close {a : OutboxAttempt} (opened : a.finished = none) (now : Timestamp)
    (outcome : AttemptOutcome) (errorCode : Option String) : a.Later (a.close now outcome errorCode) :=
  ⟨rfl, rfl, rfl, rfl, fun closed => absurd opened closed⟩

/-- A change of the events and their attempts: what becomes of a row and of an attempt, and the attempt that is made for
an event. -/
structure LedgerStep (db db' : Db) (row : OutboxEvent → OutboxEvent) (att : OutboxAttempt → OutboxAttempt)
    (made : OutboxEvent → Option OutboxAttempt) : Prop where
  stored : ∀ event ∈ db.outboxEvents, row event ∈ db'.outboxEvents
  origin : ∀ event' ∈ db'.outboxEvents, (∃ event ∈ db.outboxEvents, event' = row event) ∨
    (Unclaimed event' ∧ db.outboxEvents.get? event'.eventId = none)
  kept : ∀ attempt ∈ db.outboxAttempts, att attempt ∈ db'.outboxAttempts
  added : ∀ event ∈ db.outboxEvents, ∀ attempt ∈ made event, attempt ∈ db'.outboxAttempts
  source : ∀ attempt' ∈ db'.outboxAttempts, (∃ attempt ∈ db.outboxAttempts, attempt' = att attempt) ∨
    ∃ event ∈ db.outboxEvents, attempt' ∈ made event
  eventId : ∀ event, (row event).eventId = event.eventId
  later : ∀ attempt : OutboxAttempt, attempt.Later (att attempt)
  /-- An attempt is made with the next number and a new token, open, and for the lease that the event then has. -/
  count : ∀ event ∈ db.outboxEvents, (row event).attemptCount = event.attemptCount + (made event).toList.length
  claim : ∀ event ∈ db.outboxEvents, ∀ attempt ∈ made event, attempt.Of event ∧
    attempt.attemptNo = (row event).attemptCount ∧ attempt.finished = none ∧
    ∃ lease, (row event).LeasedTo attempt.claimToken attempt.consumerId lease
  unused : ∀ event ∈ db.outboxEvents, ∀ attempt ∈ made event, ∀ other ∈ db.outboxAttempts,
    other.claimToken ≠ attempt.claimToken
  distinct : ∀ event ∈ db.outboxEvents, ∀ attempt ∈ made event, ∀ other ∈ db.outboxEvents, ∀ another ∈ made other,
    attempt.claimToken = another.claimToken → attempt = another
  /-- Other leases are kept as they are or end, and success is final. -/
  leased : ∀ event ∈ db.outboxEvents, made event = none → ∀ t c lease, (row event).LeasedTo t c lease → row event = event
  final : ∀ event ∈ db.outboxEvents, event.Succeeded → row event = event
  /-- An event succeeds with the attempt that holds its lease. -/
  success : ∀ event ∈ db.outboxEvents, (row event).Succeeded → event.Succeeded ∨ ∃ t c lease, event.LeasedTo t c lease ∧
    ∀ attempt ∈ db.outboxAttempts, attempt.claimToken = t → attempt.consumerId = c → attempt.finished = none →
      (att attempt).Succeeded
  succeeds : ∀ attempt ∈ db.outboxAttempts, (att attempt).Succeeded → attempt.Succeeded ∨ ∃ event ∈ db.outboxEvents,
    ∃ lease, event.LeasedTo attempt.claimToken attempt.consumerId lease ∧ (row event).Succeeded

/-! ## The end of a lease -/

section Ended

/-- How a lease ends: what becomes of the event, and with which outcome the attempt is closed. -/
structure LeaseEnd (event event' : OutboxEvent) (outcome : AttemptOutcome) : Prop where
  eventId : event'.eventId = event.eventId
  attemptCount : event'.attemptCount = event.attemptCount
  unleased : ∀ t c lease, ¬ event'.LeasedTo t c lease
  succeeded : event'.Succeeded ↔ outcome = .succeeded

theorem LeaseEnd.succeed (event : OutboxEvent) (now : Timestamp) : LeaseEnd event (event.succeed now) .succeeded :=
  ⟨rfl, rfl, nofun, by simp [OutboxEvent.Succeeded, OutboxEvent.succeed]⟩

/-- The event's row is replaced. -/
def replace (event event' row : OutboxEvent) : OutboxEvent := if row.eventId = event.eventId then event' else row

/-- The open attempt of the claim is closed. -/
def closing (t : Uuid) (c : String) (now : Timestamp) (outcome : AttemptOutcome) (errorCode : Option String)
    (attempt : OutboxAttempt) : OutboxAttempt :=
  if attempt.claimToken = t ∧ attempt.consumerId = c ∧ attempt.finished = none then attempt.close now outcome errorCode
  else attempt

variable {db : Db} {event event' : OutboxEvent} {f : OutboxEvent → OutboxEvent}
  {hf : ∀ row, (f row).eventId = row.eventId} {t : Uuid} {c : String} {lease now : Timestamp} {outcome : AttemptOutcome}
  {errorCode : Option String}

theorem OutboxEvent.LeasedTo.not_succeeded (leased : event.LeasedTo t c lease) : ¬ event.Succeeded :=
  fun succeeded => leased.not_terminal succeeded.terminal

theorem mem_setEvent {row' : OutboxEvent} (stored : event ∈ db.outboxEvents) :
    row' ∈ (setEvent event.eventId f hf db).outboxEvents ↔ ∃ row ∈ db.outboxEvents, row' = replace event (f event) row := by
  unfold setEvent replace
  rw [Table.mem_update]
  refine exists_congr fun row => and_congr_right fun present => ?_
  by_cases same : row.eventId = event.eventId
  · obtain rfl := Table.eq_of_key present stored same
    simp
  · simp [same]

theorem mem_finishAttempts {attempt' : OutboxAttempt} :
    attempt' ∈ (finishAttempts (some t) (some c) now outcome errorCode db).outboxAttempts ↔
      ∃ attempt ∈ db.outboxAttempts, attempt' = closing t c now outcome errorCode attempt := by
  unfold finishAttempts closing
  rw [Table.mem_update]
  refine exists_congr fun attempt => and_congr_right fun _ => ?_
  have guard : (((sqlEq (some attempt.claimToken) (some t)).and (sqlEq (some attempt.consumerId) (some c))).holds
      && attempt.finished.isNone) = true
      ↔ attempt.claimToken = t ∧ attempt.consumerId = c ∧ attempt.finished = none := by
    simp only [Truth.holds_and, Bool.and_eq_true, sqlEq_holds, Option.isNone_iff_eq_none, Option.some.injEq,
      exists_eq_left', and_assoc, eq_comm (a := t), eq_comm (a := c)]
  rw [if_congr guard rfl rfl]

/-- With a `NULL` there is nothing to close. -/
theorem finishAttempts_null {token : Option Uuid} {consumer : Option String} (null : token = none ∨ consumer = none) :
    finishAttempts token consumer now outcome errorCode db = db := by
  unfold finishAttempts
  rw [Table.update_of_none]
  intro attempt _
  rcases null with rfl | rfl
  · simp [sqlEq_holds]
  · simp [sqlEq_holds]

/-- One lease ends; its attempts succeed if the event does. -/
theorem LedgerStep.ended {db' : Db} {att : OutboxAttempt → OutboxAttempt} (stored : event ∈ db.outboxEvents)
    (leased : event.LeasedTo t c lease) (ending : LeaseEnd event event' outcome)
    (rows : ∀ row', row' ∈ db'.outboxEvents ↔ ∃ row ∈ db.outboxEvents, row' = replace event event' row)
    (members : ∀ attempt', attempt' ∈ db'.outboxAttempts ↔ ∃ attempt ∈ db.outboxAttempts, attempt' = att attempt)
    (later : ∀ attempt : OutboxAttempt, attempt.Later (att attempt))
    (success : event'.Succeeded → ∀ attempt : OutboxAttempt, attempt.claimToken = t → attempt.consumerId = c →
      attempt.finished = none → (att attempt).Succeeded)
    (succeeds : ∀ attempt : OutboxAttempt, (att attempt).Succeeded →
      attempt.Succeeded ∨ (attempt.claimToken = t ∧ attempt.consumerId = c ∧ event'.Succeeded)) :
    LedgerStep db db' (replace event event') att fun _ => none where
  stored row present := (rows _).2 ⟨row, present, rfl⟩
  origin row' present := .inl ((rows row').1 present)
  kept attempt known := (members _).2 ⟨attempt, known, rfl⟩
  added _ _ _ made := absurd made (Option.not_mem_none _)
  source attempt' known := .inl ((members attempt').1 known)
  eventId row := by
    unfold replace
    split_ifs with same
    · exact ending.eventId.trans same.symm
    · rfl
  later := later
  count row present := by
    unfold replace
    split_ifs with same
    · rw [Table.eq_of_key present stored same]
      exact ending.attemptCount
    · rfl
  claim _ _ _ made := absurd made (Option.not_mem_none _)
  unused _ _ _ made := absurd made (Option.not_mem_none _)
  distinct _ _ _ made := absurd made (Option.not_mem_none _)
  leased row present _ t c lease held := by
    unfold replace at held ⊢
    split_ifs at held ⊢
    · exact absurd held (ending.unleased t c lease)
    · rfl
  final row present succeeded := by
    refine if_neg fun same => ?_
    rw [Table.eq_of_key present stored same] at succeeded
    exact leased.not_succeeded succeeded
  success row present succeeded := by
    unfold replace at succeeded
    split_ifs at succeeded with same
    · rw [Table.eq_of_key present stored same]
      exact .inr ⟨t, c, lease, leased, fun attempt _ => success succeeded attempt⟩
    · exact .inl succeeded
  succeeds attempt known succeeded := by
    refine (succeeds attempt succeeded).imp_right ?_
    rintro ⟨rfl, rfl, done⟩
    exact ⟨event, stored, lease, leased, by rwa [replace, if_pos rfl]⟩

theorem closing_later (attempt : OutboxAttempt) : attempt.Later (closing t c now outcome errorCode attempt) := by
  unfold closing
  split_ifs with current
  · exact .close current.2.2 now outcome errorCode
  · exact .refl attempt

/-- The lease ends, and its attempt is closed. -/
theorem endLease_step (stored : event ∈ db.outboxEvents) (leased : event.LeasedTo t c lease)
    (ending : LeaseEnd event (f event) outcome) :
    LedgerStep db (finishAttempts (some t) (some c) now outcome errorCode (setEvent event.eventId f hf db))
      (replace event (f event)) (closing t c now outcome errorCode) fun _ => none := by
  refine .ended stored leased ending (fun _ => @mem_setEvent db event f hf _ stored) (fun _ => mem_finishAttempts)
    closing_later ?_ ?_
  · intro succeeded attempt token consumer opened
    rw [closing, if_pos ⟨token, consumer, opened⟩, ending.succeeded.1 succeeded]
    exact ⟨now, rfl⟩
  · rintro attempt ⟨at', finished⟩
    unfold closing at finished
    split_ifs at finished with current
    · cases finished
      exact .inr ⟨current.1, current.2.1, ending.succeeded.2 rfl⟩
    · exact .inl ⟨at', finished⟩

/-- The lease ends without success, and its attempt stays as it is. -/
theorem slip_step (stored : event ∈ db.outboxEvents) (leased : event.LeasedTo t c lease)
    (ending : LeaseEnd event (f event) outcome) (failed : outcome ≠ .succeeded) :
    LedgerStep db (setEvent event.eventId f hf db) (replace event (f event)) id fun _ => none :=
  .ended stored leased ending (fun _ => mem_setEvent stored) (fun _ => by simp [setEvent]) .refl
    (fun succeeded => absurd (ending.succeeded.1 succeeded) failed) fun _ => .inl

/-- Both ways in which a failure report ends a lease. -/
theorem giveUp_cases (event : OutboxEvent) (token : Option Uuid) (consumer : Option String) (code : String)
    (now : Timestamp) (retryAt : Option Timestamp) (db : Db) :
    ∃ f hf outcome, giveUp event token consumer code now retryAt db
        = finishAttempts token consumer now outcome (some code) (setEvent event.eventId f hf db)
      ∧ LeaseEnd event (f event) outcome ∧ outcome ≠ .succeeded := by
  unfold giveUp
  split
  · exact ⟨_, OutboxEvent.reject_eventId code now, .deadLetter, rfl,
      ⟨rfl, rfl, fun _ _ _ leased => (by cases leased), by simp [OutboxEvent.Succeeded, OutboxEvent.reject]⟩, by decide⟩
  · exact ⟨_, OutboxEvent.reschedule_eventId code now retryAt, .retry, rfl,
      ⟨rfl, rfl, fun _ _ _ leased => (by cases leased), by simp [OutboxEvent.Succeeded, OutboxEvent.reschedule]⟩, by decide⟩

end Ended

/-! ## Claims -/

section Claimed

variable {c : Claim} {db db' : Db} {answer : List ClaimedEvent} {consumer : String} {seconds : Int}
  {event : OutboxEvent} {attempt attempt' : OutboxAttempt}

/-- An attempt after the first statement of a claim. -/
def Claim.attemptAfter (c : Claim) (db : Db) (attempt : OutboxAttempt) : OutboxAttempt :=
  if expiredAttempt c.clock.expire db attempt then attempt.close c.clock.expire .leaseExpired none else attempt

/-- The attempt that a claim makes for an event. -/
def Claim.made (c : Claim) (consumer : String) (seconds : Int) (db : Db) (event : OutboxEvent) : Option OutboxAttempt :=
  if event ∈ c.candidates db then some (c.attempt consumer seconds event) else none

theorem Claim.mem_made : attempt ∈ c.made consumer seconds db event ↔
    event ∈ c.candidates db ∧ attempt = c.attempt consumer seconds event := by
  unfold Claim.made
  split_ifs with candidate <;> simp [candidate, eq_comm]

theorem expiredAttempt_iff {now : Timestamp} (stored : event ∈ db.outboxEvents) (of : attempt.Of event) :
    expiredAttempt now db attempt = true ↔
      event.leaseExpired now = true ∧ event.claimToken = some attempt.claimToken ∧ attempt.finished = none := by
  have found : db.outboxEvents.get? attempt.eventId = some event := Table.get?_eq_some.2 ⟨stored, of.symm⟩
  unfold expiredAttempt
  rw [found]
  simp [and_assoc]

theorem Claim.attemptAfter_later (c : Claim) (db : Db) (attempt : OutboxAttempt) : attempt.Later (c.attemptAfter db attempt) := by
  unfold Claim.attemptAfter expiredAttempt
  split_ifs with expired
  · refine .close ?_ c.clock.expire .leaseExpired none
    split at expired
    · simp only [Bool.and_eq_true, Option.isNone_iff_eq_none] at expired
      exact expired.2
    · cases expired
  · exact .refl attempt

/-- The new attempts have new numbers and new tokens. -/
theorem Leased.fresh (h : Leased c db answer db' consumer seconds) :
    (∀ event ∈ c.candidates db, (c.swept db).outboxAttempts.get? (c.attempt consumer seconds event).key = none) ∧
    (∀ event ∈ c.candidates db, ∀ attempt ∈ (c.swept db).outboxAttempts, attempt.claimToken ≠ c.token event.eventId) ∧
    ((c.candidates db).map fun event => c.token event.eventId).Nodup := by
  have distinct := h.distinct
  unfold attemptsClash at distinct
  simp only [Bool.or_eq_false_iff, List.any_eq_false, Bool.not_eq_false', decide_eq_true_eq, List.map_map,
    List.mem_map, forall_exists_index, and_imp, forall_apply_eq_imp_iff₂, Bool.or_eq_true, not_or,
    Option.isSome_iff_ne_none, ne_eq, not_not] at distinct
  obtain ⟨each, tokens⟩ := distinct
  refine ⟨fun event h => (each event h).1, fun event h attempt known => ?_, tokens⟩
  exact fun same => (each event h).2 (List.any_eq_true.2 ⟨attempt, known, decide_eq_true same⟩)

theorem mem_swept_attempts :
    attempt' ∈ (c.swept db).outboxAttempts ↔ ∃ attempt ∈ db.outboxAttempts, attempt' = c.attemptAfter db attempt := by
  have swept : (c.swept db).outboxAttempts = db.outboxAttempts.update (expiredAttempt c.clock.expire db)
      (OutboxAttempt.close c.clock.expire .leaseExpired none)
      (OutboxAttempt.close_key c.clock.expire .leaseExpired none) := rfl
  rw [swept, Table.mem_update]
  rfl

theorem Leased.mem_attempts (h : Leased c db answer db' consumer seconds) :
    attempt' ∈ db'.outboxAttempts ↔ (∃ attempt ∈ db.outboxAttempts, attempt' = c.attemptAfter db attempt) ∨
      ∃ event ∈ c.candidates db, attempt' = c.attempt consumer seconds event := by
  obtain ⟨keys, _, tokens⟩ := h.fresh
  have attempts : db'.outboxAttempts
      = (c.swept db).outboxAttempts.insertAll ((c.candidates db).map (c.attempt consumer seconds)) := by
    rw [h.after]
    rfl
  have absent : ∀ attempt ∈ (c.candidates db).map (c.attempt consumer seconds),
      (c.swept db).outboxAttempts.get? attempt.key = none := by
    intro attempt made
    obtain ⟨event, candidate, rfl⟩ := List.mem_map.1 made
    exact keys event candidate
  have distinct : (((c.candidates db).map (c.attempt consumer seconds)).map OutboxAttempt.key).Nodup := by
    refine List.Nodup.of_map (fun k : Uuid × Nat => c.token k.1) ?_
    rw [List.map_map, List.map_map]
    exact tokens
  rw [attempts, Table.mem_insertAll absent distinct, mem_swept_attempts, List.mem_map]
  simp only [eq_comm]

theorem rowAfter_cases (c : Claim) (consumer : String) (seconds : Int) (db : Db) (event : OutboxEvent) :
    (event ∈ c.candidates db ∧ c.rowAfter consumer seconds db event = c.leased consumer seconds event)
      ∨ (event ∉ c.candidates db ∧ event.exhausted c.clock.bury = true
        ∧ c.rowAfter consumer seconds db event = event.bury c.clock.bury)
      ∨ (event ∉ c.candidates db ∧ event.exhausted c.clock.bury = false ∧ c.rowAfter consumer seconds db event = event) := by
  unfold Claim.rowAfter
  split_ifs with candidate exhausted
  · exact .inl ⟨candidate, rfl⟩
  · exact .inr (.inl ⟨candidate, exhausted, rfl⟩)
  · exact .inr (.inr ⟨candidate, by simpa using exhausted, rfl⟩)

theorem Leased.ledgerStep (h : Leased c db answer db' consumer seconds) :
    LedgerStep db db' (c.rowAfter consumer seconds db) (c.attemptAfter db) (c.made consumer seconds db) where
  stored event stored := h.mem_iff.2 ⟨event, stored, rfl⟩
  origin event' stored := .inl (h.mem_iff.1 stored)
  kept attempt known := h.mem_attempts.2 (.inl ⟨attempt, known, rfl⟩)
  added event _ attempt made := h.mem_attempts.2 (.inr ⟨event, Claim.mem_made.1 made⟩)
  source attempt' known := by
    refine (h.mem_attempts.1 known).imp_right ?_
    rintro ⟨event, candidate, rfl⟩
    exact ⟨event, mem_of_candidate candidate, Claim.mem_made.2 ⟨candidate, rfl⟩⟩
  eventId event := by
    rcases rowAfter_cases c consumer seconds db event with ⟨_, same⟩ | ⟨_, _, same⟩ | ⟨_, _, same⟩ <;> rw [same] <;> rfl
  later := c.attemptAfter_later db
  count event _ := by
    unfold Claim.made
    rcases rowAfter_cases c consumer seconds db event with ⟨candidate, same⟩ | ⟨other, _, same⟩ | ⟨other, _, same⟩
    · rw [same, if_pos candidate]
      rfl
    · rw [same, if_neg other]
      rfl
    · rw [same, if_neg other]
      rfl
  claim event _ attempt made := by
    obtain ⟨candidate, rfl⟩ := Claim.mem_made.1 made
    rw [Claim.rowAfter, if_pos candidate]
    exact ⟨rfl, rfl, rfl, _, rfl⟩
  unused event _ attempt made other known same := by
    obtain ⟨candidate, rfl⟩ := Claim.mem_made.1 made
    exact h.fresh.2.1 event candidate _ (mem_swept_attempts.2 ⟨other, known, rfl⟩)
      ((c.attemptAfter_later db other).claimToken.trans same)
  distinct event _ attempt made other _ another made' same := by
    obtain ⟨candidate, rfl⟩ := Claim.mem_made.1 made
    obtain ⟨candidate', rfl⟩ := Claim.mem_made.1 made'
    rw [List.inj_on_of_nodup_map h.fresh.2.2 candidate candidate' same]
  leased event _ unmade t k lease held := by
    rcases rowAfter_cases c consumer seconds db event with ⟨candidate, _⟩ | ⟨_, _, same⟩ | ⟨_, _, same⟩
    · rw [Claim.made, if_pos candidate] at unmade
      cases unmade
    · rw [same] at held
      cases held
    · exact same
  final event _ succeeded := by
    rcases rowAfter_cases c consumer seconds db event with ⟨candidate, _⟩ | ⟨_, exhausted, _⟩ | ⟨_, _, same⟩
    · exact absurd succeeded.terminal (not_terminal_of_claimable (mem_candidates candidate).2)
    · exact absurd succeeded.terminal (not_terminal_of_exhausted exhausted)
    · exact same
  success event _ succeeded := by
    rcases rowAfter_cases c consumer seconds db event with ⟨_, same⟩ | ⟨_, _, same⟩ | ⟨_, _, same⟩
    all_goals rw [same] at succeeded
    · exact nomatch succeeded.choose_spec
    · exact nomatch succeeded.choose_spec
    · exact .inl succeeded
  succeeds attempt _ succeeded := by
    obtain ⟨now, finished⟩ := succeeded
    unfold Claim.attemptAfter at finished
    split_ifs at finished
    · cases finished
    · exact .inl ⟨now, finished⟩

end Claimed

/-! ## Every call -/

section Cases

/-- What a call can do to the events and their attempts. -/
inductive LedgerCase (call : Call) (db db' : Db) : Prop where
  | quiet (step : LedgerStep db db' id id fun _ => none)
  | claimed {version : Version} {c : Claim} {answer : List ClaimedEvent} {consumer : String} {seconds : Int}
      (made : call = .claim version c) (leased : Leased c db answer db' consumer seconds)
  | settled {event event' : OutboxEvent} {t : Uuid} {c : String} {lease now : Timestamp} {outcome : AttemptOutcome}
      {errorCode : Option String} (stored : event ∈ db.outboxEvents) (leased : event.LeasedTo t c lease)
      (ending : LeaseEnd event event' outcome)
      (step : LedgerStep db db' (replace event event') (closing t c now outcome errorCode) fun _ => none)
  | slipped {row : OutboxEvent → OutboxEvent} (slip : FailSlip call db) (step : LedgerStep db db' row id fun _ => none)

variable {call : Call} {db db' db₁ : Db}

/-- Nothing but a new event. -/
theorem LedgerCase.of_new (attempts : db'.outboxAttempts = db.outboxAttempts)
    (kept : ∀ event ∈ db.outboxEvents, event ∈ db'.outboxEvents)
    (new : ∀ event ∈ db'.outboxEvents, event ∈ db.outboxEvents ∨
      (Unclaimed event ∧ db.outboxEvents.get? event.eventId = none)) : LedgerCase call db db' := by
  refine .quiet
    { stored := kept, origin := fun event stored => (new event stored).imp_left fun old => ⟨event, old, rfl⟩,
      kept := ?_, added := fun _ _ _ made => absurd made (Option.not_mem_none _), source := ?_, eventId := fun _ => rfl,
      later := .refl, count := fun _ _ => rfl, claim := fun _ _ _ made => absurd made (Option.not_mem_none _),
      unused := fun _ _ _ made => absurd made (Option.not_mem_none _),
      distinct := fun _ _ _ made => absurd made (Option.not_mem_none _), leased := fun _ _ _ _ _ _ _ => rfl,
      final := fun _ _ _ => rfl, success := fun _ _ => .inl, succeeds := fun _ _ => .inl }
  · intro attempt known
    rw [attempts]
    exact known
  · intro attempt known
    rw [attempts] at known
    exact .inl ⟨attempt, known, rfl⟩

theorem LedgerCase.of_same (attempts : db'.outboxAttempts = db.outboxAttempts)
    (events : db'.outboxEvents = db.outboxEvents) : LedgerCase call db db' :=
  .of_new attempts (fun event stored => by rwa [events]) fun event stored => .inl (by rwa [events] at stored)

/-- A change depends on the two tables only. -/
theorem LedgerStep.congr {row : OutboxEvent → OutboxEvent} {att : OutboxAttempt → OutboxAttempt}
    {made : OutboxEvent → Option OutboxAttempt} (step : LedgerStep db₁ db' row att made)
    (events : db₁.outboxEvents = db.outboxEvents) (attempts : db₁.outboxAttempts = db.outboxAttempts) :
    LedgerStep db db' row att made := by
  obtain ⟨⟩ := db
  obtain ⟨⟩ := db₁
  cases events
  cases attempts
  exact { step with }

theorem Enqueued.ledgerCase {row : OutboxEvent} (h : Enqueued row db db') (fresh : Unclaimed row) {db₁ db₂ : Db}
    (before : db.outboxEvents = db₁.outboxEvents ∧ db.outboxAttempts = db₁.outboxAttempts)
    (after : db₂.outboxEvents = db'.outboxEvents ∧ db₂.outboxAttempts = db'.outboxAttempts) :
    LedgerCase call db₁ db₂ := by
  cases h with
  | stored => exact .of_same (after.2.trans before.2) (after.1.trans before.1)
  | inserted absent =>
    have events : db₂.outboxEvents = db₁.outboxEvents.insert row := by rw [after.1, before.1]
    rw [before.1] at absent
    refine .of_new (after.2.trans before.2) ?_ ?_
    · intro event stored
      rw [events]
      exact Table.mem_insert_of_mem stored
    · intro event stored
      rw [events] at stored
      rcases (Table.mem_insert absent).1 stored with old | rfl
      · exact .inl old
      · exact .inr ⟨fresh, absent⟩

variable {version : Version} {now : Timestamp}

theorem Published.outboxAttempts {eventId : Uuid} {id : Nat} (h : Published version now eventId db id db') :
    db'.outboxAttempts = db.outboxAttempts := by
  cases h with
  | already => rfl
  | appended => exact Db.outboxAttempts_setHandoff _ _ _

theorem ProbeStored.outboxAttempts {state : ProbeState} (h : ProbeStored state db db') :
    db'.outboxAttempts = db.outboxAttempts := by
  cases h <;> rfl

theorem ack_ledgerCase {eventId token : Option Uuid} {consumer : Option String} {status : OutboxStatus}
    (events : db₁.outboxEvents = db.outboxEvents) (attempts : db₁.outboxAttempts = db.outboxAttempts)
    (acked : ackOutboxV0 now eventId token consumer db₁ = (status, db')) : LedgerCase call db db' := by
  rcases ack_cases now eventId token consumer db₁ with ⟨same, _⟩ | ⟨event, t, c, lease, stored, leased, _, _, _, done⟩
  · rw [acked] at same
    subst same
    exact .of_same attempts events
  · rw [acked] at done
    cases done
    have ending := LeaseEnd.succeed event now
    exact .settled (events ▸ stored) leased ending ((endLease_step stored leased ending).congr events attempts)

theorem fail_ledgerCase {holder : Holder} {code : Option String} {retryAt : Option Timestamp} {status : OutboxStatus}
    (failed : failOutboxV0 now holder.eventId holder.token holder.consumer code retryAt db = .ok (status, db')) :
    LedgerCase (.fail version now holder code retryAt) db db' := by
  rcases fail_cases failed with rfl | ⟨event, t, c, lease, code, stored, leased, identified, token, consumer, coded, after, _⟩
  · exact .of_same rfl rfl
  · obtain ⟨rfl, valid⟩ := Option.filter_eq_some_iff.1 coded
    obtain ⟨f, hf, outcome, gave, ending, unsuccessful⟩ :=
      giveUp_cases event holder.token holder.consumer code now retryAt db
    rw [after, gave]
    by_cases null : holder.token = none ∨ holder.consumer = none
    · rw [finishAttempts_null null]
      refine .slipped ?_ (slip_step stored leased ending unsuccessful)
      exact ⟨version, now, holder, code, retryAt, event, stored, rfl, valid, t, c, lease, leased, identified, token,
        consumer, null⟩
    · rw [token.resolve_left fun h => null (.inl h), consumer.resolve_left fun h => null (.inr h)]
      exact .settled stored leased ending (endLease_step stored leased ending)

theorem effect_outboxAttempts {row : ProbeEffect} {probeId : Uuid} (effect : insertEffect row db = .ok db₁) :
    (completeProbe probeId now db₁).outboxAttempts = db.outboxAttempts := by
  rcases insertEffect_cases effect with ⟨rfl, _⟩ | ⟨_, _, _, rfl⟩ <;> rfl

theorem ProbeRequested.ledgerCase {state : ProbeState} {row : OutboxEvent} {id : Nat} {db₂ db₃ : Db}
    (h : ProbeRequested version now state row id db db₁ db₂ db₃ db') : LedgerCase call db db' := by
  obtain ⟨_, _, fresh⟩ := h.fresh
  refine h.event.ledgerCase fresh.unclaimed ⟨h.probe.outboxEvents, h.probe.outboxAttempts⟩ ?_
  rw [h.after]
  exact ⟨h.handoff.outboxEvents, h.handoff.outboxAttempts⟩

theorem Call.ledgerCase {r : Reply} (ran : call.exec db = .ok (r, db')) : LedgerCase call db db' := by
  cases Call.done ran with
  | enqueuedV0 drafted event | enqueuedV1 drafted event =>
    exact event.ledgerCase (EventDraft.fresh_row drafted).unclaimed ⟨rfl, rfl⟩ ⟨rfl, rfl⟩
  | published handoff => exact .of_same handoff.outboxAttempts handoff.outboxEvents
  | requestedV0 h | created _ h => exact h.request.ledgerCase
  | repeated => exact .of_same rfl rfl
  | leased h => exact .claimed rfl h
  | acked h => exact ack_ledgerCase rfl rfl h
  | failed h => exact fail_ledgerCase h
  | applied h =>
    rcases apply_cases h with ⟨rfl, _⟩ | ⟨_, _, _, _, probeId, db₁, passed, acked⟩
    · exact .of_same rfl rfl
    · exact ack_ledgerCase (effect_outboxEvents passed.effect) (effect_outboxAttempts passed.effect) acked.symm
  | pruned => exact .of_same rfl rfl

end Cases

end Liqi.Database
