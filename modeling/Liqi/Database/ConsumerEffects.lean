import Liqi.Database.Probe

/-!
# What the consumer functions do

One inversion lemma per function: a call that returns has either left the database alone, or made
the one change named here. The guards appear as the facts they establish about the event's row.
-/

namespace Liqi.Database

open Postgres

/-- The event is leased under `token` to `consumer` until `lease`. -/
def OutboxEvent.LeasedTo (event : OutboxEvent) (token : Uuid) (consumer : String) (lease : Timestamp) : Prop :=
  event.state = .processing token consumer lease

variable {event : OutboxEvent}

theorem heldBy_iff {token : Option Uuid} {consumer : Option String} :
    event.heldBy token consumer = true ↔
      ∃ t c lease, event.LeasedTo t c lease ∧ token = some t ∧ consumer = some c := by
  unfold OutboxEvent.heldBy OutboxEvent.LeasedTo
  simp only [Truth.holds_and, Truth.holds_some, Bool.and_eq_true, sqlEq_holds]
  cases h : event.state with
  | processing t c lease => simp [OutboxEvent.isProcessing, OutboxEvent.claimToken, OutboxEvent.claimedBy, h]
  | pending | succeeded | deadLetter => simp [OutboxEvent.isProcessing, h]

/-- The inequality guard lets a holder through, and `NULL` in either place. -/
theorem not_staleFor_iff {token : Option Uuid} {consumer : Option String} :
    event.staleFor token consumer = false ↔
      ∃ t c lease, event.LeasedTo t c lease ∧ (token = none ∨ token = some t) ∧ (consumer = none ∨ consumer = some c) := by
  unfold OutboxEvent.staleFor OutboxEvent.LeasedTo
  simp only [Truth.holds_or, Truth.holds_some, Bool.or_eq_false_iff]
  cases h : event.state with
  | processing t c lease =>
    simp [OutboxEvent.isProcessing, OutboxEvent.claimToken, OutboxEvent.claimedBy, h, not_sqlNe_some]
  | pending | succeeded | deadLetter => simp [OutboxEvent.isProcessing, h]

variable {db : Db}

/-- An event found by a nullable id. -/
theorem found_iff {eventId : Option Uuid} :
    eventId.bind db.outboxEvents.get? = some event ↔ eventId = some event.eventId ∧ event ∈ db.outboxEvents := by
  cases eventId with
  | none => simp
  | some id =>
    simp only [Option.bind_some, Table.get?_eq_some, Option.some.injEq]
    rw [and_comm, eq_comm]

/-- An acknowledgement by the holder. -/
def acknowledge (event : OutboxEvent) (token : Uuid) (consumer : String) (now : Timestamp) (db : Db) : Db :=
  finishAttempts (some token) (some consumer) now .succeeded none
    (setEvent event.eventId (OutboxEvent.succeed now) (OutboxEvent.succeed_eventId now) db)

theorem ack_cases (now : Timestamp) (eventId token : Option Uuid) (consumer : Option String) (db : Db) :
    ((ackOutboxV0 now eventId token consumer db).2 = db ∧
      (ackOutboxV0 now eventId token consumer db).1 ≠ .acked) ∨
    ∃ event t c lease, event ∈ db.outboxEvents ∧ event.LeasedTo t c lease ∧ eventId = some event.eventId ∧
      token = some t ∧ consumer = some c ∧
      ackOutboxV0 now eventId token consumer db = (.acked, acknowledge event t c now db) := by
  unfold ackOutboxV0
  rcases found : eventId.bind db.outboxEvents.get? with _ | event
  · exact .inl ⟨rfl, nofun⟩
  dsimp only
  split
  · exact .inl ⟨rfl, nofun⟩
  · exact .inl ⟨rfl, nofun⟩
  · split
    · rename_i held
      obtain ⟨t, c, lease, leased, rfl, rfl⟩ := heldBy_iff.1 held
      obtain ⟨rfl, stored⟩ := found_iff.1 found
      exact .inr ⟨event, t, c, lease, stored, leased, rfl, rfl, rfl, rfl⟩
    · exact .inl ⟨rfl, nofun⟩

/-- The holder's acknowledgement is accepted. -/
theorem ack_of_holder (now : Timestamp) {t : Uuid} {c : String} {lease : Timestamp} (stored : event ∈ db.outboxEvents)
    (leased : event.LeasedTo t c lease) :
    ackOutboxV0 now (some event.eventId) (some t) (some c) db = (.acked, acknowledge event t c now db) := by
  have found : (some event.eventId).bind db.outboxEvents.get? = some event := found_iff.2 ⟨rfl, stored⟩
  have held : event.heldBy (some t) (some c) = true := heldBy_iff.2 ⟨t, c, lease, leased, rfl, rfl⟩
  have state : event.state = .processing t c lease := leased
  unfold ackOutboxV0
  simp only [found, state, held, if_true, acknowledge]

section Fail

variable {now : Timestamp} {eventId token : Option Uuid} {consumer errorCode : Option String}
  {retryAt : Option Timestamp} {db db' : Db} {status : OutboxStatus}

/-- A failure report that passes the guard: the event is dead-lettered if it is out of attempts, and
otherwise pending again. -/
def giveUp (event : OutboxEvent) (token : Option Uuid) (consumer : Option String) (code : String) (now : Timestamp)
    (retryAt : Option Timestamp) (db : Db) : Db :=
  if event.maxAttempts ≤ event.attemptCount then
    finishAttempts token consumer now .deadLetter (some code)
      (setEvent event.eventId (OutboxEvent.reject code now) (OutboxEvent.reject_eventId code now) db)
  else
    finishAttempts token consumer now .retry (some code)
      (setEvent event.eventId (OutboxEvent.reschedule code now retryAt)
        (OutboxEvent.reschedule_eventId code now retryAt) db)

/-- The statuses that end a lease. -/
def OutboxStatus.settles : OutboxStatus → Bool
  | .acked => true
  | .retryScheduled => true
  | .deadLettered => true
  | _ => false

theorem fail_cases (ran : failOutboxV0 now eventId token consumer errorCode retryAt db = .ok (status, db')) :
    db' = db ∨
    ∃ event t c lease code, event ∈ db.outboxEvents ∧ event.LeasedTo t c lease ∧ eventId = some event.eventId ∧
      (token = none ∨ token = some t) ∧ (consumer = none ∨ consumer = some c) ∧
      errorCode.filter validErrorCode = some code ∧ db' = giveUp event token consumer code now retryAt db ∧
      status.settles = true := by
  unfold failOutboxV0 at ran
  rcases coded : errorCode.filter validErrorCode with _ | code
  · rw [coded] at ran
    cases ran
  rw [coded] at ran
  rcases found : eventId.bind db.outboxEvents.get? with _ | event
  · rw [found] at ran
    cases ran
    exact .inl rfl
  rw [found] at ran
  dsimp only at ran
  split at ran
  · cases ran
    exact .inl rfl
  · cases ran
    exact .inl rfl
  · split at ran
    · cases ran
      exact .inl rfl
    · rename_i passed
      obtain ⟨t, c, lease, leased, tokens, consumers⟩ := not_staleFor_iff.1 (by simpa using passed)
      obtain ⟨rfl, stored⟩ := found_iff.1 found
      refine .inr ⟨event, t, c, lease, code, stored, leased, rfl, tokens, consumers, rfl, ?_⟩
      unfold giveUp
      split at ran <;> cases ran
      · rw [if_pos (by assumption)]
        exact ⟨rfl, rfl⟩
      · rw [if_neg (by assumption)]
        exact ⟨rfl, rfl⟩

/-- A failure report that passes the guard is carried out. -/
theorem fail_of_guards (now : Timestamp) (retryAt : Option Timestamp) {event : OutboxEvent} {t : Uuid}
    {c code : String} {lease : Timestamp}
    (stored : event ∈ db.outboxEvents) (leased : event.LeasedTo t c lease) (identified : eventId = some event.eventId)
    (tokens : token = none ∨ token = some t) (consumers : consumer = none ∨ consumer = some c)
    (coded : errorCode.filter validErrorCode = some code) :
    ∃ status, failOutboxV0 now eventId token consumer errorCode retryAt db
      = .ok (status, giveUp event token consumer code now retryAt db) := by
  have found : eventId.bind db.outboxEvents.get? = some event := found_iff.2 ⟨identified, stored⟩
  have state : event.state = .processing t c lease := leased
  have fresh : event.staleFor token consumer = false := not_staleFor_iff.2 ⟨t, c, lease, leased, tokens, consumers⟩
  unfold failOutboxV0 giveUp
  simp only [coded, found, state, fresh, Bool.false_eq_true, if_false]
  split
  · exact ⟨_, rfl⟩
  · exact ⟨_, rfl⟩

end Fail

section Apply

variable {version : Version} {now : Timestamp} {eventId token : Option Uuid} {consumer : Option String}
  {db db' : Db} {status : OutboxStatus}

/-- A call of `apply` that passes its guards, up to the acknowledgement. -/
structure Applied (version : Version) (now : Timestamp) (eventId token : Option Uuid) (consumer : Option String)
    (db : Db) (event : OutboxEvent) (t : Uuid) (c : String) (lease : Timestamp) (probeId : Uuid) (db₁ : Db) : Prop where
  stored : event ∈ db.outboxEvents
  leased : event.LeasedTo t c lease
  identified : eventId = some event.eventId
  token : token = none ∨ token = some t
  consumer : consumer = none ∨ consumer = some c
  supported : version.appliesTo event = true
  payload : castUuid (event.envelope.content.payload.getText "probeId") = .ok (some probeId)
  effect : insertEffect ⟨event.eventId, probeId, now⟩ db = .ok db₁

theorem apply_cases (ran : applyProbeEffectAndAck version now eventId token consumer db = .ok (status, db')) :
    (db' = db ∧ status ≠ .acked) ∨
    ∃ event t c lease probeId db₁, Applied version now eventId token consumer db event t c lease probeId db₁ ∧
      (status, db') = ackOutboxV0 now eventId token consumer (completeProbe probeId now db₁) := by
  unfold applyProbeEffectAndAck at ran
  rcases found : eventId.bind db.outboxEvents.get? with _ | event
  · rw [found] at ran
    cases ran
    exact .inl ⟨rfl, nofun⟩
  rw [found] at ran
  dsimp only at ran
  split at ran
  · cases ran
    exact .inl ⟨rfl, nofun⟩
  · cases ran
    exact .inl ⟨rfl, nofun⟩
  · split at ran
    · cases ran
      exact .inl ⟨rfl, nofun⟩
    split at ran
    · cases ran
      exact .inl ⟨rfl, nofun⟩
    rename_i passed supported
    obtain ⟨target, cast, ran⟩ := bind_ok ran
    obtain ⟨probeId, present, ran⟩ := bind_ok ran
    obtain ⟨db₁, effect, answer⟩ := bind_ok ran
    obtain ⟨t, c, lease, leased, tokens, consumers⟩ := not_staleFor_iff.1 (by simpa using passed)
    obtain ⟨rfl, stored⟩ := found_iff.1 found
    cases notNull_ok present
    exact .inr ⟨event, t, c, lease, probeId, db₁,
      ⟨stored, leased, rfl, tokens, consumers, by simpa using supported, cast, effect⟩, (Except.ok.inj answer).symm⟩

end Apply

theorem insertEffect_cases {row : ProbeEffect} {db' : Db} (h : insertEffect row db = .ok db') :
    (db' = db ∧ ∃ effect, db.probeEffects.get? row.eventId = some effect) ∨
    (db.probeEffects.get? row.eventId = none ∧ (∀ effect ∈ db.probeEffects, effect.probeId ≠ row.probeId) ∧
      (∃ state, db.probeState.get? row.probeId = some state) ∧
      db' = { db with probeEffects := db.probeEffects.insert row }) := by
  unfold insertEffect at h
  split at h
  · rename_i present
    cases h
    exact .inl ⟨rfl, Option.isSome_iff_exists.1 present⟩
  split at h
  · cases h
  split at h
  · cases h
  rename_i absent distinct known
  cases h
  refine .inr ⟨by simpa using absent, ?_, ?_, rfl⟩
  · simpa [Table.mem_def] using distinct
  · simpa [Option.ne_none_iff_exists'] using known

theorem prune_cases {recordedBefore : Option Timestamp} {batch : Option Int} {skipped : Nat → Bool} {db' : Db}
    {pruned : Pruned} (ran : pruneRealtimeHandoffV1 recordedBefore batch skipped db = .ok (pruned, db')) :
    ∃ cutoff n, recordedBefore = some cutoff ∧ batch = some n ∧ (1 ≤ n ∧ n ≤ 500) ∧
      db' = deleteHandoffs (pruneCandidates cutoff n.toNat skipped db) db := by
  unfold pruneRealtimeHandoffV1 at ran
  rcases recordedBefore with _ | cutoff
  · cases ran
  rcases batch with _ | n
  · cases ran
  dsimp only at ran
  split at ran
  · cases ran
  next size =>
    split at ran
    · cases ran
    · cases ran
      exact ⟨cutoff, n, rfl, rfl, by omega, rfl⟩

section Claim

variable {c : Claim} {db db' : Db} {claimed : List ClaimedEvent}

/-- The database that the third statement of a claim sees. -/
def Claim.swept (c : Claim) (db : Db) : Db := buryExhausted c.clock.bury (expireAttempts c.clock.expire db)

/-- The events that a claim leases. -/
def Claim.candidates (c : Claim) (db : Db) : List OutboxEvent := claimCandidates c (c.swept db)

theorem leaseAll_nil (consumer : String) (seconds : Int) : leaseAll c consumer seconds [] db = db := by
  unfold leaseAll
  rw [Table.update_of_none (by simp)]
  rfl

theorem Claim.consumerId_of_valid {consumer : String} (valid : c.validate = .ok consumer) : c.consumerId = some consumer := by
  unfold Claim.validate at valid
  rcases named : c.consumerId.filter (lengthBetween 1 128) with _ | name
  · rw [named] at valid
    cases valid
  · rw [named] at valid
    split_ifs at valid
    cases valid
    exact (Option.filter_eq_some_iff.1 named).1

/-- What a claim has done when it returns. -/
structure Leased (c : Claim) (db : Db) (claimed : List ClaimedEvent) (db' : Db) (consumer : String) (seconds : Int) :
    Prop where
  valid : c.validate = .ok consumer
  distinct : attemptsClash ((c.candidates db).map (c.attempt consumer seconds)) (c.swept db) = false
  claimed : claimed.Perm ((c.candidates db).map (c.returned seconds))
  lease : c.candidates db ≠ [] → c.leaseSeconds = some seconds
  after : db' = leaseAll c consumer seconds (c.candidates db) (c.swept db)

theorem claim_cases (ran : claimOutboxV0 c db = .ok (claimed, db')) :
    ∃ consumer seconds, Leased c db claimed db' consumer seconds := by
  obtain ⟨consumer, valid, ran⟩ := bind_ok ran
  unfold leaseCandidates at ran
  rcases length : c.leaseSeconds with _ | seconds
  · simp only [length] at ran
    split at ran
    · rename_i empty
      cases ran
      have none : c.candidates db = [] := List.isEmpty_iff.1 empty
      refine ⟨consumer, 0, valid, ?_, ?_, ?_, ?_⟩
      · rw [none]; rfl
      · rw [none]; rfl
      · exact fun some => absurd none some
      · rw [none, leaseAll_nil]; rfl
    · cases ran
  · simp only [length] at ran
    split at ran
    · cases ran
    · rename_i fresh
      cases ran
      exact ⟨consumer, seconds, valid, by simpa [Claim.candidates, Claim.swept] using fresh,
        List.perm_insertionSort _ _, fun _ => length, rfl⟩

theorem claimV1_cases (ran : claimOutboxV1 c db = .ok (claimed, db')) :
    ∃ consumer seconds, Leased c db claimed db' consumer seconds := by
  obtain ⟨⟨first, db₁⟩, inner, ran⟩ := bind_ok ran
  cases ran
  obtain ⟨consumer, seconds, leased⟩ := claim_cases inner
  exact ⟨consumer, seconds, leased.valid, leased.distinct,
    (List.perm_insertionSort _ _).trans leased.claimed, leased.lease, leased.after⟩

end Claim

end Liqi.Database
