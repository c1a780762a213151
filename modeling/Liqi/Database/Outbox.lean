import Liqi.Database.Schema

/-!
# Leasing outbox events

`claim_outbox_v0` hands a batch of events to a consumer under a lease, `ack_outbox_v0` and
`fail_outbox_v0` end the lease. Each attempt is a row of `outbox_attempts`. The V1 functions are
wrappers that add the V1 columns to the result; the rows here carry all columns, so a wrapper is the
function it wraps.
-/

namespace Liqi.Database

open Postgres

/-- The answers of `ack`, `fail` and `apply`. -/
inductive OutboxStatus where
  | notFound
  | alreadySucceeded
  | alreadyDeadLettered
  | staleClaim
  | unsupportedEvent
  | acked
  | retryScheduled
  | deadLettered
  deriving DecidableEq

/-- The clock readings of the three statements of a claim. -/
structure ClaimClock where
  expire : Timestamp
  bury : Timestamp
  lease : Timestamp
  deriving DecidableEq

/-- The arguments of `claim_outbox_v0`, and what the call draws from outside the database: clock
readings, random tokens and the rows that other transactions have locked. -/
structure Claim where
  consumerId : Option String
  batchSize : Option Int
  leaseSeconds : Option Int
  clock : ClaimClock
  token : Uuid → Uuid
  skipped : Uuid → Bool

/-- One row of a claim's result. -/
structure ClaimedEvent where
  eventId : Uuid
  claimToken : Uuid
  attemptNo : Nat
  envelope : Envelope
  leaseExpiresAt : Timestamp
  deriving DecidableEq

/-- `NOT BETWEEN low AND high`, which is unknown for `NULL`. -/
def notBetween (low high : Int) (x : Option Int) : Bool := x.any fun x => x < low ∨ high < x

/-- The checks at the head of a claim; the consumer must be present, the two numbers need not be. -/
def Claim.validate (c : Claim) : Except SqlError String :=
  match c.consumerId.filter (lengthBetween 1 128) with
  | none => .error (.invalidParameter "consumer id must contain 1 to 128 characters")
  | some consumer =>
    if notBetween 1 50 c.batchSize then .error (.invalidParameter "batch size must be between 1 and 50")
    else if notBetween 5 300 c.leaseSeconds then .error (.invalidParameter "lease must be between 5 and 300 seconds")
    else .ok consumer

/-- The attempt of an expired lease that is still open. -/
def expiredAttempt (now : Timestamp) (db : Db) (attempt : OutboxAttempt) : Bool :=
  match db.outboxEvents.get? attempt.eventId with
  | some event => event.leaseExpired now && event.claimToken == some attempt.claimToken && attempt.finished.isNone
  | none => false

/-- The attempt once it is closed; the error code changes if there is one to set. -/
def OutboxAttempt.close (now : Timestamp) (outcome : AttemptOutcome) (errorCode : Option String)
    (attempt : OutboxAttempt) : OutboxAttempt :=
  { attempt with finished := some (now, outcome), errorCode := errorCode.or attempt.errorCode }

theorem OutboxAttempt.close_key (now : Timestamp) (outcome : AttemptOutcome) (errorCode : Option String)
    (attempt : OutboxAttempt) : (attempt.close now outcome errorCode).key = attempt.key := rfl

theorem OutboxAttempt.expire_key (now : Timestamp) (attempt : OutboxAttempt) :
    (attempt.close now .leaseExpired none).key = attempt.key := OutboxAttempt.close_key now .leaseExpired none attempt

/-- First statement: close the attempts of all expired leases. -/
def expireAttempts (now : Timestamp) (db : Db) : Db :=
  { db with
    outboxAttempts := db.outboxAttempts.update (expiredAttempt now db)
      (OutboxAttempt.close now .leaseExpired none) (OutboxAttempt.expire_key now) }

/-- Out of attempts, and not leased at `now`. -/
def OutboxEvent.exhausted (event : OutboxEvent) (now : Timestamp) : Bool :=
  (event.state == .pending || event.leaseExpired now) && event.maxAttempts ≤ event.attemptCount

def OutboxEvent.bury (now : Timestamp) (event : OutboxEvent) : OutboxEvent :=
  { event with state := .deadLetter now, lastErrorCode := some (event.lastErrorCode.getD "lease.exhausted") }

theorem OutboxEvent.bury_eventId (now : Timestamp) (event : OutboxEvent) : (event.bury now).eventId = event.eventId :=
  rfl

/-- Second statement: dead-letter the events that are out of attempts. -/
def buryExhausted (now : Timestamp) (db : Db) : Db :=
  { db with
    outboxEvents := db.outboxEvents.update (·.exhausted now) (OutboxEvent.bury now) (OutboxEvent.bury_eventId now) }

/-- Available at `now`, with an attempt left. -/
def OutboxEvent.claimable (event : OutboxEvent) (now : Timestamp) : Bool :=
  ((event.state == .pending && event.availableAt ≤ now) || event.leaseExpired now)
    && event.attemptCount < event.maxAttempts

/-- `ORDER BY available_at, occurred_at, event_id`. -/
def OutboxEvent.claimBefore (a b : OutboxEvent) : Prop :=
  a.availableAt < b.availableAt ∨ (a.availableAt = b.availableAt ∧
    (a.envelope.content.occurredAt < b.envelope.content.occurredAt ∨
      (a.envelope.content.occurredAt = b.envelope.content.occurredAt ∧ a.eventId ≤ b.eventId)))

instance : DecidableRel OutboxEvent.claimBefore := fun a b => by
  delta OutboxEvent.claimBefore
  infer_instance

/-- The candidates of the third statement, locked rows skipped. -/
def claimCandidates (c : Claim) (db : Db) : List OutboxEvent :=
  db.outboxEvents.select (fun event => event.claimable c.clock.lease && !c.skipped event.eventId)
    OutboxEvent.claimBefore (c.batchSize.map Int.toNat)

/-- A candidate once it is leased. -/
def Claim.leased (c : Claim) (consumer : String) (seconds : Int) (event : OutboxEvent) : OutboxEvent :=
  { event with
    state := .processing (c.token event.eventId) consumer (c.clock.lease + seconds * 1000000)
    attemptCount := event.attemptCount + 1 }

theorem Claim.leased_eventId (c : Claim) (consumer : String) (seconds : Int) (event : OutboxEvent) :
    (c.leased consumer seconds event).eventId = event.eventId := rfl

/-- The attempt row of a leased event. -/
def Claim.attempt (c : Claim) (consumer : String) (seconds : Int) (event : OutboxEvent) : OutboxAttempt where
  eventId := event.eventId
  attemptNo := event.attemptCount + 1
  claimToken := c.token event.eventId
  consumerId := consumer
  claimedAt := c.clock.lease
  leaseExpiresAt := c.clock.lease + seconds * 1000000
  finished := none
  errorCode := none

/-- A candidate as the claim returns it. -/
def Claim.returned (c : Claim) (seconds : Int) (event : OutboxEvent) : ClaimedEvent where
  eventId := event.eventId
  claimToken := c.token event.eventId
  attemptNo := event.attemptCount + 1
  envelope := event.envelope
  leaseExpiresAt := c.clock.lease + seconds * 1000000

/-- `ORDER BY occurred_at, event_id`. -/
def ClaimedEvent.before (a b : ClaimedEvent) : Prop :=
  a.envelope.content.occurredAt < b.envelope.content.occurredAt ∨
    (a.envelope.content.occurredAt = b.envelope.content.occurredAt ∧ a.eventId ≤ b.eventId)

instance : DecidableRel ClaimedEvent.before := fun a b => by
  delta ClaimedEvent.before
  infer_instance

/-- Whether the new attempts break the primary key or `claim_token UNIQUE`. -/
def attemptsClash (attempts : List OutboxAttempt) (db : Db) : Bool :=
  attempts.any (fun a => (db.outboxAttempts.get? a.key).isSome ||
    db.outboxAttempts.rows.any (·.claimToken = a.claimToken))
  || !decide (attempts.map OutboxAttempt.claimToken).Nodup

/-- The candidates leased and their attempts recorded. -/
def leaseAll (c : Claim) (consumer : String) (seconds : Int) (candidates : List OutboxEvent) (db : Db) : Db :=
  { db with
    outboxEvents := db.outboxEvents.update (fun event => decide (event ∈ candidates)) (c.leased consumer seconds)
      (c.leased_eventId consumer seconds)
    outboxAttempts := db.outboxAttempts.insertAll (candidates.map (c.attempt consumer seconds)) }

/-- Third statement: lease the candidates and record their attempts. A `NULL` lease length makes
`lease_expires_at` null, which a `processing` row may not have. -/
def leaseCandidates (c : Claim) (consumer : String) (db : Db) : Except SqlError (List ClaimedEvent × Db) :=
  let candidates := claimCandidates c db
  match c.leaseSeconds with
  | none => if candidates.isEmpty then .ok ([], db) else .error (.check "outbox_events_check")
  | some seconds =>
    if attemptsClash (candidates.map (c.attempt consumer seconds)) db then .error (.unique "outbox_attempts")
    else .ok ((candidates.map (c.returned seconds)).insertionSort ClaimedEvent.before,
      leaseAll c consumer seconds candidates db)

def claimOutboxV0 (c : Claim) (db : Db) : Except SqlError (List ClaimedEvent × Db) := do
  let consumer ← c.validate
  leaseCandidates c consumer (buryExhausted c.clock.bury (expireAttempts c.clock.expire db))

/-- The wrapper's second sort, by the same columns, and its join keep the rows. -/
def claimOutboxV1 (c : Claim) (db : Db) : Except SqlError (List ClaimedEvent × Db) := do
  let (claimed, db') ← claimOutboxV0 c db
  return (claimed.insertionSort ClaimedEvent.before, db')

/-- Close the open attempt of a claim. -/
def finishAttempts (token : Option Uuid) (consumer : Option String) (now : Timestamp) (outcome : AttemptOutcome)
    (errorCode : Option String) (db : Db) : Db :=
  { db with
    outboxAttempts := db.outboxAttempts.update
      (fun attempt => ((sqlEq (some attempt.claimToken) token).and (sqlEq (some attempt.consumerId) consumer)).holds
        && attempt.finished.isNone)
      (OutboxAttempt.close now outcome errorCode) (OutboxAttempt.close_key now outcome errorCode) }

/-- `UPDATE outbox_events ... WHERE event_id = eventId`. -/
def setEvent (eventId : Uuid) (f : OutboxEvent → OutboxEvent) (hf : ∀ event, (f event).eventId = event.eventId)
    (db : Db) : Db :=
  { db with outboxEvents := db.outboxEvents.update (fun event => decide (event.eventId = eventId)) f hf }

/-- The guard that `ack` writes as a conjunction of equalities. -/
def OutboxEvent.heldBy (event : OutboxEvent) (token : Option Uuid) (consumer : Option String) : Bool :=
  (Truth.and (some event.isProcessing) ((sqlEq event.claimToken token).and (sqlEq event.claimedBy consumer))).holds

/-- The guard that `fail` and `apply` write as a disjunction of inequalities. -/
def OutboxEvent.staleFor (event : OutboxEvent) (token : Option Uuid) (consumer : Option String) : Bool :=
  (Truth.or (some !event.isProcessing) ((sqlNe event.claimToken token).or (sqlNe event.claimedBy consumer))).holds

def OutboxEvent.succeed (now : Timestamp) (event : OutboxEvent) : OutboxEvent := { event with state := .succeeded now }

def OutboxEvent.reject (code : String) (now : Timestamp) (event : OutboxEvent) : OutboxEvent :=
  { event with state := .deadLetter now, lastErrorCode := some code }

/-- `GREATEST(retry_at, clock_timestamp())` ignores a `NULL`. -/
def OutboxEvent.reschedule (code : String) (now : Timestamp) (retryAt : Option Timestamp) (event : OutboxEvent) :
    OutboxEvent :=
  { event with state := .pending, availableAt := max (retryAt.getD now) now, lastErrorCode := some code }

theorem OutboxEvent.succeed_eventId (now : Timestamp) (event : OutboxEvent) :
    (event.succeed now).eventId = event.eventId := rfl

theorem OutboxEvent.reject_eventId (code : String) (now : Timestamp) (event : OutboxEvent) :
    (event.reject code now).eventId = event.eventId := rfl

theorem OutboxEvent.reschedule_eventId (code : String) (now : Timestamp) (retryAt : Option Timestamp)
    (event : OutboxEvent) : (event.reschedule code now retryAt).eventId = event.eventId := rfl

def ackOutboxV0 (now : Timestamp) (eventId token : Option Uuid) (consumer : Option String) (db : Db) :
    OutboxStatus × Db :=
  match eventId.bind db.outboxEvents.get? with
  | none => (.notFound, db)
  | some event => match event.state with
    | .succeeded _ => (.alreadySucceeded, db)
    | .deadLetter _ => (.alreadyDeadLettered, db)
    | _ =>
      if event.heldBy token consumer then
        (.acked, finishAttempts token consumer now .succeeded none
          (setEvent event.eventId (OutboxEvent.succeed now) (OutboxEvent.succeed_eventId now) db))
      else (.staleClaim, db)

def ackOutboxV1 (now : Timestamp) (eventId token : Option Uuid) (consumer : Option String) (db : Db) :
    OutboxStatus × Db :=
  ackOutboxV0 now eventId token consumer db

/-- `error_code ~ '^[a-z0-9_.-]{1,128}$'`. -/
def validErrorCode (code : String) : Bool :=
  matchesAll (fun c => isLowerOrDigit c || c == '_' || c == '.' || c == '-') 1 128 code

def failOutboxV0 (now : Timestamp) (eventId token : Option Uuid) (consumer errorCode : Option String)
    (retryAt : Option Timestamp) (db : Db) : Except SqlError (OutboxStatus × Db) :=
  match errorCode.filter validErrorCode with
  | none => .error (.invalidParameter "error code has invalid format")
  | some code => match eventId.bind db.outboxEvents.get? with
    | none => .ok (.notFound, db)
    | some event => match event.state with
      | .succeeded _ => .ok (.alreadySucceeded, db)
      | .deadLetter _ => .ok (.alreadyDeadLettered, db)
      | _ =>
        if event.staleFor token consumer then .ok (.staleClaim, db)
        else if event.maxAttempts ≤ event.attemptCount then
          .ok (.deadLettered, finishAttempts token consumer now .deadLetter (some code)
            (setEvent event.eventId (OutboxEvent.reject code now) (OutboxEvent.reject_eventId code now) db))
        else
          .ok (.retryScheduled, finishAttempts token consumer now .retry (some code)
            (setEvent event.eventId (OutboxEvent.reschedule code now retryAt)
              (OutboxEvent.reschedule_eventId code now retryAt) db))

def failOutboxV1 (now : Timestamp) (eventId token : Option Uuid) (consumer errorCode : Option String)
    (retryAt : Option Timestamp) (db : Db) : Except SqlError (OutboxStatus × Db) :=
  failOutboxV0 now eventId token consumer errorCode retryAt db

end Liqi.Database
