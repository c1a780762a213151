import Liqi.Database.OutboxSteps
import Liqi.Postgres.Interleaving

/-!
# What a claim hands over

`claim_outbox_v1` is one `SELECT`: it calls `claim_outbox_v0` and joins what that returns with a scan of
`outbox_events`. The scan belongs to the outer statement and sees the snapshot taken when that statement
started; the three statements of `claim_outbox_v0`, which is `VOLATILE`, take later snapshots of their own. An
event that commits in between is leased by the inner function and missing from the scan.

Claims run side by side with each other and with producers. What a producer transaction does before its commit
is of no account to a claim, so that it is here the list of its writes, whatever they are.
-/

namespace Liqi.Database

open Postgres Store

/-- The database that producers and workers share. -/
structure Shared where
  db : Db

/-- The writes of producers and claims. A claim names the rows that its statement has found. -/
inductive OutboxWrite where
  | produced (write : Write)
  | expired (now : Timestamp) (attempts : List (Uuid × Nat))
  | buried (now : Timestamp) (events : List Uuid)
  | leased (claim : Claim) (consumer : String) (seconds : Int) (events : List Uuid) (attempts : List OutboxAttempt)

/-- The locks of producers, and the rows and index entries of `outbox_attempts`. -/
inductive OutboxLock where
  | producer (lock : Lock)
  | attempt (key : Uuid × Nat)
  | claimToken (token : Uuid)
  deriving DecidableEq

def OutboxWrite.apply (shared : Shared) : OutboxWrite → Shared
  | .produced write => ⟨Write.apply shared.db write⟩
  | .expired now attempts =>
    ⟨{ shared.db with
        outboxAttempts := shared.db.outboxAttempts.update (fun attempt => decide (attempt.key ∈ attempts))
          (OutboxAttempt.close now .leaseExpired none) (OutboxAttempt.expire_key now) }⟩
  | .buried now events =>
    ⟨{ shared.db with
        outboxEvents := shared.db.outboxEvents.update (fun event => decide (event.eventId ∈ events))
          (OutboxEvent.bury now) (OutboxEvent.bury_eventId now) }⟩
  | .leased claim consumer seconds events attempts =>
    ⟨{ shared.db with
        outboxEvents := shared.db.outboxEvents.update (fun event => decide (event.eventId ∈ events))
          (claim.leased consumer seconds) (claim.leased_eventId consumer seconds)
        outboxAttempts := shared.db.outboxAttempts.insertAll attempts }⟩

def eventLock (eventId : Uuid) : OutboxLock := .producer (.outboxEvent eventId)

def OutboxWrite.touches : OutboxWrite → List OutboxLock
  | .produced write => (Write.touches write).map .producer
  | .expired _ attempts => attempts.map .attempt
  | .buried _ events => events.map eventLock
  | .leased _ _ _ events attempts =>
    events.map eventLock ++ attempts.map (.attempt ∘ OutboxAttempt.key) ++ attempts.map (.claimToken ∘ OutboxAttempt.claimToken)

instance : Store Shared OutboxWrite OutboxLock := ⟨OutboxWrite.apply, OutboxWrite.touches⟩

/-- A claim that is about to return: the snapshot of the outer statement, what `claim_outbox_v0` returned to it,
and what it returns itself. -/
structure Handover where
  snapshot : Db
  claimed : List ClaimedEvent
  returned : List ClaimedEvent

/-- `JOIN outbox_events event USING (event_id) ORDER BY occurred_at, event_id`. -/
def joinEvents (snapshot : Db) (claimed : List ClaimedEvent) : List ClaimedEvent :=
  (claimed.filterMap fun row =>
    (snapshot.outboxEvents.get? row.eventId).map fun event => { row with envelope := event.envelope }).insertionSort
      ClaimedEvent.before

/-- First statement of `claim_outbox_v0`. -/
def expireStatement (now : Timestamp) (shared : Shared) : Except SqlError (Unit × List OutboxWrite) :=
  .ok ((), [.expired now ((shared.db.outboxAttempts.rows.filter (expiredAttempt now shared.db)).map OutboxAttempt.key)])

/-- Second statement. -/
def buryStatement (now : Timestamp) (shared : Shared) : Except SqlError (Unit × List OutboxWrite) :=
  .ok ((), [.buried now ((shared.db.outboxEvents.rows.filter (·.exhausted now)).map OutboxEvent.eventId)])

/-- Third statement; the rows that it skips are those that others have locked. -/
def leaseStatement (c : Claim) (consumer : String) (shared : Shared) :
    Except SqlError (List ClaimedEvent × List OutboxWrite) :=
  let candidates := claimCandidates c shared.db
  match c.leaseSeconds with
  | none => if candidates.isEmpty then .ok ([], []) else .error (.check "outbox_events_check")
  | some seconds =>
    let attempts := candidates.map (c.attempt consumer seconds)
    if attemptsClash attempts shared.db then .error (.unique "outbox_attempts")
    else .ok ((candidates.map (c.returned seconds)).insertionSort ClaimedEvent.before,
      [.leased c consumer seconds (candidates.map OutboxEvent.eventId) attempts])

/-- The body of `claim_outbox_v0`, and the join with the snapshot of the outer statement. -/
def claimAndJoin (c : Claim) (outer : Shared) : Program Shared OutboxWrite OutboxLock SqlError (Option Handover) :=
  match c.validate with
  | .error e => .raise e
  | .ok consumer =>
    .exec (expireStatement c.clock.expire) fun _ =>
      .exec (buryStatement c.clock.bury) fun _ =>
        .exec (leaseStatement c consumer) fun claimed =>
          .ret (some { snapshot := outer.db, claimed, returned := joinEvents outer.db claimed })

/-- `claim_outbox_v1`, statement by statement. -/
def claimOutboxV1Body (c : Claim) : Program Shared OutboxWrite OutboxLock SqlError (Option Handover) :=
  .query (claimAndJoin c)

inductive OutboxCall where
  | produce (writes : List Write)
  | claim (c : Claim)

def OutboxCall.body : OutboxCall → Program Shared OutboxWrite OutboxLock SqlError (Option Handover)
  | .produce writes => .exec (fun _ => .ok ((), writes.map .produced)) fun _ => .ret none
  | .claim c => claimOutboxV1Body c

/-- The commit leases the event: it is processing, and has used one more attempt. -/
def Moves (before after : Db) (eventId : Uuid) : Prop :=
  ∃ old ∈ before.outboxEvents, ∃ new ∈ after.outboxEvents, old.eventId = eventId ∧ new.eventId = eventId
    ∧ new.isProcessing = true ∧ new.attemptCount = old.attemptCount + 1

/-! ## Together -/

section Together

variable {c : Claim} {consumer : String} {event : OutboxEvent} {held : List OutboxLock} {shared now : Shared}

variable {t : Timestamp}

theorem mem_buried {events : List Uuid} :
    event ∈ (Store.apply shared (.buried t events)).db.outboxEvents ↔ ∃ row ∈ shared.db.outboxEvents,
      event = if row.eventId ∈ events then row.bury t else row := by
  have rows : (Store.apply shared (.buried t events)).db.outboxEvents = shared.db.outboxEvents.update
      (fun event => decide (event.eventId ∈ events)) (OutboxEvent.bury t) (OutboxEvent.bury_eventId t) := rfl
  simp only [rows, Table.mem_update, decide_eq_true_iff]

theorem mem_leased {seconds : Int} {events : List Uuid} {attempts : List OutboxAttempt} :
    event ∈ (Store.apply shared (.leased c consumer seconds events attempts)).db.outboxEvents ↔
      ∃ row ∈ shared.db.outboxEvents, event = if row.eventId ∈ events then c.leased consumer seconds row else row := by
  have rows : (Store.apply shared (.leased c consumer seconds events attempts)).db.outboxEvents
      = shared.db.outboxEvents.update (fun event => decide (event.eventId ∈ events)) (c.leased consumer seconds)
        (c.leased_eventId consumer seconds) := rfl
  simp only [rows, Table.mem_update, decide_eq_true_iff]

/-- A row of the outbox changes only by a write that touches its lock. -/
theorem mem_apply {write : OutboxWrite} (stored : event ∈ shared.db.outboxEvents)
    (clear : eventLock event.eventId ∉ OutboxWrite.touches write) :
    event ∈ (Store.apply shared write).db.outboxEvents := by
  have unlocked : ∀ events : List Uuid, eventLock event.eventId ∉ events.map eventLock → event.eventId ∉ events :=
    fun events clear member => clear (List.mem_map_of_mem member)
  cases write with
  | produced write =>
    cases write with
    | insertOutboxEvent row => exact Table.mem_insert_of_mem stored
    | setLastHandoffId | insertHandoffEvent =>
      simpa only [Store.apply, OutboxWrite.apply, Write.apply, Db.outboxEvents_setHandoff] using stored
    | insertProbeState | insertIdempotency => exact stored
  | expired now attempts => exact stored
  | buried now events => exact mem_buried.2 ⟨event, stored, (if_neg (unlocked events clear)).symm⟩
  | leased claim consumer seconds events attempts =>
    simp only [OutboxWrite.touches, List.mem_append, not_or] at clear
    exact mem_leased.2 ⟨event, stored, (if_neg (unlocked events clear.1.1)).symm⟩

theorem mem_of_undisturbed (stored : event ∈ shared.db.outboxEvents) (locked : eventLock event.eventId ∈ held)
    (since : Undisturbed held shared now) : event ∈ now.db.outboxEvents :=
  since.stable (P := fun shared => event ∈ shared.db.outboxEvents)
    (fun _ _ stored clear => mem_apply stored fun touched => clear _ touched locked) stored

variable {t' : Timestamp} {keys : List (Uuid × Nat)} {buried : List Uuid} {eventId : Uuid}

/-- Closing attempts and burying events leases nothing. -/
theorem not_moves_swept :
    ¬ Moves shared.db (applyAll shared [.expired t keys, .buried t' buried]).db eventId := by
  rintro ⟨old, stored, new, after, rfl, same, processing, used⟩
  obtain ⟨row, before, rfl⟩ := mem_buried.1 after
  have row_eq : row = old := by
    refine Table.eq_of_key before stored ?_
    rw [← same]
    split <;> rfl
  subst row_eq
  split at used
  · exact absurd used (by simp [OutboxEvent.bury])
  · exact absurd used (by simp)

/-- The writes of a claim lease the rows that its third statement has found. -/
theorem moves_iff {seconds : Int} {candidates : List OutboxEvent} {attempts : List OutboxAttempt}
    (found : ∀ event ∈ candidates, event ∈ shared.db.outboxEvents ∧ event.eventId ∉ buried) :
    Moves shared.db (applyAll shared [.expired t keys, .buried t' buried,
        .leased c consumer seconds (candidates.map OutboxEvent.eventId) attempts]).db eventId
      ↔ eventId ∈ candidates.map OutboxEvent.eventId := by
  constructor
  · rintro ⟨old, stored, new, after, rfl, same, processing, used⟩
    obtain ⟨swept, before, rfl⟩ := mem_leased.1 after
    by_cases leased : swept.eventId ∈ candidates.map OutboxEvent.eventId
    · rw [if_pos leased] at same
      exact same ▸ leased
    · rw [if_neg leased] at same processing used
      exact absurd ⟨old, stored, swept, before, rfl, same, processing, used⟩ not_moves_swept
  · intro member
    obtain ⟨event, candidate, rfl⟩ := List.mem_map.1 member
    obtain ⟨stored, spared⟩ := found event candidate
    refine ⟨event, stored, c.leased consumer seconds event, ?_, rfl, rfl, rfl, rfl⟩
    refine mem_leased.2 ⟨event, ?_, (if_pos member).symm⟩
    exact mem_buried.2 ⟨event, stored, (if_neg spared).symm⟩

/-- At its commit a claim has leased what the inner function returned, and returns what of it is in the snapshot. -/
def handoverPromise : Promise OutboxCall Shared OutboxWrite SqlError (Option Handover) where
  commits _ answer shared writes := ∀ handover, answer = some handover →
    handover.returned = joinEvents handover.snapshot handover.claimed
      ∧ ∀ eventId, Moves shared.db (applyAll shared writes).db eventId
        ↔ eventId ∈ handover.claimed.map ClaimedEvent.eventId
  raises _ _ _ := True

/-- The third statement finds rows that no one else can change until the claim ends. -/
theorem candidate_spared
    (candidate : event ∈ claimCandidates c (applyAll shared [.expired t keys, .buried t' buried]).db) :
    event ∈ shared.db.outboxEvents ∧ event.eventId ∉ buried := by
  obtain ⟨seen, selected⟩ := Table.mem_of_select candidate
  have claimable : event.claimable c.clock.lease = true := (Bool.and_eq_true_iff.1 selected).1
  obtain ⟨row, stored, rfl⟩ := mem_buried.1 seen
  by_cases gone : row.eventId ∈ buried
  · rw [if_pos gone, not_claimable_bury] at claimable
    cases claimable
  · rw [if_neg gone]
    exact ⟨stored, gone⟩

theorem leaseStatement_cases {claimed : List ClaimedEvent} {writes : List OutboxWrite}
    (leased : leaseStatement c consumer shared = .ok (claimed, writes)) :
    (claimed = [] ∧ writes = []) ∨ ∃ seconds,
      claimed.Perm ((claimCandidates c shared.db).map (c.returned seconds))
        ∧ writes = [.leased c consumer seconds ((claimCandidates c shared.db).map OutboxEvent.eventId)
          ((claimCandidates c shared.db).map (c.attempt consumer seconds))] := by
  unfold leaseStatement at leased
  rcases length : c.leaseSeconds with _ | seconds
  · simp only [length] at leased
    split at leased
    · cases leased
      exact .inl ⟨rfl, rfl⟩
    · cases leased
  · simp only [length] at leased
    split at leased
    · cases leased
    · cases leased
      exact .inr ⟨seconds, List.perm_insertionSort _ _, rfl⟩

/-- From the third statement to the commit, the rows that it found are locked. -/
theorem lease_safe {outer : Db} :
    (Program.exec (leaseStatement c consumer) fun claimed =>
        .ret (some { snapshot := outer, claimed, returned := joinEvents outer claimed })).Safe (fun _ => True)
      (handoverPromise.ending (fun _ => True) (.claim c)) held [.expired t keys, .buried t' buried] shared := by
  apply Program.Safe.exec
  intro now _ _
  split
  · exact fun _ _ _ => trivial
  next claimed writes leased =>
    intro final since _
    refine ⟨trivial, ?_⟩
    rintro handover ⟨⟩
    refine ⟨rfl, fun eventId => ?_⟩
    rcases leaseStatement_cases leased with ⟨rfl, rfl⟩ | ⟨seconds, same, rfl⟩
    · simpa using not_moves_swept
    · have ids : eventId ∈ claimed.map ClaimedEvent.eventId ↔ eventId ∈
          (claimCandidates c (applyAll now [.expired t keys, .buried t' buried]).db).map OutboxEvent.eventId := by
        rw [(same.map _).mem_iff, List.map_map]
        rfl
      rw [ids]
      refine moves_iff fun event candidate => ?_
      obtain ⟨stored, spared⟩ := candidate_spared candidate
      refine ⟨mem_of_undisturbed stored (List.mem_append_right _ ?_) since, spared⟩
      have locked : eventLock event.eventId ∈
          ((claimCandidates c (applyAll now [.expired t keys, .buried t' buried]).db).map OutboxEvent.eventId).map
            eventLock := List.mem_map_of_mem (List.mem_map_of_mem candidate)
      simp only [List.flatMap_cons, List.flatMap_nil, List.append_nil]
      exact List.mem_append_left _ (List.mem_append_left _ locked)

theorem claimOutboxV1Body_safe (c : Claim) (shared : Shared) : (claimOutboxV1Body c).Safe (fun _ => True)
    (handoverPromise.ending (fun _ => True) (.claim c)) [] [] shared := by
  apply Program.Safe.query
  intro outer _ _
  unfold claimAndJoin
  rcases c.validate with e | consumer
  · exact fun _ _ _ => trivial
  apply Program.Safe.exec
  intro first _ _
  apply Program.Safe.exec
  intro second _ _
  exact lease_safe

theorem verified_outbox : Verified OutboxCall.body (fun _ => True) handoverPromise := by
  intro call shared _
  cases call with
  | produce writes =>
    unfold OutboxCall.body
    apply Program.Safe.exec
    intro now _ _
    exact fun _ _ _ => ⟨trivial, nofun⟩
  | claim c => exact claimOutboxV1Body_safe c shared

theorem mem_joinEvents {snapshot : Db} {claimed : List ClaimedEvent} :
    eventId ∈ (joinEvents snapshot claimed).map ClaimedEvent.eventId
      ↔ eventId ∈ claimed.map ClaimedEvent.eventId ∧ (snapshot.outboxEvents.get? eventId).isSome := by
  unfold joinEvents
  rw [((List.perm_insertionSort _ _).map _).mem_iff]
  simp only [List.mem_map, List.mem_filterMap, Option.map_eq_some_iff]
  constructor
  · rintro ⟨_, ⟨row, member, event, found, rfl⟩, rfl⟩
    exact ⟨⟨row, member, rfl⟩, by simp [found]⟩
  · rintro ⟨⟨row, member, rfl⟩, present⟩
    obtain ⟨event, found⟩ := Option.isSome_iff_exists.1 present
    exact ⟨_, ⟨row, member, event, found, rfl⟩, rfl⟩

end Together

/-- What the producer of `sampleEnqueue 1 3` writes. -/
def sampleWrites : List Write :=
  match sampleEnqueue 1 3 with
  | .enqueueV0 a now =>
    match a.draft.row now with
    | .ok row => [.insertOutboxEvent row]
    | .error _ => []
  | _ => []

/-- A claim, alone, has taken the snapshot of its outer statement. -/
theorem reachable_claim (c : Claim) (shared : Shared) : Reachable OutboxCall.body shared
    ⟨shared, Function.update (fun _ => none) 0 (some ⟨.claim c, claimAndJoin c shared, [], []⟩), []⟩ := by
  have first : Reachable OutboxCall.body shared (.initial shared) := .initial
  have started : Reachable OutboxCall.body shared ⟨shared, Function.update (fun _ => none) 0
      (some ⟨.claim c, .stmt (fun _ => []) (fun _ => []) (claimAndJoin c), [], []⟩), []⟩ := first.step (.start rfl)
  exact started.execute free_of_alone

def lateClaim : Claim := sampleClaim 9 1 ⟨1, 1, 1⟩

end Liqi.Database
