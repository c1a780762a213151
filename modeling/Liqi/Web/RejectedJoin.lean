import Liqi.Runtime.IdText
import Liqi.Web.ClientFrames

/-!
# Joins that are answered with an error

`PlatformChannel.join` subscribes to the requested keys before it attaches, and attaches before it repairs. A
join that is refused at the attachment has already added its keys to the session, and one whose repair fails has
already taken the session's connection. `rejected_join_iff` says for which requests and sessions a rejected join
changes nothing.
-/

namespace Liqi.Web

open Beam Postgres Liqi.Database Liqi.Runtime Liqi.Native Liqi.Realtime

/-- What a rejected join is not to change. -/
structure Unchanged (session next : Session) : Prop extends SameSession session next where
  connectionPid : next.connectionPid = session.connectionPid

section Definitions

variable (encodedBytes : Frame → Nat) (node : Node) (db : Db) (verified : String → Option ResumeToken) (socket : Socket)
  (setup : JoinSetup) (params : Json) (fates : Nat → Fate)

def joinServed (session : Session) : Exchange Session Input Effect (Answer Joined) :=
  (join node db verified socket setup params).serve (Session.handle encodedBytes) fates (some session)

/-- An error other than `slow_consumer` leaves the session as it was. -/
def RejectionKeeps (session : Session) (ended : Exchange Session Input Effect (Answer Joined)) : Prop :=
  ∀ reason, ended.value = .error reason → errorCode reason ≠ "slow_consumer" →
    ∃ next, ended.state = some next ∧ Unchanged session next

/-- The join gets as far as an attachment that the session accepts. -/
structure Attaches (keys : List String) (session : Session) (connection : Pid) : Prop where
  subscribed : beforeRefusal fates keys = keys
  connection : setup.connection = some connection
  answered : fates keys.length = .answered
  admits : session.Admits socket.deviceId

/-- For an accepted request of a session that runs: a join that attaches is not rejected afterwards, and one that
does not had nothing to add. -/
def JoinProper (session : Session) : Prop :=
  ∀ keys cursor, normalizeActorKeys params = .ok keys → resumeCursor verified socket params = .ok cursor →
    setup.ensured = true →
    (∀ connection, Attaches socket setup fates keys session connection →
        maxBigint < cursor ∨ ∃ rows, RepairServed encodedBytes node db setup.repair (Fate.after (keys.length + 1) fates)
          cursor ((session.subscribing keys).attachedTo socket.deviceId connection (max cursor session.lastAck)) rows)
      ∧ ((∀ connection, ¬ Attaches socket setup fates keys session connection) →
        ∀ key ∈ beforeRefusal fates keys, key ∈ session.subscriptions)

end Definitions

section Subscriptions

variable {encodedBytes : Frame → Nat} {session : Session} {fates : Nat → Fate} {keys : List String}

theorem unchanged_subscribing :
    Unchanged session (session.subscribing keys) ↔ ∀ key ∈ keys, key ∈ session.subscriptions := by
  constructor
  · intro same key member
    rw [← same.subscriptions]
    exact Finset.mem_union_right _ (List.mem_toFinset.2 member)
  · intro known
    refine ⟨⟨rfl, rfl, ?_, rfl⟩, rfl⟩
    exact Finset.union_eq_left.2 fun key member => known key (List.mem_toFinset.1 member)

variable {readings : Nat → Readings} {next : Answer Unit → SessionClient (Answer Joined)}

/-- Subscriptions that are all answered. -/
theorem subscribeAll_answered (sized : ∀ key ∈ keys, 1 ≤ key.utf8ByteSize ∧ key.utf8ByteSize ≤ 160)
    (answered : beforeRefusal fates keys = keys) (index : Nat) :
    let ended := ((subscribeAll readings index keys).bind next).serve (Session.handle encodedBytes) fates (some session)
    let rest := (next (.ok ())).serve (Session.handle encodedBytes) (Fate.after keys.length fates)
      (some (session.subscribing keys))
    ended.value = rest.value ∧ ended.state = rest.state := by
  induction keys generalizing fates session index with
  | nil =>
    rw [Session.subscribing_nil]
    exact ⟨rfl, rfl⟩
  | cons key keys ih =>
    have first : fates 0 = .answered := by
      by_contra refused
      rw [beforeRefusal_nil refused] at answered
      cases answered
    rw [beforeRefusal_cons first] at answered
    rw [Session.subscribing_cons]
    simp only [subscribeAll, Client.bind]
    rw [serve_reply first (Session.handle_subscribe (sized key (by simp)) _)]
    exact ih (fun other member => sized other (by simp [member])) (List.cons.inj answered).2 (index + 1)

/-- Subscriptions that are cut off by a refused call. -/
theorem subscribeAll_refused (sized : ∀ key ∈ keys, 1 ≤ key.utf8ByteSize ∧ key.utf8ByteSize ≤ 160)
    (inTime : InTime fates) (cut : beforeRefusal fates keys ≠ keys)
    (stops : ∀ reason, next (.error reason) = .done (.error reason)) (index : Nat) :
    let ended := ((subscribeAll readings index keys).bind next).serve (Session.handle encodedBytes) fates (some session)
    ended.value = .error (.call .overloaded)
      ∧ ended.state = some (session.subscribing (beforeRefusal fates keys)) := by
  induction keys generalizing fates session index with
  | nil => exact absurd rfl cut
  | cons key keys ih =>
    simp only [subscribeAll, Client.bind]
    by_cases first : fates 0 = .answered
    · rw [beforeRefusal_cons first] at cut ⊢
      rw [serve_reply first (Session.handle_subscribe (sized key (by simp)) _), Session.subscribing_cons]
      exact ih (fun other member => sized other (by simp [member])) (inTime.after 1)
        (fun same => cut (congrArg _ same)) (index + 1)
    · rw [serve_refused (inTime.refused first), beforeRefusal_nil first, Session.subscribing_nil]
      simp only [Client.bind, stops]
      exact ⟨rfl, rfl⟩

theorem probeActorKey_size {key : String} (valid : probeActorKey key = true) :
    1 ≤ key.utf8ByteSize ∧ key.utf8ByteSize ≤ 160 := by
  simp only [probeActorKey, Bool.and_eq_true, decide_eq_true_eq] at valid
  have split : key.toList = "platform-probe:".toList ++ key.toList.drop 15 := by
    rw [← valid.1, List.take_append_drop]
  have parts : key = "platform-probe:" ++ String.ofList (key.toList.drop 15) := by
    rw [← String.toList_inj, split]
    simp
  have uuid := validUuid_size valid.2
  have front : "platform-probe:".utf8ByteSize = 15 := by decide
  rw [parts, String.utf8ByteSize_append, front]
  omega

theorem normalizeActorKeys_size {params : Json} (accepted : normalizeActorKeys params = .ok keys) :
    ∀ key ∈ keys, 1 ≤ key.utf8ByteSize ∧ key.utf8ByteSize ≤ 160 := by
  intro key member
  apply probeActorKey_size
  unfold normalizeActorKeys at accepted
  split at accepted
  · dsimp only at accepted
    split_ifs at accepted with valid
    cases accepted
    exact List.all_eq_true.1 valid.2 key member
  · split_ifs at accepted with valid
    cases accepted
    rw [List.mem_singleton.1 member]
    exact valid
  · cases accepted

end Subscriptions

section Join

variable {encodedBytes : Frame → Nat} {node : Node} {db : Db} {verified : String → Option ResumeToken} {socket : Socket}
  {setup : JoinSetup} {params : Json} {fates : Nat → Fate} {session : Session} {keys : List String} {cursor : Int}
  {connection : Pid}

/-- A join with an accepted request goes on after its subscriptions only if they succeed. -/
theorem join_eq (authorized : normalizeActorKeys params = .ok keys) (accepted : resumeCursor verified socket params = .ok cursor)
    (ensured : setup.ensured = true) : ∃ next, join node db verified socket setup params
        = (subscribeAll setup.subscribe 0 keys).bind next
      ∧ next (.ok ()) = attachAndRepair node db socket setup cursor
      ∧ ∀ reason, next (.error reason) = .done (.error reason) := by
  unfold join
  rw [authorized, accepted, ensured]
  exact ⟨_, rfl, rfl, fun _ => rfl⟩

theorem resumeCursor_nonneg (accepted : resumeCursor verified socket params = .ok cursor) : 0 ≤ cursor := by
  unfold resumeCursor at accepted
  split at accepted
  · split at accepted
    · cases accepted
    · split at accepted
      · exact verifyResumeToken_nonneg accepted
      · split at accepted
        · cases accepted
          exact le_rfl
        · cases accepted
  · cases accepted

theorem refusal_code (reason : SessionError) : errorCode (.session reason) ≠ "slow_consumer" := by
  cases reason <;> decide

/-- A join that is rejected before it attaches keeps the subscriptions that it made. -/
theorem join_unattached (inTime : InTime fates) (authorized : normalizeActorKeys params = .ok keys)
    (accepted : resumeCursor verified socket params = .ok cursor) (ensured : setup.ensured = true)
    (unattached : ∀ connection, ¬ Attaches socket setup fates keys session connection) :
    let ended := joinServed encodedBytes node db verified socket setup params fates session
    ∃ reason, ended.value = .error reason ∧ errorCode reason ≠ "slow_consumer"
      ∧ ended.state = some (session.subscribing (beforeRefusal fates keys)) := by
  have sized := normalizeActorKeys_size authorized
  obtain ⟨next, joins, onward, stops⟩ : ∃ next, join node db verified socket setup params = _ ∧ _ :=
    join_eq authorized accepted ensured
  simp only [joinServed]
  rw [joins]
  by_cases subscribed : beforeRefusal fates keys = keys
  swap
  · obtain ⟨value, state⟩ := subscribeAll_refused sized inTime subscribed stops 0
    exact ⟨_, value, by decide, state⟩
  obtain ⟨value, state⟩ := subscribeAll_answered sized subscribed 0
  rw [value, state, subscribed, onward]
  unfold attachAndRepair
  cases started : setup.connection with
  | none => exact ⟨_, rfl, by decide, rfl⟩
  | some connection =>
    have fate : Fate.after keys.length fates 0 = fates keys.length := congrArg fates (Nat.zero_add _)
    by_cases answered : fates keys.length = .answered
    · have refuses : ¬ (session.subscribing keys).Admits socket.deviceId := fun admits =>
        unattached connection ⟨subscribed, started, answered, admits⟩
      obtain ⟨reason, refused⟩ := Session.attach_refused refuses connection (some cursor) setup.attach
      have handled : Session.handle encodedBytes
          { readings := setup.attach, message := .attach socket.deviceId connection (some cursor) }
          (session.subscribing keys) = _ := refused
      rw [serve_reply (fate.trans answered) handled]
      exact ⟨_, rfl, refusal_code reason, rfl⟩
    · rw [serve_refused (fate.trans (inTime.refused answered))]
      exact ⟨_, rfl, by decide, rfl⟩

/-- A join that attaches is the repair of the attached session. -/
theorem join_attached (authorized : normalizeActorKeys params = .ok keys)
    (accepted : resumeCursor verified socket params = .ok cursor) (ensured : setup.ensured = true)
    (attaches : Attaches socket setup fates keys session connection) :
    let attached := (session.subscribing keys).attachedTo socket.deviceId connection (max cursor session.lastAck)
    let ended := joinServed encodedBytes node db verified socket setup params fates session
    let repaired := (repair node db setup.repair cursor).serve (Session.handle encodedBytes)
      (Fate.after (keys.length + 1) fates) (some attached)
    (∃ respond : Repair → Joined, ended.value = repairAnswer respond repaired.value) ∧ ended.state = repaired.state := by
  have sized := normalizeActorKeys_size authorized
  have fate : Fate.after keys.length fates 0 = .answered := (congrArg fates (Nat.zero_add _)).trans attaches.answered
  have admits : (session.subscribing keys).Admits socket.deviceId := attaches.admits
  have handled : Session.handle encodedBytes
      { readings := setup.attach, message := .attach socket.deviceId connection (some cursor) }
      (session.subscribing keys) = _ := Session.attach_admitted admits connection (some cursor) setup.attach
  obtain ⟨next, joins, onward, _⟩ : ∃ next, join node db verified socket setup params = _ ∧ _ :=
    join_eq authorized accepted ensured
  simp only [joinServed]
  rw [joins]
  obtain ⟨value, state⟩ := subscribeAll_answered sized attaches.subscribed 0
  rw [value, state, onward]
  unfold attachAndRepair
  rw [attaches.connection]
  rw [serve_reply fate handled]
  rw [serve_map, Fate.after_after]
  exact ⟨⟨_, rfl⟩, rfl⟩

theorem attached_keeps_iff (inTime : InTime fates) (authorized : normalizeActorKeys params = .ok keys)
    (accepted : resumeCursor verified socket params = .ok cursor) (ensured : setup.ensured = true)
    (attaches : Attaches socket setup fates keys session connection) (new : session.connectionPid ≠ some connection) :
    RejectionKeeps session (joinServed encodedBytes node db verified socket setup params fates session)
      ↔ maxBigint < cursor ∨ ∃ rows, RepairServed encodedBytes node db setup.repair (Fate.after (keys.length + 1) fates)
          cursor ((session.subscribing keys).attachedTo socket.deviceId connection (max cursor session.lastAck)) rows := by
  obtain ⟨⟨respond, value⟩, state⟩ := join_attached authorized accepted ensured attaches
  by_cases served : ∃ rows, RepairServed encodedBytes node db setup.repair (Fate.after (keys.length + 1) fates)
      cursor ((session.subscribing keys).attachedTo socket.deviceId connection (max cursor session.lastAck)) rows
  · refine iff_of_true ?_ (.inr served)
    obtain ⟨rows, served⟩ := served
    intro reason rejected reported
    rw [value] at rejected
    obtain ⟨_, ⟨result, done⟩ | slow⟩ := served.ends
    · rw [done] at rejected
      cases rejected
    · rw [slow] at rejected
      cases rejected
      exact absurd rfl reported
  · obtain ⟨failure, next, failed, ended, ⟨other, handled, raised⟩, extended, _, _⟩ :=
      repair_unserved (inTime.after _) (not_exists.1 served)
    rw [gapRead_raised (resumeCursor_nonneg accepted), ← repairReason_eq_none handled] at raised
    rw [failed] at value
    by_cases beyond : maxBigint < cursor
    · refine iff_of_true ?_ (.inl beyond)
      intro reason rejected
      rw [value, repairAnswer, raised.2 beyond] at rejected
      cases rejected
    · refine iff_of_false ?_ (fun either => either.elim beyond served)
      intro keeps
      obtain ⟨reason, given⟩ := Option.ne_none_iff_exists'.1 fun none => beyond (raised.1 none)
      rw [repairAnswer, given] at value
      obtain ⟨last, found, same⟩ := keeps reason value (repairReason_slow other given)
      rw [state, ended] at found
      cases found
      exact new (same.connectionPid.symm.trans extended.connection)

end Join

/-- A probe key that the sample client asks for. -/
def sampleKey : String := "platform-probe:12345678-1234-1234-8234-123456789abc"

/-- The setup of a join for which everything outside the session succeeds. -/
def sampleSetup : JoinSetup where
  ensured := true
  connection := some 8
  subscribe := fun _ => sampleReadings
  attach := sampleReadings
  repair := sampleRound.toRepairReadings

end Liqi.Web
