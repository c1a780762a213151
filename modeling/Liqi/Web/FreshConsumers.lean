import Liqi.Realtime.RepairLoop
import Liqi.Web.PlatformChannel

/-!
# Consumers without a cursor

A dispatcher that has just been started and a client without a resume token both read the log from its
beginning. Once retention has deleted a row, the beginning is behind the watermark, and both are refused with
`realtime_cursor_gap`: `fresh_consumers_iff`.
-/

namespace Liqi.Web

open Beam Postgres Liqi.Database Liqi.Runtime Liqi.Native Liqi.Realtime

/-! ## The dispatcher -/

section Poll

variable {config : RuntimeConfig} {db : Db}

/-- A read from the beginning with the page size of the dispatcher. -/
theorem readHandoff_start : readHandoff db 0 config.handoffBatchSize
    = if db.retainedAfterHandoffId = 0 then .ok (db.handoffV1.page 0 config.handoffBatchSize.toNat)
      else .error (.persistence .realtimeCursorGap) := by
  have batch := config.handoffBatch
  rw [readHandoff_page (le_refl 0) (by decide) (by omega) (by omega), ← ite_not]
  exact if_congr (by simp) rfl rfl

/-- The first poll, with a database permit. -/
theorem doPoll_start {inUse : Int} (free : inUse < config.databaseConcurrency) (enabled : Bool) :
    ((Dispatcher.init config enabled).doPoll inUse db).1
      = if db.retainedAfterHandoffId = 0 then .ok (db.handoffV1.page 0 config.handoffBatchSize.toNat).length
        else .error (.handoff (.persistence .realtimeCursorGap)) := by
  have permit : ¬ config.databaseConcurrency ≤ inUse := by omega
  unfold Dispatcher.doPoll withPermit
  simp only [Dispatcher.init, if_neg permit, readHandoff_start]
  by_cases retained : db.retainedAfterHandoffId = 0
  · simp only [if_pos retained]
    rfl
  · simp only [if_neg retained]
    rfl

end Poll

/-! ## The repair of a join -/

section Repair

variable {encodedBytes : Frame → Nat} {clocks : Nat → Readings} {node : Node} {db : Db} {readings : RepairReadings}

/-- None of the deliveries from `index` on finds the queue without room for a new event. -/
def Accepts (encodedBytes : Frame → Nat) (clocks : Nat → Readings) : Nat → List HandoffEvent → Session → Prop
  | _, [], _ => True
  | index, row :: rest, session =>
    (session.Fresh (eventOfRow row) row.handoffId →
        session.HasRoom encodedBytes (clocks index) (eventOfRow row) row.handoffId)
      ∧ Accepts encodedBytes clocks (index + 1) rest
        (session.enqueueEvent encodedBytes (clocks index) (eventOfRow row)).2.1

/-- Deliveries succeed exactly if each finds room, and otherwise end with `slow_consumer`. -/
theorem deliverAll_value (index : Nat) (rows : List HandoffEvent) (session : Session) :
    let value := ((deliverAll clocks index rows).exec (Session.handle encodedBytes) true (some session)).value
    (Accepts encodedBytes clocks index rows session → value = .ok ())
      ∧ (¬ Accepts encodedBytes clocks index rows session → value = .error .slowConsumer) := by
  simp only [exec_eq_serve, if_true]
  induction rows generalizing index session with
  | nil => exact ⟨fun _ => rfl, fun none => absurd trivial none⟩
  | cons row rest ih =>
    by_cases finds : session.Fresh (eventOfRow row) row.handoffId →
        session.HasRoom encodedBytes (clocks index) (eventOfRow row) row.handoffId
    · obtain ⟨effects, ran⟩ := @Session.deliverAll_passes _ _ _ rest _ _ (fun _ => .answered) rfl finds
      obtain ⟨succeeds, fails⟩ := ih (index + 1) (session.enqueueEvent encodedBytes (clocks index) (eventOfRow row)).2.1
      rw [ran]
      exact ⟨fun accepts => succeeds accepts.2, fun refuses => fails fun accepts => refuses ⟨finds, accepts⟩⟩
    · obtain ⟨fresh, full⟩ := Classical.not_imp.1 finds
      obtain ⟨next, effects, ran⟩ := @Session.deliverAll_full _ _ _ rest _ _ (fun _ => .answered) rfl fresh full
      rw [ran]
      exact ⟨fun accepts => absurd accepts.1 finds, fun _ => rfl⟩

/-- The value of a repair whose page is verified. -/
theorem repair_value {cursor : Nat} (verifiable : Verifiable node db cursor) (session : Session) :
    let accepts := Accepts encodedBytes readings.deliveries 0
      (relevantRows session.subscriptions (repairPage node db cursor)) session
    let value := ((repair node db readings cursor).exec (Session.handle encodedBytes) true (some session)).value
    (accepts → ∃ result, value = .ok result) ∧ (¬ accepts → value = .error .slowConsumer) := by
  have delivered : (Accepts encodedBytes readings.deliveries 0 _ session → _) ∧ _ :=
    deliverAll_value 0 (relevantRows session.subscriptions (repairPage node db cursor)) session
  have completes := verifiable.completes encodedBytes readings session
  exact ⟨fun accepts => completes.done (delivered.1 accepts), fun refuses => completes.failed (delivered.2 refuses)⟩

/-- What a repair from the beginning of the log needs in order to succeed. -/
structure RepairsFromStart (encodedBytes : Frame → Nat) (node : Node) (db : Db) (readings : RepairReadings) (mailbox : Int)
    (session : Session) : Prop where
  size : node.config.sessionQueueCapacity ≤ 128
  kernel : node.KernelUsable ∨ db.handoffV1.lastHandoffId = 0
  mailbox : mailbox < node.config.actorMailboxReject
  room : Accepts encodedBytes readings.deliveries 0 (relevantRows session.subscriptions (repairPage node db 0)) session

theorem failed_iff {value : Except RepairError Realtime.Repair} {failure : RepairError} {succeeds gap : Prop}
    (failed : value = .error failure) (other : failure ≠ .handoff (.persistence .realtimeCursorGap))
    (unsuccessful : ¬ succeeds) (gapless : ¬ gap) :
    ((∃ result, value = .ok result) ↔ succeeds)
      ∧ (value = .error (.handoff (.persistence .realtimeCursorGap)) ↔ gap) := by
  subst failed
  exact ⟨iff_of_false (by simp) unsuccessful, iff_of_false (by simpa using other) gapless⟩

/-- A repair from the beginning of the log: when it succeeds, and when it is told of a gap. -/
theorem repair_start (log : Retains db.retainedAfterHandoffId db.handoffV1) (mailbox : Int) (session : Session) :
    let value := (callSession encodedBytes node.config mailbox (repair node db readings 0) (some session)).value
    ((∃ result, value = .ok result)
        ↔ db.retainedAfterHandoffId = 0 ∧ RepairsFromStart encodedBytes node db readings mailbox session)
      ∧ (value = .error (.handoff (.persistence .realtimeCursorGap))
        ↔ db.retainedAfterHandoffId ≠ 0 ∧ node.config.sessionQueueCapacity ≤ 128) := by
  have bigint : ((0 : Nat) : Int) ≤ maxBigint := by decide
  rw [show (0 : Int) = ((0 : Nat) : Int) from rfl]
  intro value
  have ended : ∀ {result}, repair node db readings (0 : Nat) = .done result → value = result := by
    intro result done
    simp only [value, done]
    rfl
  by_cases size : node.config.sessionQueueCapacity ≤ 128
  swap
  · have refused : ∃ failure, repair node db readings (0 : Nat) = _ ∧ _ := repair_refused (.inl (not_le.1 size))
    obtain ⟨failure, refused, other⟩ := refused
    exact failed_iff (ended refused) (by simpa using other) (fun both => size both.2.size) fun both => size both.2
  by_cases retained : db.retainedAfterHandoffId = 0
  swap
  · have told := ended (repair_gap (Nat.pos_of_ne_zero retained) bigint size)
    exact ⟨iff_of_false (by simp [told]) fun both => retained both.1, iff_of_true told ⟨retained, size⟩⟩
  -- From here on the log is whole, and no gap is told.
  have gapless : ¬ (db.retainedAfterHandoffId ≠ 0 ∧ node.config.sessionQueueCapacity ≤ 128) := fun both => both.1 retained
  have readable : Readable node db 0 := ⟨log, Nat.le_of_eq retained, bigint, size⟩
  have empty : repairPage node db 0 = [] ↔ db.handoffV1.lastHandoffId = 0 := by
    rw [readable.page_eq_nil, Nat.le_zero]
  by_cases kernel : node.KernelUsable ∨ repairPage node db 0 = []
  swap
  · have unverified : ∃ failure, repair node db readings (0 : Nat) = _ := repair_unverified readable kernel
    obtain ⟨failure, failed⟩ := unverified
    exact failed_iff (ended failed) (by simp) (fun both => kernel (both.2.kernel.imp_right empty.2)) gapless
  have verifiable : Verifiable node db 0 := ⟨readable, kernel⟩
  by_cases admitted : mailbox < node.config.actorMailboxReject
  swap
  · have refused : value = .error (.actor .overloaded) := by
      simp only [value, callSession, admits, admitted, exec_eq_serve]
      exact congrArg Exchange.value (verifiable.pageRead.refused rfl)
    exact failed_iff refused (by simp) (fun both => admitted both.2.mailbox) gapless
  have values : (Accepts encodedBytes readings.deliveries 0 _ session → _) ∧ _ := repair_value verifiable session
  have served : value = ((repair node db readings (0 : Nat)).exec (Session.handle encodedBytes) true (some session)).value := by
    simp only [value, callSession, admits, admitted, decide_true]
  rw [← served] at values
  by_cases room : Accepts encodedBytes readings.deliveries 0
      (relevantRows session.subscriptions (repairPage node db 0)) session
  · obtain ⟨result, done⟩ := values.1 room
    exact ⟨iff_of_true ⟨result, done⟩ ⟨retained, size, kernel.imp_right empty.1, admitted, room⟩,
      iff_of_false (by simp [done]) gapless⟩
  · exact failed_iff (values.2 room) (by simp) (fun both => room both.2.room) gapless

end Repair

/-- A client without a resume token repairs from the beginning of the log. -/
theorem resumeCursor_tokenless {verified : String → Option ResumeToken} {socket : Socket} {params : Json} {cursor : Int}
    (tokenless : (params.get "resumeToken").string? = none) (accepted : resumeCursor verified socket params = .ok cursor) :
    cursor = 0 := by
  unfold resumeCursor at accepted
  split at accepted
  · split at accepted
    · cases accepted
    · split at accepted
      next token found =>
        rw [found] at tokenless
        cases tokenless
      next =>
        split at accepted
        · cases accepted
          rfl
        · cases accepted
  · cases accepted

/-- **Fresh consumers and retention.** For every run of the database functions, with a database permit: the
first poll of a new dispatcher and the repair of a client that joins without a resume token both succeed
exactly if no prune of the run deleted a row and the repair does not fail on its own; after a prune that
deleted one, the poll and every repair with an accepted page size are told of a gap. -/
theorem fresh_consumers_iff (encodedBytes : Frame → Nat) (calls : List Call) (node : Node)
    (available : node.databaseInUse < node.config.databaseConcurrency) (enabled : Bool)
    (verified : String → Option ResumeToken) (socket : Socket) (params : Json) (cursor : Int)
    (tokenless : (params.get "resumeToken").string? = none) (accepted : resumeCursor verified socket params = .ok cursor)
    (readings : RepairReadings) (mailbox : Int) (session : Session) :
    let db := runCalls calls
    let poll := ((Dispatcher.init node.config enabled).doPoll node.databaseInUse db).1
    let repaired := (callSession encodedBytes node.config mailbox (repair node db readings cursor) (some session)).value
    (((∃ count, poll = .ok count) ∧ ∃ result, repaired = .ok result)
        ↔ NothingPruned calls ∧ RepairsFromStart encodedBytes node db readings mailbox session)
      ∧ (poll = .error (.handoff (.persistence .realtimeCursorGap)) ↔ ¬ NothingPruned calls)
      ∧ (repaired = .error (.handoff (.persistence .realtimeCursorGap))
        ↔ ¬ NothingPruned calls ∧ node.config.sessionQueueCapacity ≤ 128) := by
  intro db poll repaired
  have start := resumeCursor_tokenless tokenless accepted
  subst start
  have log : Retains db.retainedAfterHandoffId db.handoffV1 := runCalls_logsRetained calls .v1
  have polled : poll = _ := doPoll_start available enabled
  have repair : ((∃ result, repaired = .ok result) ↔ _) ∧ (repaired = _ ↔ _) := repair_start log mailbox session
  rw [← runCalls_watermark calls]
  refine ⟨?_, ?_, repair.2⟩
  · rw [repair.1, polled]
    constructor
    · exact fun both => both.2
    · intro both
      exact ⟨⟨_, if_pos both.1⟩, both⟩
  · rw [polled]
    constructor
    · intro gap retained
      rw [if_pos retained] at gap
      cases gap
    · exact fun retained => if_neg retained

/-- An event that is published and pruned. -/
def prunedRun : List Call := samplePublish 1 "sample" ++ [.pruneHandoff (some 1) (some 500) fun _ => false]

/-- After the prune a new dispatcher and a client without a token are both refused. -/
theorem fresh_consumers_refused :
    ((Dispatcher.init sampleNode.config true).doPoll 0 (runCalls prunedRun)).1
        = .error (.handoff (.persistence .realtimeCursorGap))
      ∧ ∀ readings, repair sampleNode (runCalls prunedRun) readings 0
        = .done (.error (.handoff (.persistence .realtimeCursorGap))) := by
  have raised : (runCalls prunedRun).retainedAfterHandoffId = 1 := by decide
  refine ⟨?_, fun readings => ?_⟩
  · rw [doPoll_start (by decide), raised]
    rfl
  · exact repair_gap (by rw [raised]; decide) (by decide) (by decide)

/-- Before it, both get the event. -/
theorem fresh_consumers_served :
    (sampleNode.databaseInUse < sampleNode.config.databaseConcurrency
      ∧ ((Json.map []).get "resumeToken").string? = none
      ∧ resumeCursor (fun _ => none) { sessionId := "session", deviceId := "device" } (.map []) = .ok 0)
    ∧ (∃ count, ((Dispatcher.init sampleNode.config true).doPoll 0 (runCalls (samplePublish 1 "sample"))).1 = .ok count)
    ∧ ∃ result, (callSession (fun _ => 200) sampleNode.config 0 (repair sampleNode (runCalls (samplePublish 1 "sample"))
        sampleRound.toRepairReadings 0) (some (sampleStart {"sample"}))).value = .ok result := by
  refine ⟨⟨by decide, rfl, rfl⟩, (fresh_consumers_iff (fun _ => 200) (samplePublish 1 "sample") sampleNode (by decide) true
    (fun _ => none) { sessionId := "session", deviceId := "device" } (.map []) 0 rfl rfl sampleRound.toRepairReadings 0
    (sampleStart {"sample"})).1.2 ⟨?_, ?_⟩⟩
  · exact (runCalls_watermark _).1 (by decide)
  · refine ⟨by decide, .inl ⟨by decide, by decide⟩, by decide, fun _ => ⟨by decide, by decide, by decide, by decide⟩, ?_⟩
    trivial

end Liqi.Web
