import Liqi.Realtime.Acknowledgement

/-!
# The queue of unacknowledged frames

The queue is kept with two counters and two memories of identifiers. `queue_represented` is what ties them
together in every state of a session. An acknowledgement drops frames from the front until it meets one that
it does not cover: that removes exactly the covered frames if no covered frame stands behind an uncovered one
(`acknowledgement_removesiff`), which is so as long as events are queued in the order of their sequences.
A repeated acknowledgement is compared with `latest_seen`, which a resume cursor does not raise
(`acks_repeatable_iff`).
-/

namespace Liqi.Realtime

open Postgres Liqi.Database Liqi.Runtime

theorem dropWhile_eq_filter_iff {α : Type} (covered : α → Bool) (queue : List α) :
    queue.dropWhile covered = queue.filter (fun a => !covered a)
      ↔ queue.Pairwise fun earlier later => covered later = true → covered earlier = true := by
  induction queue with
  | nil => simp
  | cons first rest ih =>
    rw [List.pairwise_cons]
    by_cases front : covered first = true
    · simp [front, ih]
    · -- The front is not covered: nothing is dropped, so nothing behind it may be covered.
      rw [List.dropWhile_cons_of_neg front, List.filter_cons_of_pos (by simp [front]), List.cons.injEq,
        eq_self, true_and, eq_comm, List.filter_eq_self]
      constructor
      · intro uncovered
        have none : ∀ a ∈ rest, ¬ covered a = true := fun a member => by simpa using uncovered a member
        refine ⟨fun a member covers => absurd covers (none a member), ?_⟩
        exact List.pairwise_of_forall_mem_list fun _ _ later member covers => absurd covers (none later member)
      · intro separated a member
        simpa using fun covers => front (separated.1 a member covers)

namespace Buffer

/-- The fields of the buffer describe one queue within its limits. -/
structure Represented (buffer : Buffer) : Prop where
  size : buffer.queueSize = buffer.queue.length
  capacity : buffer.queueSize ≤ buffer.config.sessionQueueCapacity
  bytes : buffer.queueBytes = (buffer.queue.map Outbound.bytes).sum
  maxBytes : buffer.queueBytes ≤ buffer.config.sessionQueueMaxBytes
  unclamped : ∀ sequence,
    0 ≤ buffer.queueBytes - (dropAcknowledged buffer.queue sequence { count := 0, bytes := 0 }).2.bytes
  seenSet : buffer.seenEventSet = buffer.seenEventIds.toFinset
  seenDistinct : buffer.seenEventIds.Nodup
  seenBounded : (buffer.seenEventIds.length : Int) ≤ 2 * buffer.config.sessionQueueCapacity
  queuedSeen : ∀ outbound ∈ buffer.queue, outbound.eventId ∈ buffer.seenEventSet
  queuedDistinct : (buffer.queue.map Outbound.eventId).Nodup

variable {buffer : Buffer} {sequence cursor : Int}

theorem Sound.represented (sound : buffer.Sound) (maxBytes : buffer.queueBytes ≤ buffer.config.sessionQueueMaxBytes) :
    buffer.Represented where
  size := sound.size
  capacity := sound.room
  bytes := sound.bytes
  maxBytes := maxBytes
  unclamped := by
    intro sequence
    have counted := dropAcknowledged_bytes buffer.queue sequence { count := 0, bytes := 0 }
    have bytes := sound.bytes
    dsimp only at counted
    omega
  seenSet := sound.members
  seenDistinct := sound.distinct
  seenBounded := by
    have bounded := sound.bounded
    omega
  queuedSeen := by
    intro outbound queued
    rw [sound.members, List.mem_toFinset]
    exact sound.recent.subset (List.mem_map_of_mem queued)
  queuedDistinct := sound.recent.sublist.nodup sound.distinct

theorem Sound.acknowledge_bytes_le (sound : buffer.Sound) :
    (buffer.acknowledge sequence cursor).queueBytes ≤ buffer.queueBytes := by
  have bytes := sound.bytes
  dsimp only [Buffer.acknowledge]
  omega

/-- No frame up to the sequence is queued behind a frame beyond it. -/
def Separated (buffer : Buffer) (sequence : Int) : Prop :=
  buffer.queue.Pairwise fun earlier later => later.sequence ≤ sequence → earlier.sequence ≤ sequence

/-- The queued frames beyond the sequence. -/
def uncovered (buffer : Buffer) (sequence : Int) : List Outbound :=
  buffer.queue.filter fun outbound => sequence < outbound.sequence

theorem acknowledge_queue_eq_uncovered :
    (buffer.acknowledge sequence cursor).queue = buffer.uncovered sequence ↔ buffer.Separated sequence := by
  have removes := dropWhile_eq_filter_iff (fun outbound => decide (outbound.sequence ≤ sequence)) buffer.queue
  simp only [decide_eq_true_eq, ← decide_not, not_le] at removes
  rw [acknowledge_queue]
  exact removes

end Buffer

namespace Session

section

variable {encodedBytes : Frame → Nat} {config : RuntimeConfig} {sessionId : String} {timer : TimerRef}
  {inputs : List Input} {input : Input} {session next : Session}

theorem BufferStep.maxBytes {buffer : Buffer} (step : BufferStep encodedBytes input session buffer)
    (sound : session.Sound) (fits : session.queueBytes ≤ session.config.sessionQueueMaxBytes) :
    buffer.queueBytes ≤ buffer.config.sessionQueueMaxBytes := by
  rw [step.config]
  cases step with
  | kept => exact fits
  | attached | acked => exact sound.acknowledge_bytes_le.trans fits
  | pushed _ _ room => exact room.bytes
  | cleared =>
    have limit := session.config.queueMaxBytes
    dsimp only [Buffer.clear]
    omega

theorem run_maxBytes (ran : run encodedBytes config sessionId timer inputs = some session) :
    session.queueBytes ≤ session.config.sessionQueueMaxBytes := by
  have limit := config.queueMaxBytes
  refine (Beam.run_invariant (P := fun session : Session =>
    session.Sound ∧ session.queueBytes ≤ session.config.sessionQueueMaxBytes) ⟨init_sound, ?_⟩ ?_ ran).2
  · dsimp only [init]
    omega
  · rintro before input after ⟨sound, fits⟩ stepped
    have step := handle_bufferStep stepped
    exact ⟨step.sound sound, step.maxBytes sound fits⟩

end

/-- **Representation.** In every state of every session the counters, the queue and the two memories of
identifiers describe one queue of distinct remembered events within its limits, and the subtraction of
acknowledged bytes is never cut off at zero. -/
theorem queue_represented (encodedBytes : Frame → Nat) (config : RuntimeConfig) (sessionId : String)
    (timer : TimerRef) (inputs : List Input) (session : Session)
    (ran : run encodedBytes config sessionId timer inputs = some session) :
    session.config = config ∧ session.Represented :=
  ⟨run_config ran, (run_sound ran).represented (run_maxBytes ran)⟩

/-- Four deliveries to a session with room for two of them. -/
theorem overflowed_queue_represented : ∃ session,
    run (fun _ => 200) smallConfig "session" 0 (sampleDeliveries [1, 2, 3, 4]) = some session
      ∧ session.queue.map Outbound.sequence = [4] ∧ session.config = smallConfig ∧ session.Represented := by
  refine ⟨_, rfl, by decide, ?_⟩
  exact queue_represented (fun _ => 200) smallConfig "session" 0 (sampleDeliveries [1, 2, 3, 4]) _ rfl

section

variable {encodedBytes : Frame → Nat} {config : RuntimeConfig} {sessionId : String} {timer : TimerRef}
  {inputs : List Input} {input : Input} {session next : Session} {cursor : Int}

theorem ack_accepted {sequence : Int} (nonneg : 0 ≤ sequence) (delivered : sequence ≤ session.latestSeen)
    (readings : Readings) : session.ack readings (some sequence)
      = .reply (.acknowledged (max session.lastAck sequence)
          (session.sign readings session.deviceId (max session.lastAck sequence)))
        { session with toBuffer := session.acknowledge sequence (max session.lastAck sequence) } [] := by
  have positive : ¬ sequence < 0 := by omega
  have seen : ¬ session.latestSeen < sequence := by omega
  simp only [ack, if_neg positive, if_neg seen]

/-- The message is an accepted `ack` of the cursor, or an accepted `attach` that results in it. -/
inductive Acknowledges (session : Session) (input : Input) (cursor : Int) : Prop where
  | ack (accepts : AcceptsAck input session cursor)
  | attach {deviceId : String} {connection : Pid} {resumeCursor : Option Int}
      (message : input.message = .attach deviceId connection resumeCursor) (admits : session.Admits deviceId)
      (result : cursor = max (resumeCursor.getD 0) session.lastAck)

/-- The frames among the effects. -/
def sentFrames (effects : List Effect) : List Frame :=
  effects.filterMap fun
    | .frame _ frame => some frame
    | _ => none

/-- The frames beyond the cursor stay queued, in their order; only they are counted and sent again. -/
structure RemovesCovered (session next : Session) (effects : List Effect) (cursor : Int) : Prop where
  queue : next.queue = session.uncovered cursor
  size : next.queueSize = (session.uncovered cursor).length
  bytes : next.queueBytes = ((session.uncovered cursor).map Outbound.bytes).sum
  replayed : ∀ frame ∈ sentFrames effects, ∃ outbound ∈ session.uncovered cursor, outbound.frame = frame

theorem sentFrames_attach {deviceId : String} {connection : Pid} :
    sentFrames (session.attachEffects (session.attachedTo deviceId connection cursor) connection)
      = (session.acknowledge cursor cursor).queue.map Outbound.frame := by
  have timers : ∀ timers : List TimerRef, sentFrames (timers.map Effect.cancelTimer) = [] := fun timers => by
    simp [sentFrames, List.filterMap_map]
  have closes : ∀ connections : List Pid, sentFrames (connections.map (Effect.close · .reattached)) = [] :=
    fun connections => by simp [sentFrames, List.filterMap_map]
  have frames : ∀ frames : List Frame, sentFrames (frames.map (Effect.frame connection)) = frames := fun frames => by
    simp [sentFrames, List.filterMap_map]
  have split : ∀ before after, sentFrames (before ++ after) = sentFrames before ++ sentFrames after :=
    fun before after => List.filterMap_append
  simp only [attachEffects, split, timers, closes, List.nil_append]
  exact frames _

/-- Both messages drop the front of the queue up to the cursor, and send again what is left of it, if anything. -/
theorem Acknowledges.handled (acknowledges : session.Acknowledges input cursor) :
    ∃ reply next effects, handle encodedBytes input session = .reply reply next effects
      ∧ next.toBuffer = session.acknowledge cursor (max session.lastAck cursor)
      ∧ next.gapRequired = session.gapRequired
      ∧ ∀ frame ∈ sentFrames effects, ∃ outbound ∈ next.queue, outbound.frame = frame := by
  rcases input with ⟨readings, message⟩
  cases acknowledges with
  | ack accepts =>
    obtain ⟨rfl, nonneg, delivered⟩ := accepts
    simp only [handle, ack_accepted nonneg delivered]
    exact ⟨_, _, _, rfl, rfl, rfl, by simp [sentFrames]⟩
  | attach message admits result =>
    cases message
    have reached : max session.lastAck cursor = cursor := max_eq_right (by omega)
    simp only [handle, attach_admitted admits, ← result, reached]
    refine ⟨_, _, _, rfl, rfl, rfl, fun frame sent => ?_⟩
    rw [sentFrames_attach] at sent
    exact List.mem_map.1 sent

end

/-- Event 2 arrives live before the repair delivers event 1. -/
def overtakenEvent : List Input :=
  [sampleInput (.attach "device" 7 (some 0)), sampleInput (.committedEvent (sampleEvent 2)),
    sampleInput (.deliver (sampleEvent 1))]

section

variable {encodedBytes : Frame → Nat} {input : Input} {session : Session}

/-- An `ack` up to the cursor is answered with the cursor and leaves it where it is. -/
def RepeatsAcks (encodedBytes : Frame → Nat) (session : Session) : Prop :=
  ∀ (readings : Readings) (sequence : Int), 0 ≤ sequence → sequence ≤ session.lastAck → ∃ next,
    handle encodedBytes { readings, message := .ack (some sequence) } session
        = .reply (.acknowledged session.lastAck (session.sign readings session.deviceId session.lastAck)) next []
      ∧ next.lastAck = session.lastAck

/-- An accepted `attach` presents no resume cursor beyond `latest_seen`. -/
def ResumesSeen (input : Input) (session : Session) : Prop :=
  ∀ deviceId connection cursor, input.message = .attach deviceId connection (some cursor) →
    session.Admits deviceId → cursor ≤ session.latestSeen

/-- The cursor is not beyond the latest sequence that was seen. -/
structure CursorSeen (session : Session) : Prop where
  cursor : 0 ≤ session.lastAck
  seen : session.lastAck ≤ session.latestSeen

theorem CursorSeen.repeatsAcks (cursorSeen : session.CursorSeen) : session.RepeatsAcks encodedBytes := by
  intro readings sequence nonneg acknowledged
  have same : max session.lastAck sequence = session.lastAck := max_eq_left acknowledged
  simp only [handle, ack_accepted nonneg (acknowledged.trans cursorSeen.seen), same]
  exact ⟨_, rfl, rfl⟩

theorem CursorSeen.step {next : Session} {effects : List Effect} (cursorSeen : session.CursorSeen)
    (step : Step encodedBytes input session next effects) (resumes : ResumesSeen input session) :
    next.CursorSeen := by
  have cursor := cursorSeen.cursor
  have seen := cursorSeen.seen
  cases step with
  | kept => exact cursorSeen
  | @attached deviceId connection resumeCursor message admits =>
    refine ⟨le_max_of_le_right cursor, max_le ?_ seen⟩
    rcases resumeCursor with _ | resumeCursor
    · exact cursor.trans seen
    · exact resumes _ _ _ message admits
  | subscribed => exact ⟨cursor, seen⟩
  | acked _ nonneg delivered => exact ⟨le_max_of_le_left cursor, max_le seen delivered⟩
  | pushed | cleared => exact ⟨cursor, le_max_of_le_left seen⟩
  | revoked | detached => exact ⟨cursor, seen⟩

/-- A resume cursor beyond `latest_seen` leaves a session that refuses its own cursor. -/
theorem not_repeatsAcks_of_ahead (cursorSeen : session.CursorSeen) (ahead : ¬ ResumesSeen input session) :
    ∃ next, (handle encodedBytes input session).next? = some next ∧ ¬ next.RepeatsAcks encodedBytes := by
  simp only [ResumesSeen, not_forall, not_le] at ahead
  obtain ⟨deviceId, connection, cursor, message, admits, beyond⟩ := ahead
  rcases input with ⟨readings, _⟩
  cases message
  refine ⟨session.attachedTo deviceId connection (max cursor session.lastAck), ?_, fun repeats => ?_⟩
  · simp only [handle, attach_admitted admits]
    rfl
  · have lastAck : (session.attachedTo deviceId connection (max cursor session.lastAck)).lastAck
        = max cursor session.lastAck := rfl
    have latestSeen : (session.attachedTo deviceId connection (max cursor session.lastAck)).latestSeen
        = session.latestSeen := rfl
    have cursorNonneg := cursorSeen.cursor
    obtain ⟨next, answered, _⟩ := repeats readings (max cursor session.lastAck) (by omega) lastAck.ge
    simp only [handle, ack, latestSeen] at answered
    split_ifs at answered <;> first | omega | cases answered

theorem run_lastAck_le {encodedBytes : Frame → Nat} {start session later : Session} {inputs more : List Input}
    (ran : Beam.run (handle encodedBytes) start inputs = some session)
    (ranOn : Beam.run (handle encodedBytes) start (inputs ++ more) = some later) : session.lastAck ≤ later.lastAck := by
  rw [Beam.run_append, ran, Option.bind_some] at ranOn
  exact Beam.run_invariant (P := fun later => session.lastAck ≤ later.lastAck) le_rfl
    (fun _ _ _ behind stepped => behind.trans (handle_bufferStep stepped).lastAck_le) ranOn

end

/-- **Repeated acknowledgements.** In every state of a run an acknowledgement up to the cursor is accepted and
answered with the cursor, exactly if every accepted `attach` of the run presents a resume cursor that is not
beyond `latest_seen`. The cursor never goes back. -/
theorem acks_repeatable_iff (encodedBytes : Frame → Nat) (config : RuntimeConfig) (sessionId : String)
    (timer : TimerRef) (inputs : List Input) :
    (Beam.Throughout (handle encodedBytes) (init config sessionId timer)
        (fun session => session.RepeatsAcks encodedBytes) inputs
      ↔ Beam.Along (handle encodedBytes) (init config sessionId timer) ResumesSeen inputs)
    ∧ ∀ before more session later, before ++ more <+: inputs →
        run encodedBytes config sessionId timer before = some session →
        run encodedBytes config sessionId timer (before ++ more) = some later → session.lastAck ≤ later.lastAck := by
  refine ⟨?_, fun _ _ _ _ _ ran ranOn => run_lastAck_le ran ranOn⟩
  refine Beam.throughout_iff_along (L := fun _ => True) (I := CursorSeen) (fun _ _ => trivial) ⟨le_rfl, le_rfl⟩
    (fun _ cursorSeen => cursorSeen.repeatsAcks) ?_ ?_
  · intro input before after _ cursorSeen resumes stepped
    exact cursorSeen.step (handle_step stepped) resumes
  · intro input before _ cursorSeen ahead
    exact not_repeatsAcks_of_ahead cursorSeen ahead

/-- A session that was built again resumes from cursor 5 and refuses an acknowledgement of 5. -/
theorem resumed_cursor_refused :
    (run (fun _ => 200) smallConfig "session" 0 [sampleInput (.attach "device" 7 (some 5))]).map (fun session =>
        (session.lastAck, (handle (fun _ => 200) (sampleInput (.ack (some 5))) session).reply?))
      = some (5, some (.error .ackAheadOfDelivery)) := by decide

end Session

end Liqi.Realtime
