import Liqi.Realtime.SessionBuffer

/-!
# What a message does to a session

`Step` lists the transitions of the session actor with their guards, the state after them and their effects.
The results about whole runs (device binding, revocation, the idle timer, the connection) are case analyses
over it and do not look at the handlers again. `BufferStep` is the part of a step that concerns the buffer, for the
results about the queue.
-/

namespace Liqi.Realtime

open Postgres Liqi.Database Liqi.Runtime

namespace Session

/-- The session of an accepted `attach`; `cursor` is the larger of the resume cursor and `last_ack`. -/
def attachedTo (session : Session) (deviceId : String) (connection : Pid) (cursor : Int) : Session :=
  { session with
    toBuffer := session.acknowledge cursor cursor
    deviceId := some deviceId
    connectionPid := some connection
    idleTimer := none }

/-- The effects of an accepted `attach`. -/
def attachEffects (session attached : Session) (connection : Pid) : List Effect :=
  session.idleTimer.toList.map Effect.cancelTimer
    ++ (session.connectionPid.toList.filter (· ≠ connection)).map (Effect.close · .reattached)
    ++ attached.toConnection (attached.queue.map Outbound.frame)

/-- The guards of the clause that accepts an `attach`. -/
def Admits (session : Session) (deviceId : String) : Prop :=
  session.revoked = false ∧ ∀ other, session.deviceId = some other → other = deviceId

/-- The session with more subscriptions. -/
def subscribing (session : Session) (keys : List String) : Session :=
  { session with subscriptions := session.subscriptions ∪ keys.toFinset }

/-- The session without its connection and its queue, after an event found no room. -/
def overflowed (session : Session) (sequence : Int) : Session :=
  { session with toBuffer := session.clear sequence, connectionPid := none, gapRequired := true }

/-- The session after a `revoke`. -/
def revokedFrom (session : Session) : Session :=
  { session with revoked := true, connectionPid := none, subscriptions := ∅ }

/-- The transitions of a session that goes on. -/
inductive Step (encodedBytes : Frame → Nat) (input : Input) (session : Session) : Session → List Effect → Prop where
  | kept : Step encodedBytes input session session []
  | attached {deviceId : String} {connection : Pid} {resumeCursor : Option Int}
      (message : input.message = .attach deviceId connection resumeCursor) (admits : session.Admits deviceId) :
      Step encodedBytes input session (session.attachedTo deviceId connection (max (resumeCursor.getD 0) session.lastAck))
        (session.attachEffects (session.attachedTo deviceId connection (max (resumeCursor.getD 0) session.lastAck)) connection)
  | subscribed {actorKey : String} (message : input.message = .subscribe (some actorKey))
      (size : 1 ≤ actorKey.utf8ByteSize ∧ actorKey.utf8ByteSize ≤ 160) :
      Step encodedBytes input session { session with subscriptions := insert actorKey session.subscriptions }
        [.subscribe (topic actorKey)]
  | acked {sequence : Int} (message : input.message = .ack (some sequence)) (nonneg : 0 ≤ sequence)
      (delivered : sequence ≤ session.latestSeen) :
      Step encodedBytes input session
        { session with toBuffer := session.acknowledge sequence (max session.lastAck sequence) } []
  | pushed {event : Event} {sequence : Int} (brings : input.message.event? = some event)
      (fresh : session.Fresh event sequence) (room : session.HasRoom encodedBytes input.readings event sequence) :
      Step encodedBytes input session
        { session with toBuffer := session.push (session.outbound encodedBytes input.readings event sequence) }
        (session.toConnection [session.eventFrame input.readings sequence event])
  | cleared {event : Event} {sequence : Int} (brings : input.message.event? = some event)
      (fresh : session.Fresh event sequence) (full : ¬ session.HasRoom encodedBytes input.readings event sequence) :
      Step encodedBytes input session (session.overflowed sequence)
        (session.closeConnection
          (session.frame input.readings.noticeStamp (.slowConsumer session.lastAck session.lastAck)) .slowConsumer)
  | revoked {reason : String} (message : input.message = .revoke reason) :
      Step encodedBytes input session session.revokedFrom
        ((session.subscriptions.sort (· ≤ ·)).map (Effect.unsubscribe ∘ topic)
          ++ session.closeConnection (session.frame input.readings.noticeStamp (.accessRevoked reason)) .accessRevoked)
  | detached {connection : Pid} (message : input.message = .detach connection)
      (current : session.connectionPid = some connection) :
      Step encodedBytes input session { session with connectionPid := none, idleTimer := some input.readings.timer }
        [.sendAfter input.readings.timer session.config.actorIdleTtlMs]

section

variable {encodedBytes : Frame → Nat} {input : Input} {session next : Session} {event : Event}

theorem attach_admitted {deviceId : String} (admits : session.Admits deviceId) (connection : Pid)
    (resumeCursor : Option Int) (readings : Readings) :
    let attached := session.attachedTo deviceId connection (max (resumeCursor.getD 0) session.lastAck)
    session.attach readings deviceId connection resumeCursor
      = .reply (.attached attached.sessionId attached.lastAck (attached.sign readings (some deviceId) attached.lastAck))
        attached (session.attachEffects attached connection) := by
  have same : ¬ session.deviceId.any (· ≠ deviceId) = true := by
    rcases found : session.deviceId with _ | other
    · simp
    · simp [admits.2 other found]
  have access : ¬ session.revoked = true := Bool.eq_false_iff.1 admits.1
  unfold attach
  rw [if_neg access, if_neg same]
  rfl

theorem attach_refused {deviceId : String} (refuses : ¬ session.Admits deviceId) (connection : Pid)
    (resumeCursor : Option Int) (readings : Readings) :
    ∃ reason, session.attach readings deviceId connection resumeCursor = .reply (.error reason) session [] := by
  unfold attach
  split_ifs with gone other
  · exact ⟨_, rfl⟩
  · exact ⟨_, rfl⟩
  · refine absurd ⟨Bool.eq_false_iff.2 gone, fun device found => ?_⟩ refuses
    by_contra different
    exact other (by simp [found, different])

theorem handle_subscribe {actorKey : String} (size : 1 ≤ actorKey.utf8ByteSize ∧ actorKey.utf8ByteSize ≤ 160)
    (readings : Readings) :
    handle encodedBytes { readings, message := .subscribe (some actorKey) } session
      = .reply .ok { session with subscriptions := insert actorKey session.subscriptions } [.subscribe (topic actorKey)] := by
  simp only [handle, subscribe, if_pos size]

theorem subscribing_nil : session.subscribing [] = session := by
  simp [subscribing]

theorem subscribing_cons (key : String) (keys : List String) : session.subscribing (key :: keys)
    = ({ session with subscriptions := insert key session.subscriptions } : Session).subscribing keys := by
  simp [subscribing, Finset.insert_union, Finset.union_insert]

theorem enqueueEvent_step (brings : input.message.event? = some event) :
    Step encodedBytes input session (session.enqueueEvent encodedBytes input.readings event).2.1
      (session.enqueueEvent encodedBytes input.readings event).2.2 := by
  by_cases fresh : ∃ sequence, session.Fresh event sequence
  · obtain ⟨sequence, fresh⟩ := fresh
    by_cases room : session.HasRoom encodedBytes input.readings event sequence
    · rw [enqueueEvent_of_room fresh room]
      exact .pushed brings fresh room
    · rw [enqueueEvent_of_full fresh room]
      exact .cleared brings fresh room
  · rw [enqueueEvent_of_stale (not_exists.1 fresh)]
    exact .kept

/-- **Transitions.** A session that goes on after a message took one of the steps. -/
theorem handle_step (stepped : (handle encodedBytes input session).next? = some next) :
    Step encodedBytes input session next (handle encodedBytes input session).effects := by
  rcases input with ⟨readings, message⟩
  cases message with
  | attach deviceId connection resumeCursor =>
    simp only [handle] at stepped ⊢
    by_cases admits : session.Admits deviceId
    · rw [attach_admitted admits] at stepped ⊢
      cases stepped
      exact .attached rfl admits
    · obtain ⟨reason, refused⟩ := attach_refused admits connection resumeCursor readings
      rw [refused] at stepped ⊢
      cases stepped
      exact .kept
  | subscribe actorKey =>
    rcases actorKey with _ | actorKey
    · cases stepped
    · simp only [handle, subscribe] at stepped ⊢
      split_ifs at stepped ⊢ with size
      · cases stepped
        exact .subscribed rfl size
      · cases stepped
        exact .kept
  | ack sequence =>
    rcases sequence with _ | sequence
    · cases stepped
    · simp only [handle, ack] at stepped ⊢
      split_ifs at stepped ⊢ with negative ahead
      · cases stepped
      · cases stepped
        exact .kept
      · cases stepped
        exact .acked rfl (by omega) (by omega)
  | deliver event =>
    cases stepped
    exact enqueueEvent_step rfl
  | revoke reason =>
    cases stepped
    exact .revoked rfl
  | snapshot =>
    cases stepped
    exact .kept
  | detach connection =>
    simp only [handle, detach] at stepped ⊢
    split_ifs at stepped ⊢ with current
    · cases stepped
      exact .detached rfl current
    · cases stepped
      exact .kept
  | committedEvent event =>
    cases stepped
    exact enqueueEvent_step rfl
  | idleExpire =>
    simp only [handle, idleExpire] at stepped ⊢
    split_ifs at stepped ⊢
    · cases stepped
    · cases stepped
      exact .kept

theorem effects_of_brings (brings : input.message.event? = some event) :
    (handle encodedBytes input session).effects = (session.enqueueEvent encodedBytes input.readings event).2.2 := by
  rcases input with ⟨readings, message⟩
  cases message <;> cases brings <;> rfl

/-- A message after which the session is gone has no effects. -/
theorem handle_effects_gone (gone : (handle encodedBytes input session).next? = none) :
    (handle encodedBytes input session).effects = [] := by
  rcases handled : handle encodedBytes input session with _ | _ | _ | _
  · rw [handled] at gone
    cases gone
  · rw [handled] at gone
    cases gone
  · rfl
  · rfl

end

/-! ## The buffer -/

/-- What a message can do to the buffer of a session. -/
inductive BufferStep (encodedBytes : Frame → Nat) (input : Input) (session : Session) : Buffer → Prop where
  | kept : BufferStep encodedBytes input session session.toBuffer
  | attached {deviceId : String} {connection : Pid} {resumeCursor : Option Int}
      (message : input.message = .attach deviceId connection resumeCursor) :
      BufferStep encodedBytes input session
        (session.acknowledge (max (resumeCursor.getD 0) session.lastAck) (max (resumeCursor.getD 0) session.lastAck))
  | acked {sequence : Int} (message : input.message = .ack (some sequence)) (nonneg : 0 ≤ sequence)
      (delivered : sequence ≤ session.latestSeen) :
      BufferStep encodedBytes input session (session.acknowledge sequence (max session.lastAck sequence))
  | pushed {event : Event} {sequence : Int} (brings : input.message.event? = some event)
      (fresh : session.Fresh event sequence) (room : session.HasRoom encodedBytes input.readings event sequence) :
      BufferStep encodedBytes input session (session.push (session.outbound encodedBytes input.readings event sequence))
  | cleared {event : Event} {sequence : Int} (brings : input.message.event? = some event)
      (fresh : session.Fresh event sequence) (full : ¬ session.HasRoom encodedBytes input.readings event sequence) :
      BufferStep encodedBytes input session (session.clear sequence)

section Buffer

variable {encodedBytes : Frame → Nat} {input : Input} {session next : Session}

theorem Step.bufferStep {effects : List Effect} (step : Step encodedBytes input session next effects) :
    BufferStep encodedBytes input session next.toBuffer := by
  cases step with
  | kept | subscribed | revoked | detached => exact .kept
  | attached message => exact .attached message
  | acked message nonneg delivered => exact .acked message nonneg delivered
  | pushed brings fresh room => exact .pushed brings fresh room
  | cleared brings fresh full => exact .cleared brings fresh full

theorem handle_bufferStep (stepped : (handle encodedBytes input session).next? = some next) :
    BufferStep encodedBytes input session next.toBuffer :=
  (handle_step stepped).bufferStep

theorem BufferStep.sound {buffer : Buffer} (step : BufferStep encodedBytes input session buffer)
    (sound : session.Sound) : buffer.Sound := by
  cases step with
  | kept => exact sound
  | attached | acked => exact sound.acknowledge (by omega) (by omega)
  | pushed _ fresh room => exact sound.push fresh.beyond fresh.unseen room.capacity
  | cleared => exact sound.clear

theorem BufferStep.config {buffer : Buffer} (step : BufferStep encodedBytes input session buffer) :
    buffer.config = session.config := by
  cases step <;> rfl

theorem BufferStep.lastAck_le {buffer : Buffer} (step : BufferStep encodedBytes input session buffer) :
    session.lastAck ≤ buffer.lastAck := by
  cases step with
  | kept => exact le_rfl
  | attached => exact le_max_right _ _
  | acked => exact le_max_left _ _
  | pushed => exact le_rfl
  | cleared => exact le_rfl

section Run

variable {config : RuntimeConfig} {sessionId : String} {timer : TimerRef} {inputs : List Input}

theorem init_sound : (init config sessionId timer).Sound where
  size := rfl
  bytes := rfl
  room := by
    have capacity := config.queueCapacity
    dsimp only [init]
    omega
  cursor := le_rfl
  front := by simp [init]
  recent := List.nil_suffix
  distinct := List.nodup_nil
  members := rfl
  bounded := by
    have capacity := config.queueCapacity
    dsimp only [init, List.length_nil]
    omega

/-- The buffer is sound in every state of a run. -/
theorem run_sound (ran : run encodedBytes config sessionId timer inputs = some session) : session.Sound :=
  Beam.run_invariant (P := fun session => session.Sound) init_sound
    (fun _ _ _ sound stepped => (handle_bufferStep stepped).sound sound) ran

theorem run_config (ran : run encodedBytes config sessionId timer inputs = some session) : session.config = config :=
  Beam.run_invariant (P := fun session => session.config = config) rfl
    (fun _ _ _ same stepped => (handle_bufferStep stepped).config.trans same) ran

end Run

end Buffer

end Session

end Liqi.Realtime
