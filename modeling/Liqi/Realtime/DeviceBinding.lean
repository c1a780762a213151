import Liqi.Realtime.Redelivery

/-!
# Where the frames of a session go

A session is bound to the device of its first attachment. `frames_confined` says for every run that the
device never changes, that each frame goes to the connection of the latest accepted `attach`, and that after
a `revoke` no frame is sent and no `attach` accepted.
-/

namespace Liqi.Realtime

open Postgres Liqi.Database Liqi.Runtime Beam

structure Attachment where
  deviceId : String
  connection : Pid
  deriving DecidableEq

namespace Session

/-- The attachment that a message makes, if the session accepts it. -/
def attachment? (encodedBytes : Frame → Nat) (input : Input) (session : Session) : Option Attachment :=
  match input.message, (handle encodedBytes input session).reply? with
  | .attach deviceId connection _, some (.attached ..) => some { deviceId, connection }
  | _, _ => none

/-- The latest accepted `attach` among the messages. -/
def lastAttachment (encodedBytes : Frame → Nat) (start : Session) (inputs : List Input) : Option Attachment :=
  ((visits (handle encodedBytes) start inputs).filterMap fun visit => visit.2.attachment? encodedBytes visit.1).getLast?

section

variable {encodedBytes : Frame → Nat} {start session next : Session} {inputs : List Input} {input : Input}
  {effects : List Effect}

theorem lastAttachment_concat (ran : Beam.run (handle encodedBytes) start inputs = some session) :
    lastAttachment encodedBytes start (inputs ++ [input])
      = (session.attachment? encodedBytes input).or (lastAttachment encodedBytes start inputs) := by
  unfold lastAttachment
  rw [visits_concat ran, List.filterMap_append]
  rcases made : session.attachment? encodedBytes input with _ | attachment
  · simp [made]
  · simp [made]

theorem attachment?_eq_some {attachment : Attachment} :
    session.attachment? encodedBytes input = some attachment ↔ session.Admits attachment.deviceId
      ∧ ∃ resumeCursor, input.message = .attach attachment.deviceId attachment.connection resumeCursor := by
  rcases input with ⟨readings, message⟩
  cases message with
  | attach deviceId connection resumeCursor =>
    by_cases admits : session.Admits deviceId
    · have accepted : session.attachment? encodedBytes ⟨readings, .attach deviceId connection resumeCursor⟩
          = some { deviceId, connection } := by
        simp only [attachment?, handle, attach_admitted admits]
        rfl
      rw [accepted]
      constructor
      · rintro ⟨⟩
        exact ⟨admits, resumeCursor, rfl⟩
      · rintro ⟨_, _, ⟨⟩⟩
        rfl
    · obtain ⟨reason, refused⟩ := attach_refused admits connection resumeCursor readings
      have none : session.attachment? encodedBytes ⟨readings, .attach deviceId connection resumeCursor⟩ = none := by
        simp only [attachment?, handle, refused]
        rfl
      rw [none]
      refine iff_of_false (by simp) ?_
      rintro ⟨admitted, _, ⟨⟩⟩
      exact admits admitted
  | _ =>
    refine iff_of_false (by simp [attachment?]) ?_
    rintro ⟨_, _, ⟨⟩⟩

theorem attachment?_of_other (other : ∀ deviceId connection resumeCursor,
    input.message ≠ .attach deviceId connection resumeCursor) : session.attachment? encodedBytes input = none := by
  rcases made : session.attachment? encodedBytes input with _ | attachment
  · rfl
  · obtain ⟨_, resumeCursor, message⟩ := attachment?_eq_some.1 made
    exact absurd message (other _ _ resumeCursor)

theorem attachment?_of_brings {event : Event} (brings : input.message.event? = some event) :
    session.attachment? encodedBytes input = none := by
  refine attachment?_of_other fun deviceId connection resumeCursor message => ?_
  rw [message] at brings
  cases brings

theorem mem_toConnection {connection : Pid} {frame : Frame} {frames : List Frame}
    (sent : .frame connection frame ∈ session.toConnection frames) : session.connectionPid = some connection := by
  unfold toConnection at sent
  split at sent
  next current connected =>
    obtain ⟨_, _, same⟩ := List.mem_map.1 sent
    cases same
    exact connected
  next => cases sent

theorem mem_closeConnection {connection : Pid} {frame last : Frame} {reason : CloseReason}
    (sent : .frame connection frame ∈ session.closeConnection last reason) : session.connectionPid = some connection := by
  unfold closeConnection at sent
  split at sent
  next current connected =>
    simp only [List.mem_cons, Effect.frame.injEq, reduceCtorEq, List.not_mem_nil, or_false] at sent
    rw [connected, sent.1]
  next => cases sent

/-- A frame goes to the connection that the session has, or to the one that an `attach` has just given it. -/
theorem Step.frame_target (step : Step encodedBytes input session next effects) {connection : Pid} {frame : Frame}
    (sent : .frame connection frame ∈ effects) :
    (session.attachment? encodedBytes input = none ∧ session.connectionPid = some connection)
      ∨ ∃ deviceId, session.attachment? encodedBytes input = some { deviceId, connection }
        ∧ next.deviceId = some deviceId := by
  cases step with
  | kept => cases sent
  | @attached deviceId new resumeCursor message admits =>
    have accepted : session.attachment? encodedBytes input = some { deviceId, connection := new } :=
      attachment?_eq_some.2 ⟨admits, resumeCursor, message⟩
    have target : connection = new := by
      simp only [attachEffects, List.mem_append, List.mem_map, reduceCtorEq, and_false, exists_false, false_or] at sent
      exact (Option.some.inj (mem_toConnection sent)).symm
    exact .inr ⟨deviceId, target ▸ accepted, rfl⟩
  | subscribed => simp at sent
  | acked => cases sent
  | pushed brings fresh room => exact .inl ⟨attachment?_of_brings brings, mem_toConnection sent⟩
  | cleared brings fresh full => exact .inl ⟨attachment?_of_brings brings, mem_closeConnection sent⟩
  | revoked message =>
    have none : session.attachment? encodedBytes input = none := by
      refine attachment?_of_other fun _ _ _ other => ?_
      rw [message] at other
      cases other
    refine .inl ⟨none, ?_⟩
    rcases List.mem_append.1 sent with unsubscribed | sent
    · simp at unsubscribed
    · exact mem_closeConnection sent
  | detached => simp at sent

/-- A step that is no accepted `attach` keeps the device, and the connection unless it drops it. -/
theorem Step.keeps_device (step : Step encodedBytes input session next effects)
    (refused : session.attachment? encodedBytes input = none) :
    next.deviceId = session.deviceId ∧ ∀ connection, next.connectionPid = some connection →
      session.connectionPid = some connection := by
  cases step with
  | kept => exact ⟨rfl, fun _ same => same⟩
  | @attached deviceId connection resumeCursor message admits =>
    have accepted : session.attachment? encodedBytes input = some { deviceId, connection } :=
      attachment?_eq_some.2 ⟨admits, resumeCursor, message⟩
    rw [refused] at accepted
    cases accepted
  | subscribed | acked | pushed => exact ⟨rfl, fun _ same => same⟩
  | cleared | revoked | detached => exact ⟨rfl, nofun⟩

/-- The device never changes once it is set. -/
theorem Step.deviceId (step : Step encodedBytes input session next effects) {deviceId : String}
    (bound : session.deviceId = some deviceId) : next.deviceId = some deviceId := by
  cases step with
  | attached message admits => exact congrArg some (admits.2 deviceId bound).symm
  | _ => exact bound

/-- A revoked session stays revoked and has no connection. -/
theorem Step.revoked_stays (step : Step encodedBytes input session next effects) (revoked : session.revoked = true)
    (silent : session.connectionPid = none) : next.revoked = true ∧ next.connectionPid = none := by
  cases step with
  | attached message admits =>
    rw [admits.1] at revoked
    cases revoked
  | kept | subscribed | acked | pushed => exact ⟨revoked, silent⟩
  | cleared => exact ⟨revoked, rfl⟩
  | revoked => exact ⟨rfl, rfl⟩
  | detached => exact ⟨revoked, rfl⟩

/-- The connection of a session is the one of its latest attachment, which was made with its device. -/
def Bound (encodedBytes : Frame → Nat) (start : Session) (inputs : List Input) (session : Session) : Prop :=
  ∀ connection, session.connectionPid = some connection → ∃ deviceId,
    lastAttachment encodedBytes start inputs = some { deviceId, connection } ∧ session.deviceId = some deviceId

theorem Bound.step (bound : Bound encodedBytes start inputs session)
    (ran : Beam.run (handle encodedBytes) start inputs = some session)
    (stepped : (handle encodedBytes input session).next? = some next) :
    Bound encodedBytes start (inputs ++ [input]) next := by
  intro connection connected
  rw [lastAttachment_concat ran]
  rcases made : session.attachment? encodedBytes input with _ | attachment
  · obtain ⟨device, kept⟩ := (handle_step stepped).keeps_device made
    rw [device]
    exact bound connection (kept connection connected)
  · obtain ⟨admits, resumeCursor, message⟩ := attachment?_eq_some.1 made
    have next_eq : next = session.attachedTo attachment.deviceId attachment.connection
        (max (resumeCursor.getD 0) session.lastAck) := by
      simp only [handle, message, attach_admitted admits] at stepped
      exact (Option.some.inj stepped).symm
    subst next_eq
    cases connected
    exact ⟨attachment.deviceId, rfl, rfl⟩

theorem run_bound (free : start.connectionPid = none) (ran : Beam.run (handle encodedBytes) start inputs = some session) :
    Bound encodedBytes start inputs session := by
  induction inputs using List.reverseRecOn generalizing session with
  | nil =>
    cases ran
    intro connection connected
    rw [free] at connected
    cases connected
  | append_singleton inputs input ih =>
    obtain ⟨before, ran, stepped⟩ := run_concat_eq_some.1 ran
    exact (ih ran).step ran stepped

/-- After a `revoke` the session is revoked and has no connection. -/
theorem run_revoked (ran : Beam.run (handle encodedBytes) start inputs = some session) {reason : String}
    (processed : .revoke reason ∈ inputs.map Input.message) :
    session.revoked = true ∧ session.connectionPid = none := by
  induction inputs using List.reverseRecOn generalizing session with
  | nil => cases processed
  | append_singleton inputs input ih =>
    obtain ⟨before, ran, stepped⟩ := run_concat_eq_some.1 ran
    rw [List.map_append, List.mem_append] at processed
    rcases processed with earlier | last
    · obtain ⟨revoked, silent⟩ := ih ran earlier
      exact (handle_step stepped).revoked_stays revoked silent
    · have message : input.message = .revoke reason := (List.mem_singleton.1 last).symm
      simp only [handle, message, revoke] at stepped
      cases stepped
      exact ⟨rfl, rfl⟩

/-- **Confinement.** In every state of every run: the device, once set, stays; a frame that the next message
causes goes to the connection of the latest accepted `attach`, which was made with the device of the session;
and after a `revoke` no message makes the session send a frame or accept an `attach`. -/
theorem frames_confined (encodedBytes : Frame → Nat) (config : RuntimeConfig) (sessionId : String) (timer : TimerRef)
    (inputs : List Input) (session : Session) (ran : run encodedBytes config sessionId timer inputs = some session) :
    (∀ deviceId, session.deviceId = some deviceId → ∀ more later,
        run encodedBytes config sessionId timer (inputs ++ more) = some later → later.deviceId = some deviceId)
      ∧ (∀ input connection frame, .frame connection frame ∈ (handle encodedBytes input session).effects →
        ∃ deviceId next, (handle encodedBytes input session).next? = some next ∧ next.deviceId = some deviceId
          ∧ lastAttachment encodedBytes (init config sessionId timer) (inputs ++ [input]) = some { deviceId, connection })
      ∧ ∀ reason, .revoke reason ∈ inputs.map Input.message → ∀ input,
        (∀ connection frame, .frame connection frame ∉ (handle encodedBytes input session).effects)
          ∧ session.attachment? encodedBytes input = none := by
  refine ⟨?_, ?_, ?_⟩
  · intro deviceId bound more later ranLater
    rw [run, run_append, show Beam.run _ _ inputs = some session from ran, Option.bind_some] at ranLater
    exact run_invariant (P := fun session : Session => session.deviceId = some deviceId) bound
      (fun _ _ _ bound stepped => (handle_step stepped).deviceId bound) ranLater
  · intro input connection frame sent
    rcases stepped : (handle encodedBytes input session).next? with _ | next
    · rw [handle_effects_gone stepped] at sent
      cases sent
    rcases (handle_step stepped).frame_target sent with ⟨none, connected⟩ | ⟨deviceId, made, device⟩
    · obtain ⟨deviceId, latest, device⟩ := run_bound rfl ran connection connected
      refine ⟨deviceId, next, rfl, ((handle_step stepped).keeps_device none).1.trans device, ?_⟩
      rw [lastAttachment_concat ran, none]
      exact latest
    · refine ⟨deviceId, next, rfl, device, ?_⟩
      rw [lastAttachment_concat ran, made]
      rfl
  · intro reason processed input
    obtain ⟨revoked, silent⟩ := run_revoked ran processed
    have refused : session.attachment? encodedBytes input = none := by
      rcases made : session.attachment? encodedBytes input with _ | attachment
      · rfl
      · have access := (attachment?_eq_some.1 made).1.1
        rw [revoked] at access
        cases access
    refine ⟨fun connection frame sent => ?_, refused⟩
    rcases stepped : (handle encodedBytes input session).next? with _ | next
    · rw [handle_effects_gone stepped] at sent
      cases sent
    · rcases (handle_step stepped).frame_target sent with ⟨_, connected⟩ | ⟨deviceId, made, _⟩
      · rw [silent] at connected
        cases connected
      · rw [refused] at made
        cases made

end

end Session

/-- A session that was attached by one device and got an event refuses the next device. -/
theorem second_device_refused : ∃ session,
    Session.run (fun _ => 200) smallConfig "session" 0
        [sampleInput (.attach "device" 7 none), sampleInput (.deliver (sampleEvent 1))] = some session
      ∧ session.attachment? (fun _ => 200) (sampleInput (.attach "other" 8 none)) = none
      ∧ ∀ more later, Session.run (fun _ => 200) smallConfig "session" 0
          ([sampleInput (.attach "device" 7 none), sampleInput (.deliver (sampleEvent 1))] ++ more) = some later →
        later.deviceId = some "device" :=
  ⟨_, rfl, by decide, (Session.frames_confined (fun _ => 200) smallConfig "session" 0
    [sampleInput (.attach "device" 7 none), sampleInput (.deliver (sampleEvent 1))] _ rfl).1 "device" rfl⟩

end Liqi.Realtime
