import Liqi.Realtime.RepairCalls
import Liqi.Realtime.RepairLoop
import Liqi.Web.PlatformChannel

/-!
# Frames of a client

What a client can do to its session and to its channel with the frames `subscribe`, `ack` and `resume`. The
values of a payload reach guarded clauses of the session actor and a pinned pattern of the channel without a
check: an `ack` whose sequence is no natural number ends the session, and a `resume` whose token is no text, or
is for another cursor, ends the channel. `frames_harmless_iff` says that nothing else does, as long as the session
handles its calls in time, and when an error leaves the session as it was.
-/

namespace Liqi.Web

open Beam Postgres Liqi.Database Liqi.Runtime Liqi.Native Liqi.Realtime

/-- A frame, and what the channel and the session find while they handle it. -/
structure FrameCall where
  frame : ClientFrame
  payload : Json
  db : Db
  readings : FrameReadings
  fates : Nat → Fate

/-- What reaches a session with a channel: the frames of its client, and the messages of others. -/
inductive Traffic where
  | frame (call : FrameCall)
  | other (input : Input)

section Definitions

variable (encodedBytes : Frame → Nat) (node : Node) (verified : String → Option ResumeToken) (socket : Socket)

def FrameCall.served (call : FrameCall) (session : Session) : Exchange Session Input Effect (Answer Response) :=
  (handleIn node call.db verified socket call.readings call.frame call.payload).serve (Session.handle encodedBytes)
    call.fates (some session)

/-- The session and its channel as one process, which is gone once either of them is. -/
def handleTraffic (traffic : Traffic) (session : Session) : Outcome (Answer Response) Session Effect :=
  match traffic with
  | .frame call =>
    let ended := call.served encodedBytes node verified socket session
    match ended.value, ended.state with
    | .raised, _ => .crash
    | _, none => .crash
    | answer, some next => .reply answer next ended.effects
  | .other input =>
    match Session.handle encodedBytes input session with
    | .reply _ next effects => .noreply next effects
    | .noreply next effects => .noreply next effects
    | .stop => .stop
    | .crash => .crash

/-- The parts of a session that a client owns. -/
structure SameSession (session next : Session) : Prop where
  lastAck : next.lastAck = session.lastAck
  queue : next.queue = session.queue
  subscriptions : next.subscriptions = session.subscriptions
  deviceId : next.deviceId = session.deviceId

/-- A frame is answered by a channel and a session that go on, and an error leaves the session as it was unless
it is `slow_consumer`. -/
def Harmless (traffic : Traffic) (session : Session) : Prop :=
  ∀ call, traffic = .frame call → ∃ answer next effects,
    handleTraffic encodedBytes node verified socket traffic session = .reply answer next effects
      ∧ ∀ reason, answer = .error reason → errorCode reason ≠ "slow_consumer" → SameSession session next

/-- The payload of a `resume`: a missing or refused token, or a token for the given cursor whose repair, if it is
cut off, has delivered nothing new. -/
def ResumeProper (call : FrameCall) (session : Session) (cursor token : Json) : Prop :=
  match token with
  | .null => True
  | .string text => ∀ claimed, verifyResumeToken verified socket text = .ok claimed →
      cursor.integer? = some claimed ∧ claimed ≤ maxBigint
        ∧ ((∃ rows, RepairServed encodedBytes node call.db call.readings.toRepairReadings call.fates claimed session rows)
          ∨ ∀ rows, ¬ RepairDisturbs node call.db call.fates claimed session rows)
  | _ => False

/-- A frame that its handler is written for. -/
def Proper (traffic : Traffic) (session : Session) : Prop :=
  ∀ call, traffic = .frame call →
    match call.frame with
    | .subscribe => True
    | .ack => ∀ sequence, call.payload.fetch "sequence" = some sequence →
        (∃ n, sequence = .integer n ∧ 0 ≤ n) ∨ call.fates 0 = .refused
    | .resume => ∀ cursor token, call.payload.fetch "cursor" = some cursor →
        call.payload.fetch "resumeToken" = some token →
        ResumeProper encodedBytes node verified socket call session cursor token

end Definitions

section Frames

variable {encodedBytes : Frame → Nat} {node : Node} {verified : String → Option ResumeToken} {socket : Socket}
  {session : Session} {fates : Nat → Fate} {α : Type}

theorem SameSession.refl (session : Session) : SameSession session session := ⟨rfl, rfl, rfl, rfl⟩

/-- How the callback of a harmless frame ends. -/
def EndsWell (session : Session) (ended : Exchange Session Input Effect (Answer α)) : Prop :=
  ended.value ≠ .raised ∧ ∃ next, ended.state = some next
    ∧ ∀ reason, ended.value = .error reason → errorCode reason ≠ "slow_consumer" → SameSession session next

theorem harmless_iff (call : FrameCall) : Harmless encodedBytes node verified socket (.frame call) session
    ↔ EndsWell session (call.served encodedBytes node verified socket session) := by
  constructor
  · intro harmless
    obtain ⟨answer, next, effects, handled, kept⟩ := harmless call rfl
    simp only [handleTraffic] at handled
    split at handled
    · cases handled
    · cases handled
    next found unraised =>
      cases handled
      exact ⟨unraised, next, found, kept⟩
  · rintro ⟨unraised, next, found, kept⟩ other ⟨⟩
    refine ⟨_, next, (call.served encodedBytes node verified socket session).effects, ?_, kept⟩
    simp only [handleTraffic, found]

theorem EndsWell.of_error {ended : Exchange Session Input Effect (Answer α)} {reason : Reason}
    (value : ended.value = .error reason) (state : ended.state = some session) : EndsWell session ended := by
  refine ⟨?_, session, state, fun _ _ _ => .refl session⟩
  rw [value]
  exact nofun

theorem EndsWell.of_ok {ended : Exchange Session Input Effect (Answer α)} {response : α} {next : Session}
    (value : ended.value = .ok response) (state : ended.state = some next) : EndsWell session ended := by
  refine ⟨?_, next, state, ?_⟩
  · rw [value]
    exact nofun
  · rw [value]
    exact nofun

theorem subscribeFrame_endsWell (inTime : InTime fates) (readings : Readings) (actorKey : Json) :
    EndsWell session ((subscribeFrame readings actorKey).serve (Session.handle encodedBytes) fates (some session)) := by
  unfold subscribeFrame
  split
  next key =>
    split_ifs with authorized
    · by_cases answered : fates 0 = .answered
      · by_cases size : 1 ≤ key.utf8ByteSize ∧ key.utf8ByteSize ≤ 160
        · rw [serve_reply answered (Session.handle_subscribe size readings)]
          exact .of_ok rfl rfl
        · have handled : Session.handle encodedBytes { readings, message := .subscribe (some key) } session
              = .reply (.error .invalidActorKey) session [] := if_neg size
          rw [serve_reply answered handled]
          exact .of_error rfl rfl
      · rw [serve_refused (inTime.refused answered)]
        exact .of_error rfl rfl
    · exact .of_error rfl rfl
  next => exact .of_error rfl rfl

/-- An `ack` ends the session unless its sequence is a natural number. -/
theorem ackFrame_endsWell (inTime : InTime fates) (readings : Readings) (sequence : Json) :
    EndsWell session ((ackFrame readings sequence).serve (Session.handle encodedBytes) fates (some session))
      ↔ (∃ n, sequence = .integer n ∧ 0 ≤ n) ∨ fates 0 = .refused := by
  unfold ackFrame
  by_cases answered : fates 0 = .answered
  swap
  · have refused := inTime.refused answered
    rw [serve_refused refused]
    exact iff_of_true (.of_error rfl rfl) (.inr refused)
  have admitted : fates 0 ≠ .refused := by simp [answered]
  by_cases natural : ∃ n, sequence = .integer n ∧ 0 ≤ n
  · refine iff_of_true ?_ (.inl natural)
    obtain ⟨n, rfl, nonneg⟩ := natural
    have positive : ¬ n < 0 := not_lt.2 nonneg
    by_cases ahead : session.latestSeen < n
    · have handled : Session.handle encodedBytes { readings, message := .ack (some n) } session
          = .reply (.error .ackAheadOfDelivery) session [] := by
        simp only [Session.handle, Session.ack, if_neg positive, if_pos ahead]
      rw [Json.integer?, serve_reply answered handled]
      exact .of_error rfl rfl
    · have accepted : ∃ cursor token next, Session.handle encodedBytes { readings, message := .ack (some n) } session
          = .reply (.acknowledged cursor token) next [] := by
        simp only [Session.handle, Session.ack, if_neg positive, if_neg ahead]
        exact ⟨_, _, _, rfl⟩
      obtain ⟨cursor, token, next, handled⟩ := accepted
      rw [Json.integer?, serve_reply answered handled]
      exact .of_ok rfl rfl
  · have handled : Session.handle encodedBytes { readings, message := .ack sequence.integer? } session = .crash := by
      cases sequence with
      | integer n =>
        have negative : n < 0 := by
          by_contra nonneg
          exact natural ⟨n, rfl, not_lt.1 nonneg⟩
        simp only [Session.handle, Session.ack, Json.integer?, if_pos negative]
      | _ => rfl
    rw [serve_crash answered handled]
    refine iff_of_false ?_ fun either => either.elim natural admitted
    rintro ⟨_, next, found, _⟩
    cases found

theorem repairReason_eq_none {failure : RepairError} (handled : failure ≠ .raised) :
    repairReason failure = none ↔ failure = .handoff .raised := by
  cases failure with
  | handoff error =>
    cases error with
    | persistence code => cases code <;> simp [repairReason]
    | raised => simp [repairReason]
  | raised => exact absurd rfl handled
  | _ => simp [repairReason]

theorem repairReason_slow {failure : RepairError} {reason : Reason} (other : failure ≠ .slowConsumer)
    (given : repairReason failure = some reason) : errorCode reason ≠ "slow_consumer" := by
  cases failure with
  | handoff error =>
    cases error with
    | persistence code => cases code <;> cases given <;> decide
    | raised => cases given
  | handoffGap missing =>
    cases given
    decide
  | sequenceKernel | actor =>
    cases given
    simp [errorCode]
  | session error => cases error <;> cases given <;> decide
  | slowConsumer => exact absurd rfl other
  | raised => cases given

/-- The repair of a `resume`. -/
theorem repair_endsWell (inTime : InTime fates) {db : Db} {readings : RepairReadings} {claimed : Int} (nonneg : 0 ≤ claimed) :
    EndsWell session (((repair node db readings claimed).map (repairAnswer Response.repaired)).serve
        (Session.handle encodedBytes) fates (some session))
      ↔ claimed ≤ maxBigint ∧ ((∃ rows, RepairServed encodedBytes node db readings fates claimed session rows)
        ∨ ∀ rows, ¬ RepairDisturbs node db fates claimed session rows) := by
  rw [serve_map]
  by_cases served : ∃ rows, RepairServed encodedBytes node db readings fates claimed session rows
  · refine iff_of_true ?_ ⟨?_, .inl served⟩
    · obtain ⟨rows, served⟩ := served
      obtain ⟨⟨next, state⟩, ⟨result, value⟩ | value⟩ := served.ends
      · exact .of_ok (congrArg (repairAnswer Response.repaired) value) state
      · refine ⟨?_, next, state, ?_⟩ <;> simp only [value, repairAnswer, repairReason]
        · exact nofun
        · rintro reason ⟨⟩ other
          exact absurd rfl other
    · obtain ⟨rows, served⟩ := served
      by_contra beyond
      have raised : gapRead db claimed node.config.sessionQueueCapacity = .error .raised :=
        (gapRead_raised nonneg).2 (not_le.1 beyond)
      rw [served.page.read] at raised
      cases raised
  · obtain ⟨failure, next, value, state, ⟨other, handled, raised⟩, _, kept, disturbed⟩ :=
      repair_unserved inTime (not_exists.1 served)
    rw [gapRead_raised nonneg] at raised
    have ends : EndsWell session
        { (repair node db readings claimed).serve (Session.handle encodedBytes) fates (some session) with
          value := repairAnswer Response.repaired
            ((repair node db readings claimed).serve (Session.handle encodedBytes) fates (some session)).value }
        ↔ ∃ reason, repairReason failure = some reason ∧ SameSession session next := by
      unfold EndsWell
      simp only [value, state, repairAnswer, Option.some.injEq, exists_eq_left']
      cases given : repairReason failure with
      | none => simp
      | some reason =>
        have reported := repairReason_slow other given
        simp only [ne_eq, reduceCtorEq, not_false_eq_true, true_and, Option.some.injEq, exists_eq_left']
        constructor
        · exact fun same => same reason rfl reported
        · rintro same _ ⟨⟩ _
          exact same
    rw [ends]
    have answered : (∃ reason, repairReason failure = some reason) ↔ claimed ≤ maxBigint := by
      rw [← Option.isSome_iff_exists, ← Option.ne_none_iff_isSome, ne_eq, repairReason_eq_none handled, raised, not_lt]
    constructor
    · rintro ⟨reason, given, same⟩
      refine ⟨answered.1 ⟨reason, given⟩, .inr fun rows disturbs => ?_⟩
      exact disturbed ⟨rows, disturbs⟩ same.queue
    · rintro ⟨bigint, through | undisturbed⟩
      · exact absurd through served
      · obtain ⟨reason, given⟩ := answered.2 bigint
        exact ⟨reason, given, kept undisturbed ▸ .refl session⟩

theorem verifyResumeToken_nonneg {text : String} {claimed : Int}
    (accepted : verifyResumeToken verified socket text = .ok claimed) : 0 ≤ claimed := by
  unfold verifyResumeToken at accepted
  split at accepted
  · split_ifs at accepted with valid
    cases accepted
    exact valid.2.2.2
  · cases accepted

theorem resumeFrame_endsWell {call : FrameCall} (inTime : InTime call.fates) (cursor token : Json) :
    EndsWell session ((resumeFrame node call.db verified socket call.readings.toRepairReadings cursor token).serve
        (Session.handle encodedBytes) call.fates (some session))
      ↔ ResumeProper encodedBytes node verified socket call session cursor token := by
  have raises : ¬ EndsWell session ((Client.done .raised : SessionClient (Answer Response)).serve
      (Session.handle encodedBytes) call.fates (some session)) := fun ends => ends.1 rfl
  cases token with
  | null => exact iff_of_true (.of_error rfl rfl) trivial
  | string text =>
    simp only [resumeFrame, ResumeProper]
    cases accepted : verifyResumeToken verified socket text with
    | error reason => exact iff_of_true (.of_error rfl rfl) nofun
    | ok claimed =>
      dsimp only
      split_ifs with same
      · rw [repair_endsWell inTime (verifyResumeToken_nonneg accepted)]
        constructor
        · rintro proper _ ⟨⟩
          exact ⟨same, proper⟩
        · exact fun proper => (proper claimed rfl).2
      · exact iff_of_false raises fun proper => same (proper claimed rfl).1
  | _ => exact iff_of_false raises id

/-- One frame. -/
theorem frame_harmless_iff {call : FrameCall} (inTime : InTime call.fates) :
    Harmless encodedBytes node verified socket (.frame call) session
      ↔ Proper encodedBytes node verified socket (.frame call) session := by
  rw [harmless_iff]
  obtain ⟨frame, payload, db, readings, fates⟩ := call
  simp only [FrameCall.served, Proper, handleIn]
  cases frame with
  | subscribe =>
    refine iff_of_true ?_ ?_
    · cases payload.fetch "actorKey" with
      | none => exact .of_error rfl rfl
      | some actorKey => exact subscribeFrame_endsWell inTime readings.call actorKey
    · rintro _ ⟨⟩
      trivial
  | ack =>
    cases found : payload.fetch "sequence" with
    | none =>
      refine iff_of_true (.of_error rfl rfl) ?_
      rintro _ ⟨⟩ sequence given
      rw [found] at given
      cases given
    | some sequence =>
      rw [ackFrame_endsWell inTime]
      constructor
      · rintro natural _ ⟨⟩ _ given
        rw [found] at given
        cases given
        exact natural
      · exact fun proper => proper _ rfl sequence found
  | resume =>
    cases cursorFound : payload.fetch "cursor" with
    | none =>
      refine iff_of_true (.of_error rfl rfl) ?_
      rintro _ ⟨⟩ cursor token given
      rw [cursorFound] at given
      cases given
    | some cursor =>
      cases tokenFound : payload.fetch "resumeToken" with
      | none =>
        refine iff_of_true (.of_error rfl rfl) ?_
        rintro _ ⟨⟩ cursor token _ given
        rw [tokenFound] at given
        cases given
      | some token =>
        have ends : EndsWell session _ ↔ ResumeProper encodedBytes node verified socket
            ⟨.resume, payload, db, readings, fates⟩ session cursor token := resumeFrame_endsWell inTime cursor token
        rw [ends]
        constructor
        · rintro proper _ ⟨⟩ _ _ given other
          rw [cursorFound] at given
          rw [tokenFound] at other
          cases given
          cases other
          exact proper
        · exact fun proper => proper _ rfl cursor token cursorFound tokenFound

end Frames

/-- **Frames of a client.** In every run of frames and other messages of a session that handles its calls in
time: every frame is harmless exactly if every frame is proper where it arrives. -/
theorem frames_harmless_iff (encodedBytes : Frame → Nat) (node : Node) (verified : String → Option ResumeToken)
    (socket : Socket) (start : Session) (traffic : List Traffic)
    (inTime : ∀ call, .frame call ∈ traffic → InTime call.fates) :
    Along (handleTraffic encodedBytes node verified socket) start (Harmless encodedBytes node verified socket) traffic
      ↔ Along (handleTraffic encodedBytes node verified socket) start (Proper encodedBytes node verified socket) traffic := by
  have each : ∀ before message state, before ++ [message] <+: traffic →
      (Harmless encodedBytes node verified socket message state ↔ Proper encodedBytes node verified socket message state) := by
    intro before message state step
    cases message with
    | frame call => exact frame_harmless_iff (inTime call (step.subset (by simp)))
    | other input =>
      have quiet : ∀ call, Traffic.other input ≠ .frame call := fun _ same => Traffic.noConfusion same
      exact iff_of_true (fun call same => absurd same (quiet call)) fun call same => absurd same (quiet call)
  constructor
  · exact fun along before message state step ran => (each before message state step).1 (along before message state step ran)
  · exact fun along before message state step ran => (each before message state step).2 (along before message state step ran)

/-- A frame for a session of the sample node; all its calls are answered. -/
def sampleFrame (frame : ClientFrame) (members : List (String × Json)) : FrameCall where
  frame := frame
  payload := .map members
  db := .migrated
  readings := { sampleRound.toRepairReadings with call := sampleReadings }
  fates := fun _ => .answered

/-- The token `"token"` is for the cursor 0 of the sample session. -/
def sampleToken (text : String) : Option ResumeToken :=
  if text = "token" then some { sessionId := "session", deviceId := some "device", cursor := 0, issuedAt := 0 } else none

def sampleSocket : Socket where
  sessionId := "session"
  deviceId := "device"

/-- A sequence that is a text ends the session; a token for another cursor than the given one ends the channel; and
a subscription that is handled too late is answered with an error and kept. -/
theorem malformed_frames_harm :
    handleTraffic (fun _ => 200) sampleNode sampleToken sampleSocket
        (.frame (sampleFrame .ack [("sequence", .string "1")])) (sampleStart ∅) = .crash
      ∧ handleTraffic (fun _ => 200) sampleNode sampleToken sampleSocket
        (.frame (sampleFrame .resume [("cursor", .integer 1), ("resumeToken", .string "token")])) (sampleStart ∅) = .crash
      ∧ ∃ next effects, handleTraffic (fun _ => 200) sampleNode sampleToken sampleSocket
        (.frame { sampleFrame .subscribe [("actorKey", .string "platform-probe:12345678-1234-1234-8234-123456789abc")]
          with fates := fun _ => .late }) (sampleStart ∅) = .reply (.error (.call .deadlineExceeded)) next effects
        ∧ next.subscriptions ≠ (sampleStart ∅).subscriptions := by
  refine ⟨rfl, rfl, _, _, rfl, ?_⟩
  decide

/-- An acknowledgement and a repair. -/
def sampleTraffic : List Traffic :=
  [.frame (sampleFrame .ack [("sequence", .integer 0)]),
    .frame (sampleFrame .resume [("cursor", .integer 0), ("resumeToken", .string "token")])]

theorem sampleTraffic_inTime : ∀ call, .frame call ∈ sampleTraffic → InTime call.fates := by
  intro call member
  simp only [sampleTraffic, List.mem_cons, Traffic.frame.injEq, List.not_mem_nil, or_false] at member
  rcases member with rfl | rfl
  · exact fun _ => nofun
  · exact fun _ => nofun

theorem proper_frames_answered :
    (∀ call, .frame call ∈ sampleTraffic → InTime call.fates)
      ∧ Along (handleTraffic (fun _ => 200) sampleNode sampleToken sampleSocket) (sampleStart ∅)
        (Harmless (fun _ => 200) sampleNode sampleToken sampleSocket) sampleTraffic := by
  refine ⟨sampleTraffic_inTime, (frames_harmless_iff (fun _ => 200) sampleNode sampleToken sampleSocket (sampleStart ∅)
    sampleTraffic sampleTraffic_inTime).2 ?_⟩
  intro before message state step ran call arrived
  have member : message ∈ sampleTraffic := step.subset (by simp)
  subst arrived
  simp only [sampleTraffic, List.mem_cons, Traffic.frame.injEq, List.not_mem_nil, or_false] at member
  rcases member with rfl | rfl
  · rintro sequence ⟨⟩
    exact .inl ⟨0, rfl, le_rfl⟩
  · rintro cursor token ⟨⟩ ⟨⟩ claimed accepted
    have start : claimed = 0 := (Except.ok.inj accepted).symm
    subst start
    -- The log is empty, so the repair has nothing to deliver.
    exact ⟨rfl, by decide, .inl ⟨[], ⟨rfl, rfl⟩, rfl, trivial⟩⟩

end Liqi.Web
