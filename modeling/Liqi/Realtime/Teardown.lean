import Liqi.Realtime.Transport

/-!
# Teardown of a transport

A connection process stops in four ways and only one of them, the `DOWN` of its channel, tells the session.
The others do no harm if the session has left the connection: `Routed` holds in every run and says so of the
`close` casts of the session itself. `Orderly` is the condition for the rest, and `teardown_reported` the
result: the session never keeps a connection that is gone, unless its `detach` is on the way.
-/

namespace Liqi.Realtime

open Postgres Liqi.Database Liqi.Runtime Beam

namespace Session

variable {encodedBytes : Frame → Nat} {input : Input} {session next : Session} {effects : List Effect}

variable {connection : Pid}

/-- A session gets a connection only by an accepted `attach`. -/
theorem Step.connection_from (step : Step encodedBytes input session next effects)
    (has : next.connectionPid = some connection) : session.connectionPid = some connection
      ∨ ∃ deviceId, session.attachment? encodedBytes input = some { deviceId, connection } := by
  cases step with
  | @attached deviceId new resumeCursor message admits =>
    cases has
    exact .inr ⟨deviceId, attachment?_eq_some.2 ⟨admits, resumeCursor, message⟩⟩
  | kept | subscribed | acked | pushed => exact .inl has
  | cleared | revoked | detached => cases has

variable {reason : CloseReason}

theorem close_of_closeConnection {last : Frame} {kind : CloseReason}
    (sent : .close connection reason ∈ session.closeConnection last kind) :
    session.connectionPid = some connection := by
  unfold closeConnection at sent
  split at sent
  next current connected =>
    simp only [List.mem_cons, reduceCtorEq, Effect.close.injEq, List.not_mem_nil, or_false, false_or] at sent
    rw [connected, sent.1]
  next => cases sent

theorem close_notMem_toConnection {frames : List Frame} :
    .close connection reason ∉ session.toConnection frames := by
  unfold toConnection
  split <;> simp

/-- A session closes the connection that it had, and has left it. -/
theorem Step.close_target (step : Step encodedBytes input session next effects)
    (sent : .close connection reason ∈ effects) :
    session.connectionPid = some connection ∧ next.connectionPid ≠ some connection := by
  cases step with
  | kept => cases sent
  | @attached deviceId new resumeCursor message admits =>
    rcases List.mem_append.1 sent with before | framed
    · simp only [List.mem_append, List.mem_map, reduceCtorEq, and_false, exists_false, List.mem_filter,
        Option.mem_toList, decide_eq_true_eq, Effect.close.injEq, false_or] at before
      obtain ⟨old, ⟨had, different⟩, rfl, _⟩ := before
      exact ⟨had, fun same => different (Option.some.inj same).symm⟩
    · exact absurd framed close_notMem_toConnection
  | subscribed => simp at sent
  | acked => cases sent
  | pushed => exact absurd sent close_notMem_toConnection
  | cleared => exact ⟨close_of_closeConnection sent, nofun⟩
  | revoked =>
    rcases List.mem_append.1 sent with unsubscribed | closed
    · simp at unsubscribed
    · exact ⟨close_of_closeConnection closed, nofun⟩
  | detached => simp at sent

end Session

namespace Transport

/-- No signal is in flight. -/
structure Quiescent (state : Transport) : Prop where
  fromSession : ∀ connection ∈ state.started, state.fromSession connection = []
  fromChannel : ∀ connection ∈ state.started, state.fromChannel connection = []
  notices : ∀ connection ∈ state.started, state.notices connection = []
  calls : ∀ connection ∈ state.started, state.calls connection = none
  detaching : ∀ connection ∈ state.started, state.detaching connection = false

/-- Once no signal is in flight, the connection that the session has is there. -/
def Settled (state : Transport) : Prop :=
  state.Quiescent → ∀ connection, state.session.connectionPid = some connection → state.Alive connection

/-- The connection that the session has is there, or its `detach` is on the way. -/
def Reported (state : Transport) : Prop :=
  ∀ connection, state.session.connectionPid = some connection →
    state.Alive connection ∨ state.detaching connection = true

/-- The steps that do not part the session from its connection unnoticed: an `attach` is accepted only for a
connection that is there or whose `detach` is on the way, and as long as the session has a connection, that
connection takes no frame that it cannot forward and no `close` of its channel. -/
def Orderly (move : Move) (state : Transport) : Prop :=
  match move with
  | .attach connection _ => ∀ call, state.calls connection = some call → state.session.Admits call.deviceId →
      state.Alive connection ∨ state.detaching connection = true
  | .fromSession connection backlog config => state.session.connectionPid = some connection →
      ∀ channel frame rest, state.connections connection = some channel →
        state.fromSession connection = .frame frame :: rest →
          (state.channels channel).isSome ∧ ∃ loaded, config = some loaded ∧ backlog < loaded.actorMailboxReject
  | .fromChannel connection => state.session.connectionPid = some connection → state.Alive connection →
      ∀ rest, state.fromChannel connection ≠ .close :: rest
  | _ => True

/-- What holds in every state: a connection that the session casts to has had its one `attach`, the session has
left a connection that it closes, and a `detach` comes from a connection that is gone. -/
structure Routed (state : Transport) : Prop where
  attached : ∀ connection, state.session.connectionPid = some connection ∨ state.fromSession connection ≠ [] →
    connection ∈ state.requested ∧ state.calls connection = none
  called : ∀ connection call, state.calls connection = some call → connection ∈ state.requested
  closed : ∀ connection reason, .close reason ∈ state.fromSession connection →
    state.session.connectionPid ≠ some connection
  alive : ∀ connection, state.Alive connection → state.detaching connection = false
  unused : ∀ connection, connection ∉ state.started →
    ¬ state.Alive connection ∧ state.detaching connection = false

/-- The states agree on all that `Routed` and `Reported` are about. -/
structure SameCore (before after : Transport) : Prop where
  session : after.session = before.session
  connections : after.connections = before.connections
  started : after.started = before.started
  requested : after.requested = before.requested
  fromSession : after.fromSession = before.fromSession
  calls : after.calls = before.calls
  detaching : after.detaching = before.detaching

section

variable {encodedBytes : Frame → Nat} {input : Input} {state state' : Transport} {connection channel : Pid}

theorem SameCore.routed (same : SameCore state state') (routed : state.Routed) : state'.Routed where
  attached := by
    rw [same.session, same.fromSession, same.requested, same.calls]
    exact routed.attached
  called := by
    rw [same.requested, same.calls]
    exact routed.called
  closed := by
    rw [same.session, same.fromSession]
    exact routed.closed
  alive := by
    unfold Alive
    rw [same.connections, same.detaching]
    exact routed.alive
  unused := by
    unfold Alive
    rw [same.connections, same.started, same.detaching]
    exact routed.unused

theorem SameCore.reported (same : SameCore state state') (reported : state.Reported) : state'.Reported := by
  unfold Reported Alive
  rw [same.session, same.connections, same.detaching]
  exact reported

theorem sameCore_exit (terminates : Bool) : SameCore state (state.exit channel terminates) := by
  unfold exit
  split
  · exact ⟨rfl, rfl, rfl, rfl, rfl, rfl, rfl⟩
  · split <;> exact ⟨rfl, rfl, rfl, rfl, rfl, rfl, rfl⟩

theorem sameCore_notify (message : ToChannel) : SameCore state (state.notify connection channel message) := by
  unfold notify
  split_ifs <;> exact ⟨rfl, rfl, rfl, rfl, rfl, rfl, rfl⟩

@[simp] theorem alive_stop {other : Pid} :
    (state.stop connection).Alive other ↔ other ≠ connection ∧ state.Alive other := by
  by_cases same : other = connection <;> simp [Alive, stop, same]

theorem Routed.stop (routed : state.Routed) : (state.stop connection).Routed where
  attached other has := by
    refine routed.attached other (has.imp id fun sent empty => sent ?_)
    by_cases same : other = connection <;> simp [Transport.stop, same, empty]
  called := routed.called
  closed other reason sent := by
    refine routed.closed other reason ?_
    by_cases same : other = connection
    · simp [Transport.stop, same] at sent
    · simpa [Transport.stop, same] using sent
  alive other alive := routed.alive other (alive_stop.1 alive).2
  unused other new := ⟨fun alive => (routed.unused other new).1 (alive_stop.1 alive).2, (routed.unused other new).2⟩

/-- A connection that stops without a word must have been left by the session. -/
theorem Reported.stop (reported : state.Reported) (left : state.session.connectionPid ≠ some connection) :
    (state.stop connection).Reported := by
  intro other has
  refine (reported other has).imp (fun alive => alive_stop.2 ⟨?_, alive⟩) id
  rintro rfl
  exact left has

theorem Routed.down (routed : state.Routed) (alive : state.Alive connection) : (state.down connection).Routed := by
  have started : connection ∈ state.started := by
    by_contra new
    exact (routed.unused connection new).1 alive
  refine ⟨routed.stop.attached, routed.called, routed.stop.closed, ?_, ?_⟩
  · intro other lives
    obtain ⟨different, lives⟩ := alive_stop.1 lives
    simpa [Transport.down, Transport.stop, different] using routed.alive other lives
  · intro other new
    have different : other ≠ connection := fun same => new (same ▸ started)
    refine ⟨(routed.stop.unused other new).1, ?_⟩
    simpa [Transport.down, Transport.stop, different] using (routed.unused other new).2

theorem Reported.down (reported : state.Reported) : (state.down connection).Reported := by
  intro other has
  by_cases same : other = connection
  · exact .inr (by simp [Transport.down, Transport.stop, same])
  · refine (reported other has).imp (fun alive => alive_stop.2 ⟨same, alive⟩) fun told => ?_
    simpa [Transport.down, Transport.stop, same] using told

/-- The connection takes the first signal of the session from its queue. -/
theorem Routed.take {cast : Cast} {rest : List Cast} (routed : state.Routed)
    (queued : state.fromSession connection = cast :: rest) :
    { state with fromSession := Function.update state.fromSession connection rest }.Routed where
  attached other has := by
    refine routed.attached other (has.imp id fun sent empty => sent ?_)
    by_cases same : other = connection
    · rw [same, queued] at empty
      cases empty
    · simpa [same] using empty
  called := routed.called
  closed other reason sent := by
    refine routed.closed other reason ?_
    by_cases same : other = connection
    · subst same
      rw [queued]
      exact List.mem_cons_of_mem _ (by simpa using sent)
    · simpa [same] using sent
  alive := routed.alive
  unused := routed.unused

variable {reason : TransportClose}

theorem Routed.close (routed : state.Routed) :
    (state.close connection channel reason).Routed :=
  ((sameCore_notify _).routed routed).stop

theorem Reported.close (reported : state.Reported) (left : state.session.connectionPid ≠ some connection) :
    (state.close connection channel reason).Reported :=
  ((sameCore_notify _).reported reported).stop (by rwa [(sameCore_notify _).session])

theorem Routed.forward {backlog : Int} {config : Option RuntimeConfig} {frame : Frame} (routed : state.Routed) :
    (state.forward connection channel backlog config frame).Routed := by
  unfold Transport.forward
  split
  · split_ifs
    · exact routed.close
    · exact (sameCore_notify _).routed routed
  · exact routed.stop

/-- The connection that the session has forwards a frame only if its channel is there and not overloaded. -/
theorem Reported.forward {backlog : Int} {config : Option RuntimeConfig} {frame : Frame} (reported : state.Reported)
    (room : state.session.connectionPid = some connection → (state.channels channel).isSome
      ∧ ∃ loaded, config = some loaded ∧ backlog < loaded.actorMailboxReject) :
    (state.forward connection channel backlog config frame).Reported := by
  unfold Transport.forward
  split
  next process loaded found =>
    split_ifs with overloaded
    · refine reported.close fun has => ?_
      obtain ⟨_, _, ⟨⟩, below⟩ := room has
      exact absurd overloaded (not_le.2 below)
    · exact (sameCore_notify _).reported reported
  next missing =>
    refine reported.stop fun has => ?_
    obtain ⟨there, loaded, rfl, _⟩ := room has
    obtain ⟨process, found⟩ := Option.isSome_iff_exists.1 there
    exact missing process loaded found rfl

/-! ## Messages to the session -/

theorem mem_casts {effects : List Effect} {cast : Cast}
    (sent : cast ∈ effects.filterMap (Effect.cast? connection)) :
    (∃ frame, cast = .frame frame ∧ .frame connection frame ∈ effects)
      ∨ ∃ reason, cast = .close reason ∧ .close connection reason ∈ effects := by
  obtain ⟨effect, member, is⟩ := List.mem_filterMap.1 sent
  cases effect with
  | frame target frame =>
    simp only [Effect.cast?, Option.ite_none_right_eq_some, Option.some.injEq] at is
    obtain ⟨rfl, rfl⟩ := is
    exact .inl ⟨frame, rfl, member⟩
  | close target reason =>
    simp only [Effect.cast?, Option.ite_none_right_eq_some, Option.some.injEq] at is
    obtain ⟨rfl, rfl⟩ := is
    exact .inr ⟨reason, rfl, member⟩
  | _ => cases is

theorem absorb_next (stepped : (state.absorb encodedBytes input).next? = some state') :
    ∃ next, Session.Step encodedBytes input state.session next (state.session.handle encodedBytes input).effects
      ∧ state' = { state with
        session := next
        fromSession := fun connection =>
          if state.Alive connection then
            state.fromSession connection
              ++ (state.session.handle encodedBytes input).effects.filterMap (Effect.cast? connection)
          else state.fromSession connection } := by
  unfold absorb at stepped
  split at stepped
  next => cases stepped
  next next handled =>
    cases stepped
    exact ⟨next, Session.handle_step handled, rfl⟩

/-- A connection that an `attach` may give to the session: its call was made and answered, and the session has
sent it nothing. -/
def Attachable (state : Transport) (connection : Pid) : Prop :=
  connection ∈ state.requested ∧ state.calls connection = none ∧ state.fromSession connection = []

theorem Routed.absorb (routed : state.Routed)
    (attachable : ∀ deviceId connection,
      state.session.attachment? encodedBytes input = some { deviceId, connection } → state.Attachable connection)
    (stepped : (state.absorb encodedBytes input).next? = some state') : state'.Routed := by
  obtain ⟨next, step, rfl⟩ := absorb_next stepped
  have sends : ∀ connection signal, signal ∈ (if state.Alive connection then state.fromSession connection
      ++ (state.session.handle encodedBytes input).effects.filterMap (Effect.cast? connection)
      else state.fromSession connection) → signal ∈ state.fromSession connection
        ∨ signal ∈ (state.session.handle encodedBytes input).effects.filterMap (Effect.cast? connection) := by
    intro connection signal sent
    split_ifs at sent
    · exact List.mem_append.1 sent
    · exact .inl sent
  -- The session only casts to the connection that it has or has just got.
  have had : ∀ connection, state.session.connectionPid = some connection → connection ∈ state.requested
      ∧ state.calls connection = none := fun connection has => routed.attached connection (.inl has)
  have got : ∀ deviceId connection, state.session.attachment? encodedBytes input = some { deviceId, connection } →
      connection ∈ state.requested ∧ state.calls connection = none :=
    fun deviceId connection accepted => ⟨(attachable deviceId connection accepted).1,
      (attachable deviceId connection accepted).2.1⟩
  refine ⟨?_, routed.called, ?_, routed.alive, routed.unused⟩
  · rintro connection (has | sent)
    · rcases step.connection_from has with has | ⟨deviceId, accepted⟩
      · exact had connection has
      · exact got deviceId connection accepted
    · obtain ⟨signal, member⟩ := List.exists_mem_of_ne_nil _ sent
      rcases sends connection signal member with queued | cast
      · exact routed.attached connection (.inr (List.ne_nil_of_mem queued))
      · rcases mem_casts cast with ⟨frame, _, framed⟩ | ⟨reason, _, closed⟩
        · rcases step.frame_target framed with ⟨_, has⟩ | ⟨deviceId, accepted, _⟩
          · exact had connection has
          · exact got deviceId connection accepted
        · exact had connection (step.close_target closed).1
  · intro connection reason sent has
    rcases sends connection _ sent with queued | cast
    · rcases step.connection_from has with has | ⟨deviceId, accepted⟩
      · exact routed.closed connection reason queued has
      · rw [(attachable deviceId connection accepted).2.2] at queued
        cases queued
    · rcases mem_casts cast with ⟨_, ⟨⟩, _⟩ | ⟨reason, _, closed⟩
      exact (step.close_target closed).2 has

theorem attachment?_of_outside {session : Session} (outside : Outside input.message = true) :
    session.attachment? encodedBytes input = none := by
  refine Session.attachment?_of_other fun _ _ _ message => ?_
  rw [message] at outside
  cases outside

/-- What a step does, up to what `SameCore` leaves out. -/
inductive StepView (encodedBytes : Frame → Nat) (state : Transport) : Move → Transport → Prop where
  | quiet {move : Move} {state' : Transport} (same : SameCore state state') : StepView encodedBytes state move state'
  | started {channel connection : Pid} {channels : Pid → Option Channel} (new : connection ∉ state.started) :
      StepView encodedBytes state (.startConnection channel connection)
        { state with
          channels
          connections := Function.update state.connections connection (some channel)
          started := insert connection state.started }
  | requested {channel connection : Pid} {call : AttachCall} (first : connection ∉ state.requested) :
      StepView encodedBytes state (.requestAttach channel call)
        { state with
          calls := Function.update state.calls connection (some call)
          requested := insert connection state.requested }
  | handled {input : Input} {state' : Transport} (outside : Outside input.message = true)
      (stepped : (state.absorb encodedBytes input).next? = some state') :
      StepView encodedBytes state (.session input) state'
  | attached {connection : Pid} {readings : Readings} {call : AttachCall} {accepted : Finset Pid} {state' : Transport}
      (called : state.calls connection = some call)
      (stepped : ({ state with calls := Function.update state.calls connection none, accepted }.absorb encodedBytes
        { readings, message := .attach call.deviceId connection call.resumeCursor }).next? = some state') :
      StepView encodedBytes state (.attach connection readings) state'
  | detached {connection : Pid} {readings : Readings} {state' : Transport}
      (stepped : ({ state with detaching := Function.update state.detaching connection false }.absorb encodedBytes
        { readings, message := .detach connection }).next? = some state') :
      StepView encodedBytes state (.detach connection readings) state'
  | cast {connection channel : Pid} {backlog : Int} {config : Option RuntimeConfig} {cast : Cast} {rest : List Cast}
      (lives : state.connections connection = some channel) (queued : state.fromSession connection = cast :: rest) :
      StepView encodedBytes state (.fromSession connection backlog config)
        ({ state with fromSession := Function.update state.fromSession connection rest }.receiveCast
          connection channel backlog config cast)
  | signalled {connection channel : Pid} {signal : Farewell} {rest : List Farewell}
      (lives : state.connections connection = some channel) (queued : state.fromChannel connection = signal :: rest) :
      StepView encodedBytes state (.fromChannel connection)
        ({ state with fromChannel := Function.update state.fromChannel connection rest }.receiveFarewell
          connection channel signal)

variable {move : Move}

theorem stepView (stepped : (state.step encodedBytes move).next? = some state') :
    StepView encodedBytes state move state' := by
  cases move with
  | openChannel channel =>
    simp only [step] at stepped
    split_ifs at stepped
    · cases stepped
    · cases stepped
      exact .quiet ⟨rfl, rfl, rfl, rfl, rfl, rfl, rfl⟩
  | startConnection channel connection =>
    simp only [step] at stepped
    split at stepped
    · split_ifs at stepped with used
      · cases stepped
      · cases stepped
        exact .started used
    · cases stepped
  | requestAttach channel call =>
    simp only [step] at stepped
    split at stepped
    · split_ifs at stepped with made
      · cases stepped
      · cases stepped
        exact .requested made
    · cases stepped
  | assign channel =>
    simp only [step] at stepped
    split at stepped
    · split_ifs at stepped
      · cases stepped
        exact .quiet ⟨rfl, rfl, rfl, rfl, rfl, rfl, rfl⟩
      · cases stepped
    · cases stepped
  | session input =>
    simp only [step] at stepped
    split_ifs at stepped with outside
    · exact .handled outside stepped
    · cases stepped
  | attach connection readings =>
    simp only [step] at stepped
    split at stepped
    next => cases stepped
    next call called => exact .attached called stepped
  | detach connection readings =>
    simp only [step] at stepped
    split_ifs at stepped
    · exact .detached stepped
    · cases stepped
  | fromSession connection backlog config =>
    simp only [step] at stepped
    split at stepped
    next channel signal rest lives queued =>
      cases stepped
      exact .cast lives queued
    next => cases stepped
  | fromChannel connection =>
    simp only [step] at stepped
    split at stepped
    next channel signal rest lives queued =>
      cases stepped
      exact .signalled lives queued
    next => cases stepped
  | notice channel =>
    simp only [step] at stepped
    split at stepped
    · split at stepped
      · cases stepped
        exact .quiet ⟨rfl, rfl, rfl, rfl, rfl, rfl, rfl⟩
      · cases stepped
        exact .quiet (sameCore_exit true)
      · cases stepped
    · cases stepped
  | terminate channel =>
    simp only [step] at stepped
    split_ifs at stepped
    · cases stepped
      exact .quiet (sameCore_exit true)
    · cases stepped
  | kill channel =>
    simp only [step] at stepped
    split_ifs at stepped
    · cases stepped
      exact .quiet (sameCore_exit false)
    · cases stepped

/-- `Routed` is kept by every step. -/
theorem Routed.step (routed : state.Routed) (stepped : (state.step encodedBytes move).next? = some state') :
    state'.Routed := by
  cases stepView stepped with
  | quiet same => exact same.routed routed
  | @started channel connection channels used =>
    refine ⟨routed.attached, routed.called, routed.closed, ?_, ?_⟩
    · intro other alive
      by_cases same : other = connection
      · exact same ▸ (routed.unused connection used).2
      · exact routed.alive other (by simpa [Alive, same] using alive)
    · intro other new
      obtain ⟨different, new⟩ := not_or.1 (fun either => new (Finset.mem_insert.2 either))
      refine ⟨fun alive => (routed.unused other new).1 ?_, (routed.unused other new).2⟩
      simpa [Alive, different] using alive
  | @requested channel connection call made =>
    refine ⟨?_, ?_, routed.closed, routed.alive, routed.unused⟩
    · intro other has
      obtain ⟨requested, answered⟩ := routed.attached other has
      have different : other ≠ connection := fun same => made (same ▸ requested)
      exact ⟨Finset.mem_insert_of_mem requested, by simpa [different] using answered⟩
    · intro other call called
      by_cases same : other = connection
      · exact same ▸ Finset.mem_insert_self _ _
      · exact Finset.mem_insert_of_mem (routed.called other call (by simpa [same] using called))
  | handled outside stepped =>
    refine routed.absorb (fun deviceId connection accepted => ?_) stepped
    rw [attachment?_of_outside outside] at accepted
    cases accepted
  | @attached connection readings call accepted _ called stepped =>
    -- The call was in flight, so the session has sent nothing to the connection yet.
    have silent : state.fromSession connection = [] := by
      by_contra sent
      rw [(routed.attached connection (.inr sent)).2] at called
      cases called
    have answered : { state with calls := Function.update state.calls connection none, accepted }.Routed := by
      refine ⟨?_, ?_, routed.closed, routed.alive, routed.unused⟩
      · intro other has
        obtain ⟨requested, answered⟩ := routed.attached other has
        refine ⟨requested, ?_⟩
        by_cases same : other = connection <;> simp [same, answered]
      · intro other pending inFlight
        by_cases same : other = connection
        · simp [same] at inFlight
        · exact routed.called other pending (by simpa [same] using inFlight)
    refine answered.absorb (fun deviceId other made => ?_) stepped
    obtain ⟨_, _, ⟨⟩⟩ := Session.attachment?_eq_some.1 made
    exact ⟨routed.called _ call called, by simp, silent⟩
  | @detached connection readings _ stepped =>
    have told : { state with detaching := Function.update state.detaching connection false }.Routed := by
      refine ⟨routed.attached, routed.called, routed.closed, ?_, ?_⟩
      · intro other alive
        by_cases same : other = connection
        · simp [same]
        · simpa [same] using routed.alive other alive
      · intro other new
        refine ⟨(routed.unused other new).1, ?_⟩
        by_cases same : other = connection
        · simp [same]
        · simpa [same] using (routed.unused other new).2
    refine told.absorb (fun deviceId other accepted => ?_) stepped
    obtain ⟨_, _, ⟨⟩⟩ := Session.attachment?_eq_some.1 accepted
  | @cast _ _ _ _ cast _ _ queued =>
    cases cast with
    | frame frame => exact (routed.take queued).forward
    | close reason => exact (routed.take queued).close
  | @signalled target channel signal rest lives queued =>
    have same : SameCore state { state with fromChannel := Function.update state.fromChannel target rest } :=
      ⟨rfl, rfl, rfl, rfl, rfl, rfl, rfl⟩
    cases signal with
    | close => exact (same.routed routed).close
    | down => exact (same.routed routed).down (by simp [Alive, lives])

/-- After a message to the session, its connection is reported if it was before or has just been attached. -/
theorem Reported.absorb (stepped : (state.absorb encodedBytes input).next? = some state')
    (kept : ∀ connection, state'.session.connectionPid = some connection →
      state.session.connectionPid = some connection → state.Alive connection ∨ state.detaching connection = true)
    (attached : ∀ deviceId connection,
      state.session.attachment? encodedBytes input = some { deviceId, connection } →
        state.Alive connection ∨ state.detaching connection = true) : state'.Reported := by
  obtain ⟨next, step, rfl⟩ := absorb_next stepped
  intro connection has
  rcases step.connection_from has with had | ⟨deviceId, accepted⟩
  · exact kept connection has had
  · exact attached deviceId connection accepted

theorem detach_leaves {readings : Readings} (stepped : (state.absorb encodedBytes
    { readings, message := .detach connection }).next? = some state') :
    state'.session.connectionPid ≠ some connection := by
  unfold Transport.absorb at stepped
  simp only [Session.handle, Session.detach] at stepped
  by_cases current : state.session.connectionPid = some connection
  · simp only [current, if_true] at stepped
    cases stepped
    exact (Option.some_ne_none _).symm
  · simp only [current, if_false] at stepped
    cases stepped
    exact current

/-- An orderly step keeps the connection reported. -/
theorem Reported.step (reported : state.Reported) (routed : state.Routed) (orderly : Orderly move state)
    (stepped : (state.step encodedBytes move).next? = some state') :
    state'.Reported := by
  cases stepView stepped with
  | quiet same => exact same.reported reported
  | @started channel connection channels used =>
    intro other has
    refine (reported other has).imp (fun alive => ?_) id
    by_cases same : other = connection
    · simp [Alive, same]
    · simpa [Alive, same] using alive
  | requested first => exact reported
  | handled outside stepped =>
    refine Reported.absorb stepped (fun connection _ had => reported connection had) ?_
    intro deviceId connection accepted
    rw [attachment?_of_outside outside] at accepted
    cases accepted
  | attached called stepped =>
    refine Reported.absorb stepped (fun connection _ had => reported connection had) ?_
    intro deviceId connection accepted
    obtain ⟨admits, _, ⟨⟩⟩ := Session.attachment?_eq_some.1 accepted
    exact orderly _ called admits
  | @detached connection readings _ stepped =>
    refine Reported.absorb stepped ?_ ?_
    · intro other has had
      have different : other ≠ connection := fun same => detach_leaves stepped (same ▸ has)
      exact (reported other had).imp id fun told => by simpa [different] using told
    · intro deviceId other accepted
      obtain ⟨_, _, ⟨⟩⟩ := Session.attachment?_eq_some.1 accepted
  | @cast target channel backlog config cast rest lives queued =>
    have taken : { state with fromSession := Function.update state.fromSession target rest }.Reported := reported
    cases cast with
    | frame frame => exact taken.forward fun has => orderly has channel frame rest lives queued
    | close reason => exact taken.close (routed.closed target reason (by simp [queued]))
  | @signalled target channel signal rest lives queued =>
    have taken : { state with fromChannel := Function.update state.fromChannel target rest }.Reported := reported
    cases signal with
    | close => exact taken.close fun has => orderly has (by simp [Alive, lives]) rest queued
    | down => exact taken.down

theorem Reported.settled (reported : state.Reported) (routed : state.Routed) : state.Settled := by
  intro quiescent connection has
  refine (reported connection has).resolve_right (Bool.eq_false_iff.1 ?_)
  by_cases started : connection ∈ state.started
  · exact quiescent.detaching connection started
  · exact (routed.unused connection started).2

/-- A connection that is gone, and whose `detach` is not on the way, is not reported. -/
theorem not_reported (has : state.session.connectionPid = some connection) (gone : ¬ state.Alive connection)
    (silent : state.detaching connection = false) : ¬ state.Reported := fun reported =>
  (reported connection has).elim gone (by simp [silent])

theorem not_reported_stop (routed : state.Routed) (alive : state.Alive connection)
    (has : state.session.connectionPid = some connection) : ¬ (state.stop connection).Reported :=
  not_reported has (fun lives => (alive_stop.1 lives).1 rfl) (routed.alive connection alive)

theorem not_reported_close (routed : state.Routed) (alive : state.Alive connection)
    (has : state.session.connectionPid = some connection) :
    ¬ (state.close connection channel reason).Reported := by
  have same : SameCore state (state.notify connection channel (.connectionClose reason)) := sameCore_notify _
  refine not_reported_stop (same.routed routed) ?_ (by rwa [same.session])
  rwa [Alive, same.connections]

/-- An `attach` for a connection that is gone leaves the session with it. -/
theorem not_reported_attach {deviceId : String} {resumeCursor : Option Int} {readings : Readings}
    (admits : state.session.Admits deviceId) (gone : ¬ state.Alive connection)
    (silent : state.detaching connection = false) :
    ∃ state', (state.absorb encodedBytes { readings, message := .attach deviceId connection resumeCursor }).next?
        = some state' ∧ ¬ state'.Reported := by
  simp only [absorb, Session.handle, Session.attach_admitted admits, Outcome.next?]
  exact ⟨_, rfl, not_reported rfl gone silent⟩

/-- A step that is not orderly leaves the session with a connection that is gone. -/
theorem Routed.breaks (routed : state.Routed) (disorderly : ¬ Orderly move state) :
    ∃ state', (state.step encodedBytes move).next? = some state' ∧ ¬ state'.Reported := by
  cases move with
  | attach connection readings =>
    simp only [Orderly, not_forall, not_or, Bool.not_eq_true] at disorderly
    obtain ⟨call, called, admits, gone, silent⟩ := disorderly
    simp only [Transport.step, called]
    refine not_reported_attach ?_ ?_ ?_
    · exact admits
    · exact gone
    · exact silent
  | fromSession connection backlog config =>
    simp only [Orderly, not_forall] at disorderly
    obtain ⟨has, channel, frame, rest, lives, queued, blocked⟩ := disorderly
    have alive : state.Alive connection := by simp [Alive, lives]
    have taken := routed.take queued
    simp only [Transport.step, lives, queued, receiveCast]
    refine ⟨_, rfl, ?_⟩
    unfold Transport.forward
    split
    next process loaded found =>
      split_ifs with overloaded
      · exact not_reported_close taken alive has
      · exact absurd ⟨by simpa using congrArg Option.isSome found, loaded, rfl, not_le.1 overloaded⟩ blocked
    next => exact not_reported_stop taken alive has
  | fromChannel connection =>
    simp only [Orderly, not_forall, not_not] at disorderly
    obtain ⟨has, alive, rest, queued⟩ := disorderly
    obtain ⟨channel, lives⟩ := Option.isSome_iff_exists.1 alive
    have same : SameCore state { state with fromChannel := Function.update state.fromChannel connection rest } :=
      ⟨rfl, rfl, rfl, rfl, rfl, rfl, rfl⟩
    simp only [Transport.step, lives, queued, receiveFarewell]
    exact ⟨_, rfl, not_reported_close (same.routed routed) alive has⟩
  | _ => exact absurd trivial disorderly

/-- A new session, before any channel. -/
def init (config : RuntimeConfig) (sessionId : String) (timer : TimerRef) : Transport where
  session := Session.init config sessionId timer
  channels := fun _ => none
  connections := fun _ => none
  opened := ∅
  started := ∅
  requested := ∅
  accepted := ∅
  fromSession := fun _ => []
  fromChannel := fun _ => []
  notices := fun _ => []
  calls := fun _ => none
  detaching := fun _ => false

theorem init_routed (config : RuntimeConfig) (sessionId : String) (timer : TimerRef) :
    (init config sessionId timer).Routed where
  attached _ has := absurd has (by simp [init, Session.init])
  called _ _ := nofun
  closed _ _ := nofun
  alive _ := nofun
  unused _ _ := ⟨nofun, rfl⟩

end

end Transport

section

variable (encodedBytes : Frame → Nat) (config : RuntimeConfig) (sessionId : String) (timer : TimerRef)

open Transport

/-- **Teardown.** For every interleaving of the processes: in every state the connection of the session is there
or its `detach` is on the way, exactly if every step is orderly. In a run of orderly steps, a state without a
signal in flight then has a session whose connection is there. -/
theorem teardown_reported (moves : List Move) :
    (Throughout (step encodedBytes) (Transport.init config sessionId timer) Reported moves
        ↔ Along (step encodedBytes) (Transport.init config sessionId timer) Orderly moves)
      ∧ (Along (step encodedBytes) (Transport.init config sessionId timer) Orderly moves →
        Throughout (step encodedBytes) (Transport.init config sessionId timer) Settled moves) := by
  have exact : Throughout (step encodedBytes) (Transport.init config sessionId timer) Reported moves
      ↔ Along (step encodedBytes) (Transport.init config sessionId timer) Orderly moves :=
    throughout_iff_along (L := fun _ => True) (I := fun state => state.Routed ∧ state.Reported)
      (fun _ _ => trivial) ⟨init_routed config sessionId timer, nofun⟩ (fun _ sound => sound.2)
      (fun _ _ _ _ sound orderly stepped => ⟨sound.1.step stepped, sound.2.step sound.1 orderly stepped⟩)
      (fun _ _ _ sound disorderly => sound.1.breaks disorderly)
  refine ⟨exact, fun along before state earlier ran => ?_⟩
  have routed : state.Routed :=
    run_invariant (init_routed config sessionId timer) (fun _ _ _ routed stepped => routed.step stepped) ran
  exact (exact.2 along before state earlier ran).settled routed

end

/-- A client joins and leaves: `terminate` casts a `close` before the monitor fires, so the connection stops at the
`close` and the session keeps it. -/
def joinAndLeave : List Move :=
  [.openChannel 1, .startConnection 1 7, .requestAttach 1 { deviceId := "device", resumeCursor := none },
    .attach 7 (sampleInput .snapshot).readings, .assign 1, .terminate 1, .fromChannel 7]

theorem closed_transport_kept :
    ∃ state, Beam.run (Transport.step fun _ => 200) (Transport.init smallConfig "session" 0) joinAndLeave = some state
      ∧ state.Quiescent ∧ state.session.connectionPid = some 7 ∧ ¬ state.Alive 7 := by
  exact ⟨_, rfl, ⟨by decide, by decide, by decide, by decide, by decide⟩, rfl, by decide⟩

end Liqi.Realtime
