import Liqi.Realtime.DeviceBinding

/-!
# The transport of a session

Three kinds of processes: the session actor, a connection process for each join, and the channel process that
the connection forwards to and monitors. A signal of one process to another arrives in the order in which it
was sent; nothing orders the signals of two senders, so that a process next takes the first signal of any of
its senders. Signals to a process that is gone are lost.
-/

namespace Liqi.Realtime

open Postgres Liqi.Database Liqi.Runtime Beam

/-- The reason of a `close` cast: one of the session's, or `:transport_closed` of a terminating channel. -/
inductive TransportClose where
  | session (reason : CloseReason)
  | transportClosed
  deriving DecidableEq

/-- The casts of the session to a connection process. -/
inductive Cast where
  | frame (frame : Frame)
  | close (reason : CloseReason)
  deriving DecidableEq

/-- The signals of a channel to its connection process: the `close` cast of `terminate`, and the `DOWN` of the
monitor. -/
inductive Farewell where
  | close
  | down
  deriving DecidableEq

/-- The messages of a connection process to its channel. -/
inductive ToChannel where
  | connectionFrame (frame : Frame)
  | connectionClose (reason : TransportClose)
  deriving DecidableEq

/-- A channel process: the connection process that its join started, and whether the join went on to assign it
to the socket. -/
structure Channel where
  connection : Option Pid
  assigned : Bool
  deriving DecidableEq

/-- The `attach` call of a join; the connection is the one it was made for. -/
structure AttachCall where
  deviceId : String
  resumeCursor : Option Int
  deriving DecidableEq

/-- The processes and the signals between them. What is indexed by a connection is between it and the session
(`fromSession`, `detaching`), it and its channel (`fromChannel`, `notices`), or its channel and the session
(`calls`). -/
structure Transport where
  session : Session
  /-- The channel processes that are there. -/
  channels : Pid → Option Channel
  /-- The connection processes that are there, with their channels. -/
  connections : Pid → Option Pid
  /-- The channels that were ever there. -/
  opened : Finset Pid
  /-- The connections that were ever there. -/
  started : Finset Pid
  /-- The connections whose `attach` call was made, and those for which the session accepted it. -/
  requested : Finset Pid
  accepted : Finset Pid
  fromSession : Pid → List Cast
  fromChannel : Pid → List Farewell
  notices : Pid → List ToChannel
  calls : Pid → Option AttachCall
  detaching : Pid → Bool

/-- What happens next. -/
inductive Move where
  | openChannel (channel : Pid)
  | startConnection (channel connection : Pid)
  | requestAttach (channel : Pid) (call : AttachCall)
  | assign (channel : Pid)
  /-- The session handles a message other than `attach` and `detach`. -/
  | session (input : Input)
  | attach (connection : Pid) (readings : Readings)
  | detach (connection : Pid) (readings : Readings)
  /-- The connection takes the next signal of the session. `backlog` is the length of the channel's mailbox and
  `config` what `Config.load` gives, which the clause for frames reads. -/
  | fromSession (connection : Pid) (backlog : Int) (config : Option RuntimeConfig)
  | fromChannel (connection : Pid)
  /-- The channel takes the next message of its connection. -/
  | notice (channel : Pid)
  /-- The channel stops through `terminate`: the client left, or a clause raised. -/
  | terminate (channel : Pid)
  /-- The channel stops without `terminate`. -/
  | kill (channel : Pid)

/-- The cast to a connection that an effect of the session is. -/
def Effect.cast? (connection : Pid) : Effect → Option Cast
  | .frame target content => if target = connection then some (.frame content) else none
  | .close target reason => if target = connection then some (.close reason) else none
  | _ => none

namespace Transport

def Alive (state : Transport) (connection : Pid) : Prop := (state.connections connection).isSome

instance (state : Transport) (connection : Pid) : Decidable (state.Alive connection) := inferInstanceAs (Decidable (_ = _))

/-- `{:stop, :normal, state}` of a connection process. -/
def stop (state : Transport) (connection : Pid) : Transport :=
  { state with
    connections := Function.update state.connections connection none
    fromSession := Function.update state.fromSession connection []
    fromChannel := Function.update state.fromChannel connection [] }

/-- `send(channel_pid, message)`. -/
def notify (state : Transport) (connection channel : Pid) (message : ToChannel) : Transport :=
  if (state.channels channel).isSome then
    { state with notices := Function.update state.notices connection (state.notices connection ++ [message]) }
  else state

/-- `handle_cast({:frame, frame}, state)`: `Process.info` knows only a channel that is there. -/
def forward (state : Transport) (connection channel : Pid) (backlog : Int) (config : Option RuntimeConfig)
    (frame : Frame) : Transport :=
  match state.channels channel, config with
  | some _, some config =>
    if config.actorMailboxReject ≤ backlog then
      (state.notify connection channel (.connectionClose (.session .slowConsumer))).stop connection
    else state.notify connection channel (.connectionFrame frame)
  | _, _ => state.stop connection

/-- `handle_cast({:close, reason}, state)`. -/
def close (state : Transport) (connection channel : Pid) (reason : TransportClose) : Transport :=
  (state.notify connection channel (.connectionClose reason)).stop connection

/-- `handle_info({:DOWN, …}, state)`. -/
def down (state : Transport) (connection : Pid) : Transport :=
  { state with detaching := Function.update state.detaching connection true }.stop connection

/-- The connection handles a cast of the session. -/
def receiveCast (state : Transport) (connection channel : Pid) (backlog : Int) (config : Option RuntimeConfig) :
    Cast → Transport
  | .frame frame => state.forward connection channel backlog config frame
  | .close reason => state.close connection channel (.session reason)

/-- The connection handles a signal of its channel. -/
def receiveFarewell (state : Transport) (connection channel : Pid) : Farewell → Transport
  | .close => state.close connection channel .transportClosed
  | .down => state.down connection

/-- The signals that a channel leaves behind: `terminate` casts a `close` to an assigned connection, and the
monitor of the connection fires. -/
def farewell (terminates : Bool) (channel : Channel) : List Farewell :=
  (if terminates && channel.assigned then [.close] else []) ++ [.down]

/-- A channel process ends. -/
def exit (state : Transport) (channel : Pid) (terminates : Bool) : Transport :=
  match state.channels channel with
  | none => state
  | some process =>
    let gone := { state with channels := Function.update state.channels channel none }
    match process.connection with
    | none => gone
    | some connection =>
      { gone with
        notices := Function.update state.notices connection []
        fromChannel :=
          if state.Alive connection then
            Function.update state.fromChannel connection (state.fromChannel connection ++ farewell terminates process)
          else state.fromChannel }

/-- The session handles a message and its casts are sent. -/
def absorb (encodedBytes : Frame → Nat) (input : Input) (state : Transport) : Outcome Unit Transport Unit :=
  match (state.session.handle encodedBytes input).next? with
  | none => .stop
  | some session =>
    .noreply
      { state with
        session := session
        fromSession := fun connection =>
          if state.Alive connection then
            state.fromSession connection
              ++ (state.session.handle encodedBytes input).effects.filterMap (Effect.cast? connection)
          else state.fromSession connection } []

/-- A message that the session gets from others than joins and connections. -/
def Outside (message : Message) : Bool :=
  match message with
  | .attach _ _ _ => false
  | .detach _ => false
  | _ => true

/-- One step; what cannot happen has no next state. -/
def step (encodedBytes : Frame → Nat) (move : Move) (state : Transport) : Outcome Unit Transport Unit :=
  match move with
  | .openChannel channel =>
    if channel ∈ state.opened then .crash
    else
      .noreply
        { state with
          channels := Function.update state.channels channel (some { connection := none, assigned := false })
          opened := insert channel state.opened } []
  | .startConnection channel connection =>
    match state.channels channel with
    | some { connection := none, assigned } =>
      if connection ∈ state.started then .crash
      else
        .noreply
          { state with
            channels := Function.update state.channels channel (some { connection := some connection, assigned })
            connections := Function.update state.connections connection (some channel)
            started := insert connection state.started } []
    | _ => .crash
  | .requestAttach channel call =>
    match state.channels channel with
    | some { connection := some connection, .. } =>
      if connection ∈ state.requested then .crash
      else
        .noreply
          { state with
            calls := Function.update state.calls connection (some call)
            requested := insert connection state.requested } []
    | _ => .crash
  | .assign channel =>
    match state.channels channel with
    | some { connection := some connection, .. } =>
      if connection ∈ state.accepted then
        .noreply
          { state with
            channels := Function.update state.channels channel (some { connection := some connection, assigned := true }) } []
      else .crash
    | _ => .crash
  | .session input => if Outside input.message then state.absorb encodedBytes input else .crash
  | .attach connection readings =>
    match state.calls connection with
    | none => .crash
    | some call =>
      let input := { readings, message := .attach call.deviceId connection call.resumeCursor }
      { state with
        calls := Function.update state.calls connection none
        accepted :=
          if (state.session.attachment? encodedBytes input).isSome then insert connection state.accepted
          else state.accepted }.absorb encodedBytes input
  | .detach connection readings =>
    if state.detaching connection then
      { state with detaching := Function.update state.detaching connection false }.absorb encodedBytes
        { readings, message := .detach connection }
    else .crash
  | .fromSession connection backlog config =>
    match state.connections connection, state.fromSession connection with
    | some channel, cast :: rest =>
      .noreply ({ state with fromSession := Function.update state.fromSession connection rest }.receiveCast
        connection channel backlog config cast) []
    | _, _ => .crash
  | .fromChannel connection =>
    match state.connections connection, state.fromChannel connection with
    | some channel, signal :: rest =>
      .noreply ({ state with fromChannel := Function.update state.fromChannel connection rest }.receiveFarewell
        connection channel signal) []
    | _, _ => .crash
  | .notice channel =>
    match state.channels channel with
    | some { connection := some connection, .. } =>
      match state.notices connection with
      | .connectionFrame _ :: rest =>
        .noreply { state with notices := Function.update state.notices connection rest } []
      | .connectionClose _ :: _ => .noreply (state.exit channel true) []
      | [] => .crash
    | _ => .crash
  | .terminate channel => if (state.channels channel).isSome then .noreply (state.exit channel true) [] else .crash
  | .kill channel => if (state.channels channel).isSome then .noreply (state.exit channel false) [] else .crash

end Transport

end Liqi.Realtime
