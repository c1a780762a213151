import Mathlib.Data.Finset.Sort
import Liqi.Beam.GenServer
import Liqi.Database.Schema
import Liqi.Runtime.Config

/-!
# The session actor

`Liqi.Realtime.SessionActor` buffers the committed events of the keys that a session subscribed to until
the client acknowledges them. The state is one record and each `handle_*` clause is a function on it;
the frames, closes, subscriptions and timers that a clause causes are listed as effects. Clocks, fresh
identifiers and timer references are the `Readings` of the message; `encodedBytes` is the length of a
frame's JSON text.
-/

namespace Liqi.Realtime

open Postgres Liqi.Database Liqi.Runtime

abbrev Pid := Nat

abbrev TimerRef := Nat

/-- An event as the actor receives it. `handoffId` is `none` for a value that is not an integer. -/
structure Event where
  handoffId : Option Int
  eventId : Uuid
  content : EventContent
  deriving DecidableEq

/-- `event_to_wire`. -/
structure EventWire where
  eventId : Uuid
  eventType : String
  eventVersion : Int
  occurredAt : Timestamp
  producer : String
  correlationId : Option Uuid
  causationId : Option Uuid
  aggregateKey : String
  orderingKey : String
  payload : Jsonb
  metadata : Jsonb
  deriving DecidableEq

def Event.toWire (event : Event) : EventWire where
  eventId := event.eventId
  eventType := event.content.eventType
  eventVersion := event.content.eventVersion
  occurredAt := event.content.occurredAt
  producer := event.content.producer
  correlationId := event.content.correlationId
  causationId := event.content.causationId
  aggregateKey := event.content.aggregateKey
  orderingKey := event.content.orderingKey
  payload := event.content.payload
  metadata := event.content.metadata

/-- The kind of a frame with its payload. -/
inductive FramePayload where
  | event (sequence : Int) (event : EventWire) (resumeRequired : Bool)
  | slowConsumer (lastAcknowledgedSequence resumeFrom : Int)
  | accessRevoked (reason : String)
  deriving DecidableEq

def FramePayload.kind : FramePayload → String
  | .event .. => "event"
  | .slowConsumer .. => "slow_consumer"
  | .accessRevoked .. => "access_revoked"

structure Frame where
  protocolVersion : String := "1"
  messageId : Uuid
  sentAt : Timestamp
  sessionId : String
  payload : FramePayload
  deriving DecidableEq

/-- An entry of the unacknowledged queue. -/
structure Outbound where
  sequence : Int
  eventId : Uuid
  bytes : Nat
  enqueuedAt : Int
  frame : Frame
  deriving DecidableEq

inductive CloseReason where
  | reattached
  | slowConsumer
  | accessRevoked
  deriving DecidableEq

inductive Effect where
  | frame (connection : Pid) (frame : Frame)
  | close (connection : Pid) (reason : CloseReason)
  | subscribe (topic : String)
  | unsubscribe (topic : String)
  | cancelTimer (timer : TimerRef)
  | sendAfter (timer : TimerRef) (ttl : Int)
  deriving DecidableEq

/-- The claims that `ResumeToken.sign` signs. -/
structure ResumeToken where
  version : String := "1"
  sessionId : String
  deviceId : Option String
  cursor : Int
  issuedAt : Int
  deriving DecidableEq

/-- The message id and time of one frame. -/
structure FrameStamp where
  messageId : Uuid
  sentAt : Timestamp
  deriving DecidableEq

/-- What a clause reads from outside while it handles one message. -/
structure Readings where
  eventStamp : FrameStamp
  noticeStamp : FrameStamp
  expiryClock : Int
  enqueueClock : Int
  issuedAt : Int
  timer : TimerRef
  deriving DecidableEq

/-- The answers of `enqueue_event`. -/
inductive Delivery where
  | ok
  | duplicate
  | slowConsumer
  deriving DecidableEq

inductive SessionError where
  | accessRevoked
  | deviceBindingMismatch
  | invalidActorKey
  | ackAheadOfDelivery
  deriving DecidableEq

/-- The part of the state that buffers events. -/
structure Buffer where
  config : RuntimeConfig
  queue : List Outbound
  queueSize : Int
  queueBytes : Int
  lastAck : Int
  latestSeen : Int
  seenEventIds : List Uuid
  seenEventSet : Finset Uuid

/-- The state of a session actor. -/
structure Session extends Buffer where
  sessionId : String
  deviceId : Option String
  connectionPid : Option Pid
  subscriptions : Finset String
  revoked : Bool
  gapRequired : Bool
  idleTimer : Option TimerRef

structure Snapshot where
  sessionId : String
  deviceId : Option String
  queueSize : Int
  lastAck : Int
  latestSeen : Int
  revoked : Bool
  gapRequired : Bool
  subscriptions : Finset String
  deriving DecidableEq

inductive Reply where
  | attached (sessionId : String) (cursor : Int) (resumeToken : ResumeToken)
  | ok
  | acknowledged (cursor : Int) (resumeToken : ResumeToken)
  | delivered (delivery : Delivery)
  | snapshot (snapshot : Snapshot)
  | error (reason : SessionError)
  deriving DecidableEq

/-- The messages of a session actor. An actor key that is not a binary and an acknowledged sequence that
is not an integer are `none`. -/
inductive Message where
  | attach (deviceId : String) (connection : Pid) (resumeCursor : Option Int)
  | subscribe (actorKey : Option String)
  | ack (sequence : Option Int)
  | deliver (event : Event)
  | revoke (reason : String)
  | snapshot
  | detach (connection : Pid)
  | committedEvent (event : Event)
  | idleExpire
  deriving DecidableEq

/-- A message with what its clause reads. -/
structure Input where
  readings : Readings
  message : Message
  deriving DecidableEq

abbrev Answer := Beam.Outcome Reply Session Effect

def topic (actorKey : String) : String := "liqi:realtime:" ++ actorKey

/-- What `drop_acknowledged` removed. -/
structure Removed where
  count : Nat
  bytes : Nat
  deriving DecidableEq

def dropAcknowledged : List Outbound → Int → Removed → List Outbound × Removed
  | [], _, removed => ([], removed)
  | outbound :: rest, sequence, removed =>
    if outbound.sequence ≤ sequence then
      dropAcknowledged rest sequence { count := removed.count + 1, bytes := removed.bytes + outbound.bytes }
    else (outbound :: rest, removed)

namespace Buffer

/-- The queue without its acknowledged front; `last_ack` becomes `cursor`. -/
def acknowledge (buffer : Buffer) (sequence cursor : Int) : Buffer :=
  let (queue, removed) := dropAcknowledged buffer.queue sequence { count := 0, bytes := 0 }
  { buffer with
    queue := queue
    queueSize := buffer.queueSize - removed.count
    queueBytes := max (buffer.queueBytes - removed.bytes) 0
    lastAck := cursor }

/-- `queue_expired?`. -/
def queueExpired (buffer : Buffer) (now : Int) : Bool :=
  if buffer.queueSize = 0 then false
  else match buffer.queue with
    | outbound :: _ => buffer.config.sessionQueueMaxAgeMs < now - outbound.enqueuedAt
    | [] => false

/-- `remember_event`: the identifiers of the last `2 * session_queue_capacity` enqueued events. -/
def rememberEvent (buffer : Buffer) (eventId : Uuid) : List Uuid × Finset Uuid :=
  let queue := buffer.seenEventIds ++ [eventId]
  let set := insert eventId buffer.seenEventSet
  if buffer.config.sessionQueueCapacity * 2 < queue.length then
    match queue with
    | expired :: rest => (rest, set.erase expired)
    | [] => (queue, set)
  else (queue, set)

/-- The buffer with one more entry. -/
def push (buffer : Buffer) (outbound : Outbound) : Buffer :=
  let (seenEventIds, seenEventSet) := buffer.rememberEvent outbound.eventId
  { buffer with
    queue := buffer.queue ++ [outbound]
    queueSize := buffer.queueSize + 1
    queueBytes := buffer.queueBytes + outbound.bytes
    latestSeen := max buffer.latestSeen outbound.sequence
    seenEventIds := seenEventIds
    seenEventSet := seenEventSet }

/-- The buffer that `slow_consumer_state` leaves: the queue is gone, the remembered identifiers stay. -/
def clear (buffer : Buffer) (sequence : Int) : Buffer :=
  { buffer with queue := [], queueSize := 0, queueBytes := 0, latestSeen := max buffer.latestSeen sequence }

end Buffer

namespace Session

/-- `init`, with the timer that it starts. -/
def init (config : RuntimeConfig) (sessionId : String) (timer : TimerRef) : Session where
  config := config
  queue := []
  queueSize := 0
  queueBytes := 0
  lastAck := 0
  latestSeen := 0
  seenEventIds := []
  seenEventSet := ∅
  sessionId := sessionId
  deviceId := none
  connectionPid := none
  subscriptions := ∅
  revoked := false
  gapRequired := false
  idleTimer := some timer

def frame (session : Session) (stamp : FrameStamp) (payload : FramePayload) : Frame where
  messageId := stamp.messageId
  sentAt := stamp.sentAt
  sessionId := session.sessionId
  payload := payload

def sign (session : Session) (readings : Readings) (deviceId : Option String) (cursor : Int) : ResumeToken where
  sessionId := session.sessionId
  deviceId := deviceId
  cursor := cursor
  issuedAt := readings.issuedAt

/-- A frame for the connection, if there is one. -/
def toConnection (session : Session) (frames : List Frame) : List Effect :=
  match session.connectionPid with
  | some connection => frames.map (.frame connection)
  | none => []

/-- A last frame for the connection, and its end. -/
def closeConnection (session : Session) (last : Frame) (reason : CloseReason) : List Effect :=
  match session.connectionPid with
  | some connection => [.frame connection last, .close connection reason]
  | none => []

/-- `handle_call({:attach, ..})`: the three clauses. -/
def attach (readings : Readings) (deviceId : String) (connection : Pid) (resumeCursor : Option Int)
    (session : Session) : Answer :=
  if session.revoked then .reply (.error .accessRevoked) session []
  else if session.deviceId.any (· ≠ deviceId) then .reply (.error .deviceBindingMismatch) session []
  else
    let cursor := max (resumeCursor.getD 0) session.lastAck
    let cancelled := session.idleTimer.toList.map Effect.cancelTimer
    let closed := (session.connectionPid.toList.filter (· ≠ connection)).map (Effect.close · .reattached)
    let attached := { session with
      toBuffer := session.acknowledge cursor cursor
      deviceId := some deviceId
      connectionPid := some connection
      idleTimer := none }
    .reply (.attached attached.sessionId attached.lastAck (attached.sign readings (some deviceId) attached.lastAck))
      attached (cancelled ++ closed ++ attached.toConnection (attached.queue.map Outbound.frame))

def subscribe (actorKey : Option String) (session : Session) : Answer :=
  match actorKey with
  | none => .crash
  | some actorKey =>
    if 1 ≤ actorKey.utf8ByteSize ∧ actorKey.utf8ByteSize ≤ 160 then
      .reply .ok { session with subscriptions := insert actorKey session.subscriptions } [.subscribe (topic actorKey)]
    else .reply (.error .invalidActorKey) session []

def ack (readings : Readings) (sequence : Option Int) (session : Session) : Answer :=
  match sequence with
  | none => .crash
  | some sequence =>
    if sequence < 0 then .crash
    else if session.latestSeen < sequence then .reply (.error .ackAheadOfDelivery) session []
    else
      let lastAck := max session.lastAck sequence
      .reply (.acknowledged lastAck (session.sign readings session.deviceId lastAck))
        { session with toBuffer := session.acknowledge sequence lastAck } []

def slowConsumerState (readings : Readings) (sequence : Int) (session : Session) : Delivery × Session × List Effect :=
  (.slowConsumer,
    { session with
      toBuffer := session.clear sequence
      connectionPid := none
      gapRequired := true },
    session.closeConnection (session.frame readings.noticeStamp (.slowConsumer session.lastAck session.lastAck))
      .slowConsumer)

/-- The frame of an event. -/
def eventFrame (session : Session) (readings : Readings) (sequence : Int) (event : Event) : Frame :=
  session.frame readings.eventStamp (.event sequence event.toWire session.gapRequired)

section Encoding

variable (encodedBytes : Frame → Nat)

def enqueueEvent (readings : Readings) (event : Event) (session : Session) : Delivery × Session × List Effect :=
  match event.handoffId with
  | none => (.duplicate, session, [])
  | some sequence =>
    if sequence ≤ session.lastAck then (.duplicate, session, [])
    else if event.eventId ∈ session.seenEventSet then (.duplicate, session, [])
    else if session.queueExpired readings.expiryClock then session.slowConsumerState readings sequence
    else if session.config.sessionQueueCapacity ≤ session.queueSize then session.slowConsumerState readings sequence
    else
      let frame := session.eventFrame readings sequence event
      let frameBytes := encodedBytes frame
      if session.config.maxRealtimeMessageBytes < frameBytes
          ∨ session.config.sessionQueueMaxBytes < session.queueBytes + frameBytes then
        session.slowConsumerState readings sequence
      else
        let outbound : Outbound :=
          { sequence, eventId := event.eventId, bytes := frameBytes, enqueuedAt := readings.enqueueClock, frame }
        (.ok, { session with toBuffer := session.push outbound }, session.toConnection [frame])

def deliver (readings : Readings) (event : Event) (session : Session) : Answer :=
  let (delivery, next, effects) := session.enqueueEvent encodedBytes readings event
  .reply (.delivered delivery) next effects

def committedEvent (readings : Readings) (event : Event) (session : Session) : Answer :=
  let (_, next, effects) := session.enqueueEvent encodedBytes readings event
  .noreply next effects

end Encoding

/-- `handle_call({:revoke, ..})`; the topics in any order. -/
def revoke (readings : Readings) (reason : String) (session : Session) : Answer :=
  .reply .ok { session with revoked := true, connectionPid := none, subscriptions := ∅ }
    ((session.subscriptions.sort (· ≤ ·)).map (Effect.unsubscribe ∘ topic)
      ++ session.closeConnection (session.frame readings.noticeStamp (.accessRevoked reason)) .accessRevoked)

def snapshot (session : Session) : Snapshot where
  sessionId := session.sessionId
  deviceId := session.deviceId
  queueSize := session.queueSize
  lastAck := session.lastAck
  latestSeen := session.latestSeen
  revoked := session.revoked
  gapRequired := session.gapRequired
  subscriptions := session.subscriptions

def detach (readings : Readings) (connection : Pid) (session : Session) : Answer :=
  if session.connectionPid = some connection then
    .noreply { session with connectionPid := none, idleTimer := some readings.timer }
      [.sendAfter readings.timer session.config.actorIdleTtlMs]
  else .noreply session []

def idleExpire (session : Session) : Answer :=
  if session.connectionPid = none then .stop else .noreply session []

/-- The `handle_call`, `handle_cast` and `handle_info` clauses. -/
def handle (encodedBytes : Frame → Nat) (input : Input) (session : Session) : Answer :=
  match input.message with
  | .attach deviceId connection resumeCursor => session.attach input.readings deviceId connection resumeCursor
  | .subscribe actorKey => session.subscribe actorKey
  | .ack sequence => session.ack input.readings sequence
  | .deliver event => session.deliver encodedBytes input.readings event
  | .revoke reason => session.revoke input.readings reason
  | .snapshot => .reply (.snapshot session.snapshot) session []
  | .detach connection => session.detach input.readings connection
  | .committedEvent event => session.committedEvent encodedBytes input.readings event
  | .idleExpire => session.idleExpire

/-- The state of a session after the messages since it was started, `none` once it is gone. -/
def run (encodedBytes : Frame → Nat) (config : RuntimeConfig) (sessionId : String) (timer : TimerRef)
    (inputs : List Input) : Option Session :=
  Beam.run (handle encodedBytes) (init config sessionId timer) inputs

end Session

end Liqi.Realtime
