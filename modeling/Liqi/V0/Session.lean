import Std.Data.TreeMap.Lemmas
import Liqi.Beam.Json
import Liqi.V0.RealtimeReader

/-!
# The V0 realtime session

`run_session` serves one socket. Its loop waits for a wire message, a heartbeat tick, a poll tick, the
handshake deadline or the cancellation of the service, runs the handler of whichever comes first and ends
when a handler answers `Break`. The frames go through a bounded channel to a writer task.

The state of the handlers is a `Session`: the protocol state, the sender's side of the channel and a history
of what happened, which the program does not keep. What comes from outside is either in the event that is
handled (clocks, fresh ids, the reader at the time of a poll) or in the `Host`: the JSON decoders, the length
of a frame's text and the pace of the writer. Metrics and logging are left out, and so are the message id, the
connection id and the time that every server frame carries.
-/

namespace Liqi.V0

open Postgres Liqi.Database

instance : Std.LawfulEqOrd Uuid where
  eq_of_compare := compare_eq_iff_eq.1

abbrev Instant := Nat

/-- `RealtimeSessionState`, the durations in milliseconds. -/
structure RealtimeSessionState where
  maxMessageBytes : Nat
  outboundCapacity : Nat
  heartbeatInterval : Nat
  heartbeatTimeout : Nat
  slowConsumerDisconnect : Nat
  maxSubscriptions : Nat
  devAuthenticationEnabled : Bool

structure SubscribePayload where
  subscriptionId : Uuid
  topic : String
  resumeCursor : Option String

structure ResumeSubscription where
  subscriptionId : Uuid
  topic : String
  cursor : String

inductive ClientFrameBody where
  | hello (supportedVersions : List String)
  | authenticate (scheme credential : String)
  | subscribe (payload : SubscribePayload)
  | unsubscribe (subscriptionId : Uuid)
  | resume (subscriptions : List ResumeSubscription)
  | heartbeatAck (nonce : Uuid)

structure ClientFrame where
  protocolVersion : String
  body : ClientFrameBody

inductive ServerFrameBody where
  | welcome (selectedVersion : String)
      (heartbeatIntervalMs heartbeatTimeoutMs maxMessageBytes outboundQueueCapacity : Nat)
  | authenticated (authenticated : Bool)
  | subscribed (subscriptionId : Uuid) (topic : String) (acceptedCursor : Option String)
  | unsubscribed (subscriptionId : Uuid)
  | serverEvent (subscriptionId : Uuid) (cursor : String) (event : EventEnvelope)
  | error (error : ApplicationError)
  | heartbeat (nonce : Uuid)
  | slowConsumer (queuedMessages queueCapacity disconnectAfterMs : Nat)
  deriving DecidableEq

/-- A message of the outbound channel. -/
inductive Message where
  | text (frame : ServerFrameBody)
  | pong (bytes : List (Fin 256))
  deriving DecidableEq

/-- A message from the socket. -/
inductive WireMessage where
  | text (text : String)
  | binary (bytes : List (Fin 256))
  | ping (bytes : List (Fin 256))
  | pong (bytes : List (Fin 256))
  | close

/-! ### Subscriptions -/

structure Subscription where
  topic : String
  cursor : Option RealtimeCursor

structure SubscriptionSet where
  entries : Std.TreeMap Uuid Subscription
  pollIndex : Nat

namespace SubscriptionSet

def empty : SubscriptionSet := ⟨∅, 0⟩

/-- `resume_cursor.map(from_opaque).transpose()`. -/
def startCursor : Option String → Except ApplicationError (Option RealtimeCursor)
  | none => .ok none
  | some value => match RealtimeCursor.fromOpaque value with
    | .ok cursor => .ok (some cursor)
    | .error _ => .error .invalidRequest

def subscribe (set : SubscriptionSet) (payload : SubscribePayload) (maximum : Nat) :
    Except ApplicationError SubscriptionSet :=
  if payload.topic = "" ∨ 160 < payload.topic.utf8ByteSize then .error .invalidRequest
  else if set.entries.contains payload.subscriptionId = false ∧ maximum ≤ set.entries.size then .error .invalidRequest
  else match startCursor payload.resumeCursor with
    | .error e => .error e
    | .ok cursor => .ok { set with entries := set.entries.insert payload.subscriptionId ⟨payload.topic, cursor⟩ }

/-- The loop of `resume`. A subscription that is refused ends it and leaves those before it inserted;
`started` lists them. -/
def resumeAll (maximum : Nat) : List ResumeSubscription → SubscriptionSet →
    SubscriptionSet × List SubscribePayload × Option ApplicationError
  | [], set => (set, [], none)
  | subscription :: rest, set =>
    let payload : SubscribePayload := ⟨subscription.subscriptionId, subscription.topic, some subscription.cursor⟩
    match set.subscribe payload maximum with
    | .error e => (set, [], some e)
    | .ok set =>
      let (set, started, failure) := resumeAll maximum rest set
      (set, payload :: started, failure)

def resume (set : SubscriptionSet) (subscriptions : List ResumeSubscription) (maximum : Nat) :
    SubscriptionSet × List SubscribePayload × Option ApplicationError :=
  if maximum < subscriptions.length then (set, [], some .invalidRequest)
  else resumeAll maximum subscriptions set

def unsubscribe (set : SubscriptionSet) (subscriptionId : Uuid) : SubscriptionSet :=
  let entries := set.entries.erase subscriptionId
  { entries, pollIndex := if entries.size ≤ set.pollIndex then 0 else set.pollIndex }

/-- The subscription to poll, in the order of the ids, and the set with the index moved on. -/
def nextForPoll (set : SubscriptionSet) : Option ((Uuid × Subscription) × SubscriptionSet) :=
  if set.entries.isEmpty then none
  else
    let index := set.pollIndex % set.entries.size
    (set.entries.toList[index]?).map fun entry => (entry, { set with pollIndex := (set.pollIndex + 1) % 2 ^ 64 })

def advance (set : SubscriptionSet) (subscriptionId : Uuid) (cursor : RealtimeCursor) : SubscriptionSet :=
  { set with entries := set.entries.modify subscriptionId fun subscription => { subscription with cursor := some cursor } }

end SubscriptionSet

/-! ### The session -/

structure SessionProtocolState where
  negotiated : Bool
  authenticated : Bool
  subscriptions : SubscriptionSet
  lastHeartbeatAck : Instant
  expectedHeartbeat : Option Uuid

/-- What happened in a session: a subscription was put in the set, replacing one of the same id, or a message
was accepted by the channel. -/
inductive Mark where
  | inserted (subscriptionId : Uuid) (cursor : Option String)
  | enqueued (message : Message)
  deriving DecidableEq

structure Session where
  protocol : SessionProtocolState
  outbound : Rust.Channel Message
  history : List Mark

inductive SessionControl where
  | Continue
  | Break
  deriving DecidableEq

/-- What the session calls but does not control. -/
structure Host where
  /-- `serde_json::from_str`. -/
  fromStr : String → Option Beam.Json
  /-- The derived `Deserialize` of a client frame. -/
  fromValue : Beam.Json → Option ClientFrame
  /-- The length of a frame's text at the given offer to the channel; none where it cannot be encoded. -/
  encodedLength : Nat → ServerFrameBody → Option Nat
  /-- The writer task. -/
  writer : Nat → Rust.Receiver

namespace Session

variable (host : Host) (state : RealtimeSessionState)

def start (now : Instant) : Session where
  protocol := ⟨false, false, .empty, now, none⟩
  outbound := .create state.outboundCapacity
  history := []

/-- `outbound.try_send`. -/
def trySend (message : Message) (session : Session) : Bool × Session :=
  let (accepted, outbound) := session.outbound.trySend host.writer message
  (accepted, { session with
    outbound, history := if accepted then session.history ++ [.enqueued message] else session.history })

/-- `enqueue`; false is its error. -/
def enqueue (frame : ServerFrameBody) (session : Session) : Bool × Session :=
  match host.encodedLength session.outbound.offers frame with
  | none => (false, session)
  | some length =>
    if state.maxMessageBytes < length then (false, session) else session.trySend host (.text frame)

/-- `u64::try_from(milliseconds).unwrap_or(u64::MAX)`. -/
def saturating (milliseconds : Nat) : Nat := min milliseconds (2 ^ 64 - 1)

def disconnectSlowConsumer (session : Session) : Session :=
  (session.enqueue host state
    (.slowConsumer state.outboundCapacity state.outboundCapacity (saturating state.slowConsumerDisconnect))).2

def enqueueOrDisconnect (frame : ServerFrameBody) (session : Session) : SessionControl × Session :=
  match session.enqueue host state frame with
  | (true, session) => (.Continue, session)
  | (false, session) => (.Break, session.disconnectSlowConsumer host state)

def breakProtocol (error : ApplicationError) (session : Session) : SessionControl × Session :=
  (.Break, (session.enqueue host state (.error error)).2)

def negotiateProtocol (supportedVersions : List String) : Option String :=
  if supportedVersions.any (· == "0") then some "0" else none

def welcomeFrame : ServerFrameBody :=
  .welcome "0" (saturating state.heartbeatInterval) (saturating state.heartbeatTimeout) state.maxMessageBytes
    state.outboundCapacity

def setSubscriptions (set : SubscriptionSet) (session : Session) : Session :=
  { session with protocol.subscriptions := set }

/-- The history with the subscriptions that a frame started. -/
def started (payloads : List SubscribePayload) (session : Session) : Session :=
  { session with
    history := session.history ++ payloads.map fun payload => .inserted payload.subscriptionId payload.resumeCursor }

def handleHello (supportedVersions : List String) (session : Session) : SessionControl × Session :=
  if session.protocol.negotiated || (negotiateProtocol supportedVersions).isNone then
    session.breakProtocol host state .protocolUnsupported
  else enqueueOrDisconnect host state (welcomeFrame state) { session with protocol.negotiated := true }

def authenticatePlaceholder (scheme credential : String) (enabled : Bool) : Bool :=
  enabled && scheme == "bearer" && credential != ""

def handleAuthenticate (scheme credential : String) (session : Session) : SessionControl × Session :=
  if !session.protocol.negotiated then session.breakProtocol host state .protocolUnsupported
  else
    let session := { session with
      protocol.authenticated := authenticatePlaceholder scheme credential state.devAuthenticationEnabled }
    if !session.protocol.authenticated then session.breakProtocol host state .unauthorized
    else session.enqueueOrDisconnect host state (.authenticated true)

def acceptedCursor (set : SubscriptionSet) (subscriptionId : Uuid) : Option String :=
  (set.entries[subscriptionId]?).bind fun subscription => subscription.cursor.map RealtimeCursor.opaqueText

def handleSubscribe (payload : SubscribePayload) (session : Session) : SessionControl × Session :=
  if !session.protocol.authenticated then session.breakProtocol host state .unauthorized
  else match session.protocol.subscriptions.subscribe payload state.maxSubscriptions with
    | .error e => session.breakProtocol host state e
    | .ok set =>
      enqueueOrDisconnect host state
        (.subscribed payload.subscriptionId payload.topic (acceptedCursor set payload.subscriptionId))
        ((session.setSubscriptions set).started [payload])

def handleUnsubscribe (subscriptionId : Uuid) (session : Session) : SessionControl × Session :=
  (session.setSubscriptions (session.protocol.subscriptions.unsubscribe subscriptionId)).enqueueOrDisconnect host state
    (.unsubscribed subscriptionId)

def handleResume (subscriptions : List ResumeSubscription) (session : Session) : SessionControl × Session :=
  if !session.protocol.authenticated then session.breakProtocol host state .unauthorized
  else
    let (set, payloads, failure) := session.protocol.subscriptions.resume subscriptions state.maxSubscriptions
    let session := (session.setSubscriptions set).started payloads
    match failure with
    | some e => session.breakProtocol host state e
    | none => (.Continue, session)

def handleHeartbeatAck (now : Instant) (nonce : Uuid) (session : Session) : SessionControl × Session :=
  if session.protocol.expectedHeartbeat = some nonce then
    (.Continue, { session with
      protocol := { session.protocol with lastHeartbeatAck := now, expectedHeartbeat := none } })
  else (.Continue, session)

/-- `now.saturating_duration_since(last_ack) >= timeout`. -/
def heartbeatTimedOut (lastAck now : Instant) (timeout : Nat) : Bool := timeout ≤ now - lastAck

def handleHeartbeat (now : Instant) (nonce : Uuid) (session : Session) : SessionControl × Session :=
  if heartbeatTimedOut session.protocol.lastHeartbeatAck now state.heartbeatTimeout then (.Break, session)
  else enqueueOrDisconnect host state (.heartbeat nonce) { session with protocol.expectedHeartbeat := some nonce }

/-- The loop over the deliveries of a batch. -/
def deliverAll (subscriptionId : Uuid) : List RealtimeDelivery → Session → SessionControl × Session
  | [], session => (.Continue, session)
  | delivery :: rest, session =>
    match enqueueOrDisconnect host state (.serverEvent subscriptionId delivery.cursor.opaqueText delivery.event) session with
    | (.Break, session) => (.Break, session)
    | (.Continue, session) =>
      deliverAll subscriptionId rest
        (session.setSubscriptions (session.protocol.subscriptions.advance subscriptionId delivery.cursor))

def realtimeReadBatch : Nat := 16

def pollRealtime (reader : Reader) (session : Session) : SessionControl × Session :=
  match session.protocol.subscriptions.nextForPoll with
  | none => (.Continue, session)
  | some ((subscriptionId, subscription), set) =>
    let session := session.setSubscriptions set
    match reader ⟨[subscription.topic], subscription.cursor, realtimeReadBatch⟩ with
    | .error _ => (.Continue, session)
    | .ok batch =>
      match deliverAll host state subscriptionId batch.deliveries session with
      | (.Break, session) => (.Break, session)
      | (.Continue, session) => match batch.nextCursor with
        | none => (.Continue, session)
        | some cursor =>
          (.Continue, session.setSubscriptions (session.protocol.subscriptions.advance subscriptionId cursor))

def frameFields : List String := ["protocolVersion", "messageId", "sentAt", "kind", "payload"]

def decodeClientFrame (text : String) (maximumBytes : Nat) : Except ApplicationError ClientFrame :=
  if maximumBytes < text.utf8ByteSize then .error .bodyTooLarge
  else match host.fromStr text with
    | some (.map members) =>
      if members.length ≠ frameFields.length ∨ frameFields.any (fun field => !(members.map Prod.fst).contains field) then
        .error .invalidRequest
      else match host.fromValue (.map members) with
        | none => .error .invalidRequest
        | some frame => if frame.protocolVersion ≠ "0" then .error .protocolUnsupported else .ok frame
    | _ => .error .invalidRequest

def handleClientFrame (now : Instant) (frame : ClientFrame) (session : Session) : SessionControl × Session :=
  match frame.body with
  | .hello supportedVersions => session.handleHello host state supportedVersions
  | .authenticate scheme credential => session.handleAuthenticate host state scheme credential
  | .subscribe payload => session.handleSubscribe host state payload
  | .unsubscribe subscriptionId => session.handleUnsubscribe host state subscriptionId
  | .resume subscriptions => session.handleResume host state subscriptions
  | .heartbeatAck nonce => session.handleHeartbeatAck now nonce

def handleWireMessage (now : Instant) (message : WireMessage) (session : Session) : SessionControl × Session :=
  match message with
  | .close => (.Break, session)
  | .ping bytes => match session.trySend host (.pong bytes) with
    | (true, session) => (.Continue, session)
    | (false, session) => (.Break, session.disconnectSlowConsumer host state)
  | .pong _ => (.Continue, session)
  | .binary _ => session.breakProtocol host state .invalidRequest
  | .text text => match decodeClientFrame host text state.maxMessageBytes with
    | .error e => session.breakProtocol host state e
    | .ok frame => session.handleClientFrame host state now frame

end Session

/-- The branches of the loop's `select!`, each with what it reads. -/
inductive Event where
  | cancelled
  | handshakeDeadline
  /-- The stream ended or failed. -/
  | disconnected
  | incoming (now : Instant) (message : WireMessage)
  | heartbeat (now : Instant) (nonce : Uuid)
  | poll (reader : Reader)

/-- The guards of the branches. -/
def Event.enabled (session : Session) : Event → Bool
  | .handshakeDeadline => !session.protocol.negotiated
  | .heartbeat .. => session.protocol.negotiated
  | .poll _ => session.protocol.authenticated && !session.protocol.subscriptions.entries.isEmpty
  | _ => true

section Loop

variable (host : Host) (state : RealtimeSessionState)

def Session.handle (session : Session) : Event → SessionControl × Session
  | .cancelled => (.Break, session)
  | .handshakeDeadline => session.breakProtocol host state .protocolUnsupported
  | .disconnected => (.Break, session)
  | .incoming now message => session.handleWireMessage host state now message
  | .heartbeat now nonce => session.handleHeartbeat host state now nonce
  | .poll reader => session.pollRealtime host state reader

/-- The loop: the session and whether the loop has been left. A branch whose guard is false is not taken. -/
structure Running where
  session : Session
  ended : Bool

def Running.step (running : Running) (event : Event) : Running :=
  if running.ended = false ∧ event.enabled running.session = true then
    let (control, session) := running.session.handle host state event
    ⟨session, control == .Break⟩
  else running

/-- `run_session`: the loop on the events that happen, in their order. -/
def runSession (now : Instant) (events : List Event) : Running :=
  events.foldl (Running.step host state) ⟨.start state now, false⟩

end Loop

end Liqi.V0
