import Liqi.V0.Session

/-!
# What one event does to a session

`Handled` lists everything that handling one event can do, in terms of the protocol state and of the history:
the facts about whole sessions are proved by cases on it. A handler that answers `Break` has still changed the
state, so the cases say what is in the history then.
-/

namespace Liqi.V0

open Postgres Liqi.Database

/-- The frames that a client gets only past the gate. -/
def ServerFrameBody.isGated : ServerFrameBody → Bool
  | .subscribed .. => true
  | .serverEvent .. => true
  | _ => false

def ServerFrameBody.isWelcome : ServerFrameBody → Bool
  | .welcome .. => true
  | _ => false

def ServerFrameBody.isAuthenticated : ServerFrameBody → Bool
  | .authenticated _ => true
  | _ => false

/-- A message that is neither behind the gate nor opens it. -/
def Message.isNotice : Message → Bool
  | .text frame => !(frame.isGated || frame.isWelcome || frame.isAuthenticated)
  | .pong _ => true

/-- The history went on by notices only. -/
def Noticed (before after : List Mark) : Prop :=
  ∃ notices : List Message, (∀ message ∈ notices, message.isNotice = true) ∧ after = before ++ notices.map Mark.enqueued

theorem Noticed.refl (history : List Mark) : Noticed history history := ⟨[], by simp, by simp⟩

theorem Noticed.single {before : List Mark} {message : Message} (notice : message.isNotice = true) :
    Noticed before (before ++ [.enqueued message]) :=
  ⟨[message], by simpa using notice, rfl⟩

def startMarks (payloads : List SubscribePayload) : List Mark :=
  payloads.map fun payload => .inserted payload.subscriptionId payload.resumeCursor

def eventMarks (subscriptionId : Uuid) (deliveries : List RealtimeDelivery) : List Mark :=
  deliveries.map fun delivery =>
    .enqueued (.text (.serverEvent subscriptionId delivery.cursor.opaqueText delivery.event))

/-- The set after the cursors of the deliveries were stored one after the other. -/
def SubscriptionSet.advanceAll (set : SubscriptionSet) (subscriptionId : Uuid) (deliveries : List RealtimeDelivery) :
    SubscriptionSet :=
  deliveries.foldl (fun set delivery => set.advance subscriptionId delivery.cursor) set

/-- The set after a batch that was delivered in full. -/
def SubscriptionSet.afterBatch (set : SubscriptionSet) (subscriptionId : Uuid) (batch : RealtimeEventBatch) :
    SubscriptionSet :=
  match batch.nextCursor with
  | none => set.advanceAll subscriptionId batch.deliveries
  | some cursor => (set.advanceAll subscriptionId batch.deliveries).advance subscriptionId cursor

section Outbound

variable (host : Host) (state : RealtimeSessionState) (session : Session)

theorem Session.trySend_cases (message : Message) :
    (∃ after, session.trySend host message = (true, after) ∧ after.protocol = session.protocol ∧
      after.history = session.history ++ [.enqueued message]) ∨
    (∃ after, session.trySend host message = (false, after) ∧ after.protocol = session.protocol ∧
      after.history = session.history) := by
  unfold Session.trySend
  rcases session.outbound.trySend host.writer message with ⟨accepted, outbound⟩
  cases accepted with
  | true => exact .inl ⟨_, rfl, rfl, rfl⟩
  | false => exact .inr ⟨_, rfl, rfl, rfl⟩

theorem Session.enqueue_cases (frame : ServerFrameBody) :
    (∃ after, session.enqueue host state frame = (true, after) ∧ after.protocol = session.protocol ∧
      after.history = session.history ++ [.enqueued (.text frame)]) ∨
    (∃ after, session.enqueue host state frame = (false, after) ∧ after.protocol = session.protocol ∧
      after.history = session.history) := by
  unfold Session.enqueue
  split
  · exact .inr ⟨_, rfl, rfl, rfl⟩
  · split_ifs
    · exact .inr ⟨_, rfl, rfl, rfl⟩
    · exact session.trySend_cases host (.text frame)

/-- A frame that is sent on the way out. -/
theorem Session.enqueue_notice {frame : ServerFrameBody} (notice : (Message.text frame).isNotice = true) :
    (session.enqueue host state frame).2.protocol = session.protocol ∧
      Noticed session.history (session.enqueue host state frame).2.history := by
  obtain ⟨after, sent, kept, marked⟩ | ⟨after, sent, kept, marked⟩ := session.enqueue_cases host state frame
  · rw [sent]
    exact ⟨kept, by rw [marked]; exact .single notice⟩
  · rw [sent]
    exact ⟨kept, by rw [marked]; exact .refl _⟩

theorem Session.disconnect_notices :
    (session.disconnectSlowConsumer host state).protocol = session.protocol ∧
      Noticed session.history (session.disconnectSlowConsumer host state).history :=
  session.enqueue_notice host state rfl

theorem Session.breakProtocol_eq (error : ApplicationError) : ∃ after,
    session.breakProtocol host state error = (.Break, after) ∧ after.protocol = session.protocol ∧
      Noticed session.history after.history :=
  ⟨_, rfl, session.enqueue_notice host state rfl⟩

theorem Session.enqueueOrDisconnect_cases (frame : ServerFrameBody) :
    (∃ after, session.enqueueOrDisconnect host state frame = (.Continue, after) ∧ after.protocol = session.protocol ∧
      after.history = session.history ++ [.enqueued (.text frame)]) ∨
    (∃ after, session.enqueueOrDisconnect host state frame = (.Break, after) ∧ after.protocol = session.protocol ∧
      Noticed session.history after.history) := by
  unfold Session.enqueueOrDisconnect
  obtain ⟨after, sent, kept, marked⟩ | ⟨after, sent, kept, marked⟩ := session.enqueue_cases host state frame
  · rw [sent]
    exact .inl ⟨after, rfl, kept, marked⟩
  · rw [sent]
    obtain ⟨same, notices⟩ := after.disconnect_notices host state
    exact .inr ⟨_, rfl, same.trans kept, marked ▸ notices⟩

end Outbound

/-- What handling an event can do. -/
inductive Handled (state : RealtimeSessionState) (session : Session) : Event → SessionControl → Session → Prop where
  /-- The loop is left with no more than notices. -/
  | left {event after} (subscriptions : after.protocol.subscriptions = session.protocol.subscriptions)
      (notices : Noticed session.history after.history) : Handled state session event .Break after
  | noticed {event after} (negotiated : after.protocol.negotiated = session.protocol.negotiated)
      (authenticated : after.protocol.authenticated = session.protocol.authenticated)
      (subscriptions : after.protocol.subscriptions = session.protocol.subscriptions)
      (notices : Noticed session.history after.history) : Handled state session event .Continue after
  | welcomed {event after} (first : session.protocol.negotiated = false)
      (protocol : after.protocol = { session.protocol with negotiated := true })
      (history : after.history = session.history ++ [.enqueued (.text (Session.welcomeFrame state))]) :
      Handled state session event .Continue after
  | authenticated {event after} (negotiated : session.protocol.negotiated = true)
      (enabled : state.devAuthenticationEnabled = true)
      (protocol : after.protocol = { session.protocol with authenticated := true })
      (history : after.history = session.history ++ [.enqueued (.text (.authenticated true))]) :
      Handled state session event .Continue after
  | subscribed {event after} (payload : SubscribePayload) (set : SubscriptionSet) (cursor : Option String)
      (authenticated : session.protocol.authenticated = true)
      (accepted : session.protocol.subscriptions.subscribe payload state.maxSubscriptions = .ok set)
      (protocol : after.protocol = { session.protocol with subscriptions := set })
      (history : after.history = session.history ++ startMarks [payload] ++
        [.enqueued (.text (.subscribed payload.subscriptionId payload.topic cursor))]) :
      Handled state session event .Continue after
  /-- The answer did not fit. -/
  | subscribedLeft {event after} (payload : SubscribePayload) (set : SubscriptionSet)
      (accepted : session.protocol.subscriptions.subscribe payload state.maxSubscriptions = .ok set)
      (protocol : after.protocol = { session.protocol with subscriptions := set })
      (notices : Noticed (session.history ++ startMarks [payload]) after.history) :
      Handled state session event .Break after
  | unsubscribed {event control after} (subscriptionId : Uuid)
      (protocol : after.protocol = { session.protocol with
        subscriptions := session.protocol.subscriptions.unsubscribe subscriptionId })
      (notices : Noticed session.history after.history) : Handled state session event control after
  | resumed {event control after} (subscriptions : List ResumeSubscription) (set : SubscriptionSet)
      (payloads : List SubscribePayload) (failure : Option ApplicationError)
      (authenticated : session.protocol.authenticated = true)
      (resumed : session.protocol.subscriptions.resume subscriptions state.maxSubscriptions = (set, payloads, failure))
      (protocol : after.protocol = { session.protocol with subscriptions := set })
      (notices : Noticed (session.history ++ startMarks payloads) after.history) :
      Handled state session event control after
  /-- A poll that read nothing. -/
  | unread {reader after} (subscriptionId : Uuid) (subscription : Subscription) (set : SubscriptionSet)
      (next : session.protocol.subscriptions.nextForPoll = some ((subscriptionId, subscription), set))
      (protocol : after.protocol = { session.protocol with subscriptions := set })
      (history : after.history = session.history) :
      Handled state session (.poll reader) .Continue after
  | polled {reader after} (subscriptionId : Uuid) (subscription : Subscription) (set : SubscriptionSet)
      (batch : RealtimeEventBatch)
      (authenticated : session.protocol.authenticated = true)
      (next : session.protocol.subscriptions.nextForPoll = some ((subscriptionId, subscription), set))
      (read : reader ⟨[subscription.topic], subscription.cursor, Session.realtimeReadBatch⟩ = .ok batch)
      (protocol : after.protocol = { session.protocol with subscriptions := set.afterBatch subscriptionId batch })
      (history : after.history = session.history ++ eventMarks subscriptionId batch.deliveries) :
      Handled state session (.poll reader) .Continue after
  /-- The delivery after the first `count` did not fit. -/
  | polledLeft {reader after} (subscriptionId : Uuid) (subscription : Subscription) (set : SubscriptionSet)
      (batch : RealtimeEventBatch) (count : Nat)
      (authenticated : session.protocol.authenticated = true)
      (next : session.protocol.subscriptions.nextForPoll = some ((subscriptionId, subscription), set))
      (read : reader ⟨[subscription.topic], subscription.cursor, Session.realtimeReadBatch⟩ = .ok batch)
      (protocol : after.protocol = { session.protocol with
        subscriptions := set.advanceAll subscriptionId (batch.deliveries.take count) })
      (notices : Noticed (session.history ++ eventMarks subscriptionId (batch.deliveries.take count)) after.history) :
      Handled state session (.poll reader) .Break after

section Handlers

variable (host : Host) (state : RealtimeSessionState) (session : Session) {event : Event}

variable {state session} in
theorem Handled.of_eq {result : SessionControl × Session} {control : SessionControl} {after : Session}
    (answer : result = (control, after)) (handled : Handled state session event control after) :
    Handled state session event result.1 result.2 := by
  rw [answer]
  exact handled

theorem Handled.breakProtocol {error : ApplicationError} :
    Handled state session event (session.breakProtocol host state error).1
      (session.breakProtocol host state error).2 := by
  obtain ⟨after, ended, kept, notices⟩ := session.breakProtocol_eq host state error
  exact .of_eq ended (.left (by rw [kept]) notices)

theorem Handled.hello (supportedVersions : List String) :
    Handled state session event (session.handleHello host state supportedVersions).1
      (session.handleHello host state supportedVersions).2 := by
  unfold Session.handleHello
  split_ifs with refused
  · exact .breakProtocol host state session
  · have first : session.protocol.negotiated = false := by
      cases negotiated : session.protocol.negotiated with
      | false => rfl
      | true => rw [negotiated, Bool.true_or] at refused; exact absurd rfl refused
    obtain ⟨after, sent, kept, marked⟩ | ⟨after, sent, kept, notices⟩ :=
      Session.enqueueOrDisconnect_cases host state { session with protocol.negotiated := true } (Session.welcomeFrame state)
    · exact .of_eq sent (.welcomed first kept marked)
    · exact .of_eq sent (.left (by rw [kept]) notices)

theorem Handled.authenticate (scheme credential : String) :
    Handled state session event (session.handleAuthenticate host state scheme credential).1
      (session.handleAuthenticate host state scheme credential).2 := by
  unfold Session.handleAuthenticate
  cases negotiated : session.protocol.negotiated with
  | false => exact .breakProtocol host state session
  | true =>
    cases valid : Session.authenticatePlaceholder scheme credential state.devAuthenticationEnabled with
    | false =>
      obtain ⟨after, ended, kept, notices⟩ := Session.breakProtocol_eq host state
        { session with protocol.authenticated := false } .unauthorized
      exact .of_eq ended (.left (by rw [kept]) notices)
    | true =>
      have enabled : state.devAuthenticationEnabled = true := by
        unfold Session.authenticatePlaceholder at valid
        rw [Bool.and_eq_true, Bool.and_eq_true] at valid
        exact valid.1.1
      obtain ⟨after, sent, kept, marked⟩ | ⟨after, sent, kept, notices⟩ :=
        Session.enqueueOrDisconnect_cases host state { session with protocol.authenticated := true } (.authenticated true)
      · exact .of_eq sent (.authenticated negotiated enabled kept marked)
      · exact .of_eq sent (.left (by rw [kept]) notices)

theorem Handled.subscribe (payload : SubscribePayload) :
    Handled state session event (session.handleSubscribe host state payload).1
      (session.handleSubscribe host state payload).2 := by
  unfold Session.handleSubscribe
  split_ifs with early
  · exact .breakProtocol host state session
  · split
    · exact .breakProtocol host state session
    next set accepted =>
      obtain ⟨after, sent, kept, marked⟩ | ⟨after, sent, kept, notices⟩ :=
        ((session.setSubscriptions set).started [payload]).enqueueOrDisconnect_cases host state
          (.subscribed payload.subscriptionId payload.topic (Session.acceptedCursor set payload.subscriptionId))
      · exact .of_eq sent (.subscribed payload set _ (by simpa using early) accepted kept marked)
      · exact .of_eq sent (.subscribedLeft payload set accepted kept notices)

theorem Handled.unsubscribe (subscriptionId : Uuid) :
    Handled state session event (session.handleUnsubscribe host state subscriptionId).1
      (session.handleUnsubscribe host state subscriptionId).2 := by
  obtain ⟨after, sent, kept, marked⟩ | ⟨after, sent, kept, notices⟩ :=
    (session.setSubscriptions (session.protocol.subscriptions.unsubscribe subscriptionId)).enqueueOrDisconnect_cases host
      state (.unsubscribed subscriptionId)
  · exact .of_eq sent (.unsubscribed subscriptionId kept (marked ▸ .single rfl))
  · exact .of_eq sent (.unsubscribed subscriptionId kept notices)

theorem Handled.resume (subscriptions : List ResumeSubscription) :
    Handled state session event (session.handleResume host state subscriptions).1
      (session.handleResume host state subscriptions).2 := by
  unfold Session.handleResume
  split_ifs with early
  · exact .breakProtocol host state session
  · have authenticated : session.protocol.authenticated = true := by simpa using early
    rcases resumed : session.protocol.subscriptions.resume subscriptions state.maxSubscriptions with
      ⟨set, payloads, failure⟩
    cases failure with
    | none => exact .resumed subscriptions set payloads none authenticated resumed rfl (.refl _)
    | some e =>
      obtain ⟨after, ended, kept, notices⟩ :=
        ((session.setSubscriptions set).started payloads).breakProtocol_eq host state e
      exact .of_eq ended (.resumed subscriptions set payloads (some e) authenticated resumed kept notices)

theorem Handled.heartbeatAck (now : Instant) (nonce : Uuid) :
    Handled state session event (session.handleHeartbeatAck now nonce).1 (session.handleHeartbeatAck now nonce).2 := by
  unfold Session.handleHeartbeatAck
  split_ifs
  · exact .noticed rfl rfl rfl (.refl _)
  · exact .noticed rfl rfl rfl (.refl _)

theorem Handled.heartbeat (now : Instant) (nonce : Uuid) :
    Handled state session event (session.handleHeartbeat host state now nonce).1
      (session.handleHeartbeat host state now nonce).2 := by
  unfold Session.handleHeartbeat
  split_ifs
  · exact .left rfl (.refl _)
  · obtain ⟨after, sent, kept, marked⟩ | ⟨after, sent, kept, notices⟩ :=
      Session.enqueueOrDisconnect_cases host state { session with protocol.expectedHeartbeat := some nonce }
        (.heartbeat nonce)
    · exact .of_eq sent (.noticed (by rw [kept]) (by rw [kept]) (by rw [kept]) (marked ▸ .single rfl))
    · exact .of_eq sent (.left (by rw [kept]) notices)

/-- The loop over a batch: it delivers everything or stops after some deliveries. -/
theorem Session.deliverAll_cases (subscriptionId : Uuid) (deliveries : List RealtimeDelivery) :
    (∃ after, session.deliverAll host state subscriptionId deliveries = (.Continue, after) ∧
      after.protocol = { session.protocol with
        subscriptions := session.protocol.subscriptions.advanceAll subscriptionId deliveries } ∧
      after.history = session.history ++ eventMarks subscriptionId deliveries) ∨
    (∃ after count, session.deliverAll host state subscriptionId deliveries = (.Break, after) ∧
      after.protocol = { session.protocol with
        subscriptions := session.protocol.subscriptions.advanceAll subscriptionId (deliveries.take count) } ∧
      Noticed (session.history ++ eventMarks subscriptionId (deliveries.take count)) after.history) := by
  induction deliveries generalizing session with
  | nil => exact .inl ⟨session, rfl, rfl, (List.append_nil _).symm⟩
  | cons delivery rest ih =>
    unfold Session.deliverAll
    obtain ⟨after, sent, kept, marked⟩ | ⟨after, sent, kept, notices⟩ := session.enqueueOrDisconnect_cases host state
      (.serverEvent subscriptionId delivery.cursor.opaqueText delivery.event)
    · rw [sent]
      obtain ⟨final, all, protocol, history⟩ | ⟨final, count, some_, protocol, notices⟩ :=
        ih (after.setSubscriptions (after.protocol.subscriptions.advance subscriptionId delivery.cursor))
      · refine .inl ⟨final, all, ?_, ?_⟩
        · rw [protocol, ← kept]
          rfl
        · rw [history]
          show after.history ++ _ = _
          rw [marked, List.append_assoc]
          rfl
      · refine .inr ⟨final, count + 1, some_, ?_, ?_⟩
        · rw [protocol, ← kept]
          rfl
        · have same : session.history ++ eventMarks subscriptionId ((delivery :: rest).take (count + 1))
              = after.history ++ eventMarks subscriptionId (rest.take count) := by
            rw [marked, List.append_assoc]
            rfl
          rw [same]
          exact notices
    · rw [sent]
      refine .inr ⟨after, 0, rfl, kept, ?_⟩
      rw [List.take_zero, eventMarks, List.map_nil, List.append_nil]
      exact notices

theorem Handled.poll (reader : Reader) (authenticated : session.protocol.authenticated = true) :
    Handled state session (.poll reader) (session.pollRealtime host state reader).1
      (session.pollRealtime host state reader).2 := by
  unfold Session.pollRealtime
  split
  · exact .noticed rfl rfl rfl (.refl _)
  next subscriptionId subscription set next =>
    dsimp only
    split
    · exact .unread subscriptionId subscription set next rfl rfl
    next batch read =>
      obtain ⟨after, all, protocol, history⟩ | ⟨after, count, some_, protocol, notices⟩ :=
        (session.setSubscriptions set).deliverAll_cases host state subscriptionId batch.deliveries
      · rw [all]
        cases last : batch.nextCursor with
        | none =>
          refine .polled subscriptionId subscription set batch authenticated next read ?_ history
          rw [SubscriptionSet.afterBatch, last]
          exact protocol
        | some cursor =>
          refine .polled subscriptionId subscription set batch authenticated next read ?_ history
          rw [SubscriptionSet.afterBatch, last]
          show { after.protocol with
            subscriptions := after.protocol.subscriptions.advance subscriptionId cursor } = _
          rw [protocol]
          rfl
      · rw [some_]
        exact .polledLeft subscriptionId subscription set batch count authenticated next read protocol notices

theorem Handled.wireMessage (now : Instant) (message : WireMessage) :
    Handled state session event (session.handleWireMessage host state now message).1
      (session.handleWireMessage host state now message).2 := by
  unfold Session.handleWireMessage
  cases message with
  | close => exact .left rfl (.refl _)
  | pong bytes => exact .noticed rfl rfl rfl (.refl _)
  | binary bytes => exact .breakProtocol host state session
  | ping bytes =>
    obtain ⟨after, sent, kept, marked⟩ | ⟨after, sent, kept, marked⟩ := session.trySend_cases host (.pong bytes)
    · dsimp only
      rw [sent]
      exact .noticed (by rw [kept]) (by rw [kept]) (by rw [kept]) (marked ▸ .single rfl)
    · dsimp only
      rw [sent]
      obtain ⟨same, notices⟩ := after.disconnect_notices host state
      exact .left (by rw [same, kept]) (marked ▸ notices)
  | text text =>
    dsimp only
    split
    · exact .breakProtocol host state session
    next frame _ =>
      unfold Session.handleClientFrame
      split
      · exact .hello host state session _
      · exact .authenticate host state session _ _
      · exact .subscribe host state session _
      · exact .unsubscribe host state session _
      · exact .resume host state session _
      · exact .heartbeatAck state session now _

/-- **One event.** -/
theorem Session.handle_cases (event : Event) (enabled : event.enabled session = true) :
    Handled state session event (session.handle host state event).1 (session.handle host state event).2 := by
  cases event with
  | cancelled => exact .left rfl (.refl _)
  | handshakeDeadline => exact .breakProtocol host state session
  | disconnected => exact .left rfl (.refl _)
  | incoming now message => exact .wireMessage host state session now message
  | heartbeat now nonce => exact .heartbeat host state session now nonce
  | poll reader =>
    unfold Event.enabled at enabled
    rw [Bool.and_eq_true] at enabled
    exact .poll host state session reader enabled.1

end Handlers

section Runs

variable {host : Host} {state : RealtimeSessionState}

/-- **Runs.** What holds at the start and is kept by every event that the loop handles holds after every run. -/
theorem runSession_invariant {P : Running → Prop} {now : Instant} (start : P ⟨.start state now, false⟩)
    {events : List Event}
    (step : ∀ session event control after, event ∈ events → P ⟨session, false⟩ →
      Handled state session event control after → P ⟨after, control == .Break⟩) :
    P (runSession host state now events) := by
  unfold runSession
  generalize Running.mk (.start state now) false = running at start
  induction events generalizing running with
  | nil => exact start
  | cons event events ih =>
    refine ih (fun session e c a member => step session e c a (.tail _ member)) (running.step host state event) ?_
    unfold Running.step
    split_ifs with going
    · obtain ⟨session, ended⟩ := running
      obtain ⟨rfl, enabled⟩ := going
      exact step _ event _ _ (.head _) start (session.handle_cases host state event enabled)
    · exact start

end Runs

end Liqi.V0
