import Liqi.V0.SessionSteps

/-!
# The gate of a V0 session

A session serves subscriptions only past the gate: the client has said hello and has authenticated, and was
told so. `Gate` holds as long as the loop runs; what the history says about the frames behind the gate holds
also after it was left, where a failed authentication may have left subscriptions behind.
-/

namespace Liqi.V0

open Postgres Liqi.Database

section Subscriptions

variable {set after : SubscriptionSet} {maximum : Nat}

/-- Inserting keeps the number of subscriptions within the maximum. -/
theorem SubscriptionSet.size_subscribe {payload : SubscribePayload} (within : set.entries.size ≤ maximum)
    (accepted : set.subscribe payload maximum = .ok after) : after.entries.size ≤ maximum := by
  unfold SubscriptionSet.subscribe at accepted
  split_ifs at accepted with topic full
  split at accepted
  · cases accepted
  · cases accepted
    show (set.entries.insert _ _).size ≤ maximum
    rw [Std.TreeMap.size_insert]
    split_ifs with known
    · exact within
    · rw [not_and, not_le] at full
      exact full (Bool.not_eq_true _ ▸ known)

theorem SubscriptionSet.size_resumeAll (subscriptions : List ResumeSubscription) (set : SubscriptionSet)
    (within : set.entries.size ≤ maximum) : (resumeAll maximum subscriptions set).1.entries.size ≤ maximum := by
  induction subscriptions generalizing set with
  | nil => exact within
  | cons subscription rest ih =>
    unfold resumeAll
    dsimp only
    split
    · exact within
    next inserted accepted => exact ih inserted (size_subscribe within accepted)

theorem SubscriptionSet.size_resume (subscriptions : List ResumeSubscription) (within : set.entries.size ≤ maximum) :
    (set.resume subscriptions maximum).1.entries.size ≤ maximum := by
  unfold SubscriptionSet.resume
  split_ifs
  · exact within
  · exact size_resumeAll subscriptions set within

@[simp] theorem SubscriptionSet.size_advance (subscriptionId : Uuid) (cursor : RealtimeCursor) :
    (set.advance subscriptionId cursor).entries.size = set.entries.size :=
  Std.TreeMap.size_modify

@[simp] theorem SubscriptionSet.size_advanceAll (subscriptionId : Uuid) (deliveries : List RealtimeDelivery) :
    (set.advanceAll subscriptionId deliveries).entries.size = set.entries.size := by
  unfold SubscriptionSet.advanceAll
  induction deliveries generalizing set with
  | nil => rfl
  | cons delivery rest ih => rw [List.foldl_cons, ih, size_advance]

@[simp] theorem SubscriptionSet.size_afterBatch (subscriptionId : Uuid) (batch : RealtimeEventBatch) :
    (set.afterBatch subscriptionId batch).entries.size = set.entries.size := by
  unfold SubscriptionSet.afterBatch
  split
  · exact size_advanceAll ..
  · rw [size_advance, size_advanceAll]

theorem SubscriptionSet.nextForPoll_some {entry : Uuid × Subscription}
    (next : set.nextForPoll = some (entry, after)) :
    after.entries = set.entries ∧ set.entries[entry.1]? = some entry.2 := by
  unfold SubscriptionSet.nextForPoll at next
  split_ifs at next
  obtain ⟨found, at_, same⟩ := Option.map_eq_some_iff.1 next
  cases same
  exact ⟨rfl, Std.TreeMap.mem_toList_iff_getElem?_eq_some.1 (List.mem_of_getElem? at_)⟩

end Subscriptions

/-! ### Histories -/

def Welcomed (history : List Mark) : Prop := ∃ frame, frame.isWelcome = true ∧ .enqueued (.text frame) ∈ history

def Admitted (history : List Mark) : Prop := ∃ frame, frame.isAuthenticated = true ∧ .enqueued (.text frame) ∈ history

theorem Welcomed.append {history : List Mark} (welcomed : Welcomed history) (marks : List Mark) :
    Welcomed (history ++ marks) := by
  obtain ⟨frame, kind, member⟩ := welcomed
  exact ⟨frame, kind, List.mem_append_left _ member⟩

theorem Admitted.append {history : List Mark} (admitted : Admitted history) (marks : List Mark) :
    Admitted (history ++ marks) := by
  obtain ⟨frame, kind, member⟩ := admitted
  exact ⟨frame, kind, List.mem_append_left _ member⟩

/-- A frame behind the gate comes after both frames that open it. -/
def Orderly (history : List Mark) : Prop :=
  ∀ i frame, history[i]? = some (.enqueued (.text frame)) → frame.isGated = true →
    Welcomed (history.take i) ∧ Admitted (history.take i)

/-- The frames that only a build with development authentication sends. -/
def Restricted (state : RealtimeSessionState) (history : List Mark) : Prop :=
  ∀ frame, .enqueued (.text frame) ∈ history → (frame.isAuthenticated || frame.isGated) = true →
    state.devAuthenticationEnabled = true

section Append

variable {history marks : List Mark} {state : RealtimeSessionState}

theorem Orderly.append (orderly : Orderly history)
    (opened : ∀ frame, .enqueued (.text frame) ∈ marks → frame.isGated = true → Welcomed history ∧ Admitted history) :
    Orderly (history ++ marks) := by
  intro i frame at_ gated
  by_cases old : i < history.length
  · rw [List.getElem?_append_left old] at at_
    rw [List.take_append_of_le_length old.le]
    exact orderly i frame at_ gated
  · rw [List.getElem?_append_right (not_lt.1 old)] at at_
    obtain ⟨welcomed, admitted⟩ := opened frame (List.mem_of_getElem? at_) gated
    rw [List.take_append, List.take_of_length_le (not_lt.1 old)]
    exact ⟨welcomed.append _, admitted.append _⟩

theorem Restricted.append (restricted : Restricted state history)
    (enabled : ∀ frame, .enqueued (.text frame) ∈ marks → (frame.isAuthenticated || frame.isGated) = true →
      state.devAuthenticationEnabled = true) : Restricted state (history ++ marks) := by
  intro frame member kind
  exact (List.mem_append.1 member).elim (fun old => restricted frame old kind) (fun new => enabled frame new kind)

theorem not_enqueued_startMarks {payloads : List SubscribePayload} {message : Message} :
    .enqueued message ∉ startMarks payloads := by
  simp [startMarks]

theorem notices_plain {notices : List Message} (plain : ∀ message ∈ notices, message.isNotice = true)
    {frame : ServerFrameBody} (member : .enqueued (.text frame) ∈ notices.map Mark.enqueued) :
    frame.isGated = false ∧ frame.isWelcome = false ∧ frame.isAuthenticated = false := by
  obtain ⟨message, given, same⟩ := List.mem_map.1 member
  cases same
  have notice := plain _ given
  simp only [Message.isNotice, Bool.not_eq_true', Bool.or_eq_false_iff] at notice
  exact ⟨notice.1.1, notice.1.2, notice.2⟩

end Append

/-- What the history says of the gate, whether or not the loop still runs. -/
structure Guarded (state : RealtimeSessionState) (history : List Mark) : Prop where
  orderly : Orderly history
  restricted : Restricted state history

namespace Guarded

variable {state : RealtimeSessionState} {history after : List Mark}

theorem noticed (guarded : Guarded state history) (notices : Noticed history after) : Guarded state after := by
  obtain ⟨messages, plain, rfl⟩ := notices
  constructor
  · refine guarded.orderly.append fun frame member gated => ?_
    rw [(notices_plain plain member).1] at gated
    cases gated
  · refine guarded.restricted.append fun frame member kind => ?_
    rw [(notices_plain plain member).1, (notices_plain plain member).2.2] at kind
    cases kind

theorem started (guarded : Guarded state history) (payloads : List SubscribePayload) :
    Guarded state (history ++ startMarks payloads) :=
  ⟨guarded.orderly.append fun _ member => absurd member not_enqueued_startMarks,
    guarded.restricted.append fun _ member => absurd member not_enqueued_startMarks⟩

/-- A frame that is not behind the gate. -/
theorem opening (guarded : Guarded state history) {frame : ServerFrameBody} (plain : frame.isGated = false)
    (enabled : frame.isAuthenticated = true → state.devAuthenticationEnabled = true) :
    Guarded state (history ++ [.enqueued (.text frame)]) := by
  constructor
  · refine guarded.orderly.append fun other member gated => ?_
    cases List.mem_singleton.1 member
    rw [plain] at gated
    cases gated
  · refine guarded.restricted.append fun other member kind => ?_
    cases List.mem_singleton.1 member
    rw [plain, Bool.or_false] at kind
    exact enabled kind

/-- Frames behind the open gate. -/
theorem gated (guarded : Guarded state history) {marks : List Mark} (welcomed : Welcomed history)
    (admitted : Admitted history) (enabled : state.devAuthenticationEnabled = true) :
    Guarded state (history ++ marks) :=
  ⟨guarded.orderly.append fun _ _ _ => ⟨welcomed, admitted⟩, guarded.restricted.append fun _ _ _ => enabled⟩

end Guarded

/-- The state of a session whose loop runs. -/
structure Gate (state : RealtimeSessionState) (session : Session) : Prop where
  subscribers : session.protocol.subscriptions.entries.isEmpty = false → session.protocol.authenticated = true
  handshake : session.protocol.authenticated = true → session.protocol.negotiated = true
  bounded : session.protocol.subscriptions.entries.size ≤ state.maxSubscriptions
  welcomed : session.protocol.negotiated = true → Welcomed session.history
  admitted : session.protocol.authenticated = true → Admitted session.history
  enabled : session.protocol.authenticated = true → state.devAuthenticationEnabled = true

/-- The same gate with other subscriptions and a longer history. -/
theorem Gate.update {state : RealtimeSessionState} {session after : Session} (gate : Gate state session)
    {set : SubscriptionSet} (protocol : after.protocol = { session.protocol with subscriptions := set })
    {marks : List Mark} (history : after.history = session.history ++ marks)
    (bounded : set.entries.size ≤ state.maxSubscriptions)
    (subscribers : session.protocol.authenticated = true ∨
      (set.entries.isEmpty = false → session.protocol.subscriptions.entries.isEmpty = false)) :
    Gate state after := by
  constructor
  · rw [protocol]
    intro present
    rcases subscribers with authenticated | before
    · exact authenticated
    · exact gate.subscribers (before present)
  · rw [protocol]
    exact gate.handshake
  · rw [protocol]
    exact bounded
  · rw [protocol, history]
    exact fun negotiated => (gate.welcomed negotiated).append _
  · rw [protocol, history]
    exact fun authenticated => (gate.admitted authenticated).append _
  · rw [protocol]
    exact gate.enabled

/-- The gate and the history in every state of the loop. -/
structure Secured (state : RealtimeSessionState) (running : Running) : Prop where
  guarded : Guarded state running.session.history
  gate : running.ended = false → Gate state running.session

section Step

variable {state : RealtimeSessionState} {session after : Session}

theorem Secured.left (guarded : Guarded state after.history) : Secured state ⟨after, true⟩ := ⟨guarded, nofun⟩

/-- The answer decides whether the loop goes on; the gate holds either way. -/
theorem Secured.either (guarded : Guarded state after.history) (gate : Gate state after) (control : SessionControl) :
    Secured state ⟨after, control == .Break⟩ :=
  ⟨guarded, fun _ => gate⟩

theorem Secured.step {event : Event} {control : SessionControl} (secured : Secured state ⟨session, false⟩)
    (handled : Handled state session event control after) : Secured state ⟨after, control == .Break⟩ := by
  have gate : Gate state session := secured.gate rfl
  have guarded : Guarded state session.history := secured.guarded
  cases handled with
  | left subscriptions notices => exact .left (guarded.noticed notices)
  | noticed negotiated authenticated subscriptions notices =>
    refine .either (guarded.noticed notices) ?_ _
    obtain ⟨messages, _, history⟩ := notices
    constructor
    · rw [subscriptions, authenticated]
      exact gate.subscribers
    · rw [authenticated, negotiated]
      exact gate.handshake
    · rw [subscriptions]
      exact gate.bounded
    · rw [negotiated, history]
      exact fun negotiated => (gate.welcomed negotiated).append _
    · rw [authenticated, history]
      exact fun authenticated => (gate.admitted authenticated).append _
    · rw [authenticated]
      exact gate.enabled
  | welcomed first protocol history =>
    refine .either (history ▸ guarded.opening rfl nofun) ?_ _
    constructor
    · rw [protocol]
      exact gate.subscribers
    · rw [protocol]
      exact fun _ => rfl
    · rw [protocol]
      exact gate.bounded
    · rw [history]
      exact fun _ => ⟨Session.welcomeFrame state, rfl, List.mem_append_right _ (List.mem_singleton.2 rfl)⟩
    · rw [protocol, history]
      exact fun authenticated => (gate.admitted authenticated).append _
    · rw [protocol]
      exact gate.enabled
  | authenticated negotiated enabled protocol history =>
    refine .either (history ▸ guarded.opening rfl fun _ => enabled) ?_ _
    constructor
    · rw [protocol]
      exact fun _ => rfl
    · rw [protocol]
      exact fun _ => negotiated
    · rw [protocol]
      exact gate.bounded
    · rw [protocol, history]
      exact fun negotiated => (gate.welcomed negotiated).append _
    · rw [history]
      exact fun _ => ⟨.authenticated true, rfl, List.mem_append_right _ (List.mem_singleton.2 rfl)⟩
    · exact fun _ => enabled
  | subscribed payload set cursor authenticated accepted protocol history =>
    rw [List.append_assoc] at history
    refine .either ?_ ?_ _
    · rw [history]
      exact guarded.gated (gate.welcomed (gate.handshake authenticated)) (gate.admitted authenticated)
        (gate.enabled authenticated)
    · exact gate.update protocol history (SubscriptionSet.size_subscribe gate.bounded accepted) (.inl authenticated)
  | subscribedLeft payload set accepted protocol notices =>
    exact .left ((guarded.started [payload]).noticed notices)
  | unsubscribed subscriptionId protocol notices =>
    refine .either (guarded.noticed notices) ?_ control
    obtain ⟨messages, _, history⟩ := notices
    refine gate.update protocol history ?_ (.inr ?_)
    · exact Std.TreeMap.size_erase_le.trans gate.bounded
    · intro present
      have erased : (session.protocol.subscriptions.entries.erase subscriptionId).isEmpty = false := present
      rw [Std.TreeMap.isEmpty_erase, Bool.or_eq_false_iff] at erased
      exact erased.1
  | resumed subscriptions set payloads failure authenticated resumed protocol notices =>
    refine .either ((guarded.started payloads).noticed notices) ?_ control
    obtain ⟨messages, _, history⟩ := notices
    rw [List.append_assoc] at history
    have size := SubscriptionSet.size_resume subscriptions gate.bounded
    rw [resumed] at size
    exact gate.update protocol history size (.inl authenticated)
  | unread subscriptionId subscription set next protocol history =>
    have same : set.entries = session.protocol.subscriptions.entries := (SubscriptionSet.nextForPoll_some next).1
    refine .either (history ▸ guarded) ?_ _
    refine gate.update protocol (history.trans (List.append_nil _).symm) (same ▸ gate.bounded) (.inr ?_)
    rw [same]
    exact id
  | polled subscriptionId subscription set batch authenticated next read protocol history =>
    have same : set.entries = session.protocol.subscriptions.entries := (SubscriptionSet.nextForPoll_some next).1
    refine .either ?_ ?_ _
    · rw [history]
      exact guarded.gated (gate.welcomed (gate.handshake authenticated)) (gate.admitted authenticated)
        (gate.enabled authenticated)
    · refine gate.update protocol history ?_ (.inl authenticated)
      rw [SubscriptionSet.size_afterBatch, same]
      exact gate.bounded
  | polledLeft subscriptionId subscription set batch count authenticated next read protocol notices =>
    exact .left ((guarded.gated (gate.welcomed (gate.handshake authenticated)) (gate.admitted authenticated)
      (gate.enabled authenticated)).noticed notices)

end Step

/-- **The gate.** As long as the loop runs, subscriptions need authentication, authentication needs the
handshake, and the subscriptions stay within their maximum. In every run, a frame of a subscription was enqueued
after a welcome and an authenticated frame, and a build without development authentication enqueues none. -/
theorem session_gated (host : Host) (state : RealtimeSessionState) (now : Instant) (events : List Event) :
    let running := runSession host state now events
    let protocol := running.session.protocol
    (running.ended = false →
      (protocol.subscriptions.entries.isEmpty = false → protocol.authenticated = true) ∧
      (protocol.authenticated = true → protocol.negotiated = true) ∧
      protocol.subscriptions.entries.size ≤ state.maxSubscriptions) ∧
    (∀ i frame, running.session.history[i]? = some (.enqueued (.text frame)) → frame.isGated = true →
      Welcomed (running.session.history.take i) ∧ Admitted (running.session.history.take i)) ∧
    (state.devAuthenticationEnabled = false → ∀ frame, .enqueued (.text frame) ∈ running.session.history →
      frame.isAuthenticated = false ∧ frame.isGated = false) := by
  have start : Secured state ⟨.start state now, false⟩ := by
    refine ⟨⟨nofun, nofun⟩, fun _ => ⟨nofun, nofun, Nat.zero_le _, nofun, nofun, nofun⟩⟩
  have secured : Secured state (runSession host state now events) :=
    runSession_invariant start fun session event control after _ before handled => before.step handled
  refine ⟨fun going => ?_, secured.guarded.orderly, fun disabled frame member => ?_⟩
  · have gate := secured.gate going
    exact ⟨gate.subscribers, gate.handshake, gate.bounded⟩
  · have closed : ¬ (frame.isAuthenticated || frame.isGated) = true := by
      intro kind
      rw [secured.guarded.restricted frame member kind] at disabled
      cases disabled
    rw [Bool.not_eq_true, Bool.or_eq_false_iff] at closed
    exact closed

end Liqi.V0
