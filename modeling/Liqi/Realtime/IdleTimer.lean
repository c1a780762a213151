import Liqi.Realtime.Redelivery

/-!
# The idle timer

A session that has lost its transport is stopped by an `idle_expire` message, which a timer sends. `attach`
cancels the timer, without waiting for the cancellation, and `detach` starts a new one; the two other ways to
lose the connection, a queue without room and a `revoke`, start none. `expiry_pending_iff` is the exact
condition under which a session without a connection always has an expiry to come.
-/

namespace Liqi.Realtime

open Postgres Liqi.Database Liqi.Runtime Beam

/-- A session with its timers: those that run, those whose cancellation was asked for, and the number of
`idle_expire` messages in its mailbox. -/
structure Timed where
  session : Session
  armed : Finset TimerRef
  cancelled : Finset TimerRef
  pending : Nat

/-- What happens next. `expire` takes an `idle_expire` message from the mailbox. -/
inductive Happening where
  | message (input : Input)
  | fire (timer : TimerRef)
  | cancel (timer : TimerRef)
  | expire (readings : Readings)
  deriving DecidableEq

def Effect.armed? : Effect → Option TimerRef
  | .sendAfter timer _ => some timer
  | _ => none

def Effect.cancelled? : Effect → Option TimerRef
  | .cancelTimer timer => some timer
  | _ => none

namespace Timed

/-- The session goes on as `session` and its effects are performed. -/
def perform (state : Timed) (session : Session) (effects : List Effect) : Timed where
  session := session
  armed := state.armed ∪ (effects.filterMap Effect.armed?).toFinset
  cancelled := state.cancelled ∪ (effects.filterMap Effect.cancelled?).toFinset
  pending := state.pending

/-- A message that the session handles. -/
def receive (encodedBytes : Frame → Nat) (input : Input) (state : Timed) : Outcome Unit Timed Unit :=
  match (state.session.handle encodedBytes input).next? with
  | some session => .noreply (state.perform session (state.session.handle encodedBytes input).effects) []
  | none => .stop

/-- One step. A reference is that of a new timer, a timer fires or is cancelled only if it runs or was asked
to be cancelled, and `expire` needs a message; what cannot happen has no next state. -/
def step (encodedBytes : Frame → Nat) (happening : Happening) (state : Timed) : Outcome Unit Timed Unit :=
  match happening with
  | .message input =>
    if input.readings.timer ∈ state.armed ∪ state.cancelled then .crash else state.receive encodedBytes input
  | .fire timer =>
    if timer ∈ state.armed then .noreply { state with armed := state.armed.erase timer, pending := state.pending + 1 } []
    else .crash
  | .cancel timer =>
    if timer ∈ state.cancelled then
      .noreply { state with armed := state.armed.erase timer, cancelled := state.cancelled.erase timer } []
    else .crash
  | .expire readings =>
    if 0 < state.pending then
      { state with pending := state.pending - 1 }.receive encodedBytes { readings, message := .idleExpire }
    else .crash

/-- The timers that run and are not being cancelled. -/
def live (state : Timed) : Finset TimerRef := state.armed \ state.cancelled

/-- A session without a connection has an expiry to come. -/
def Expiring (state : Timed) : Prop := state.session.connectionPid = none → state.live ≠ ∅ ∨ 0 < state.pending

/-- The message takes the connection away without a `detach`: a `revoke`, or an event without room. -/
def Drops (encodedBytes : Frame → Nat) (input : Input) (session : Session) : Prop :=
  session.connectionPid ≠ none ∧ ((∃ reason, input.message = .revoke reason)
    ∨ ∃ event sequence, input.message.event? = some event ∧ session.Fresh event sequence
      ∧ ¬ session.HasRoom encodedBytes input.readings event sequence)

/-- A step that takes the connection away finds an `idle_expire` in the mailbox. -/
def Backed (encodedBytes : Frame → Nat) (happening : Happening) (state : Timed) : Prop :=
  ∀ input, happening = .message input → input.readings.timer ∉ state.armed ∪ state.cancelled →
    Drops encodedBytes input state.session → 0 < state.pending

/-- `live` timers are the one of the state, and only a session without a connection has one. -/
structure Kept (state : Timed) : Prop where
  expiring : state.Expiring
  connected : state.session.connectionPid ≠ none → state.live = ∅
  current : ∀ timer ∈ state.live, state.session.idleTimer = some timer

section

variable {encodedBytes : Frame → Nat} {input : Input} {session next : Session} {effects : List Effect}

theorem timers_toConnection {frames : List Frame} : (session.toConnection frames).filterMap Effect.armed? = []
    ∧ (session.toConnection frames).filterMap Effect.cancelled? = [] := by
  unfold Session.toConnection
  split <;> simp [Effect.armed?, Effect.cancelled?]

theorem timers_closeConnection {last : Frame} {reason : CloseReason} :
    (session.closeConnection last reason).filterMap Effect.armed? = []
      ∧ (session.closeConnection last reason).filterMap Effect.cancelled? = [] := by
  unfold Session.closeConnection
  split <;> simp [Effect.armed?, Effect.cancelled?]

/-- What a message does to the connection and the timers. -/
inductive TimerStep (encodedBytes : Frame → Nat) (input : Input) (session next : Session) :
    List TimerRef → List TimerRef → Prop where
  | kept (connection : next.connectionPid = session.connectionPid) (timer : next.idleTimer = session.idleTimer) :
      TimerStep encodedBytes input session next [] []
  | dropped (drops : session.connectionPid ≠ none → Drops encodedBytes input session)
      (connection : next.connectionPid = none) (timer : next.idleTimer = session.idleTimer) :
      TimerStep encodedBytes input session next [] []
  | attached (connection : next.connectionPid ≠ none) :
      TimerStep encodedBytes input session next [] session.idleTimer.toList
  | detached (connected : session.connectionPid ≠ none) (connection : next.connectionPid = none)
      (timer : next.idleTimer = some input.readings.timer) :
      TimerStep encodedBytes input session next [input.readings.timer] []

theorem timerStep (step : Session.Step encodedBytes input session next effects) :
    TimerStep encodedBytes input session next (effects.filterMap Effect.armed?) (effects.filterMap Effect.cancelled?) := by
  cases step with
  | kept => exact .kept rfl rfl
  | attached message admits =>
    have armed : ∀ attached connection, (session.attachEffects attached connection).filterMap Effect.armed? = [] := by
      intro attached connection
      simp [Session.attachEffects, timers_toConnection, List.filterMap_map, Function.comp_def, Effect.armed?]
    have cancelled : ∀ attached connection,
        (session.attachEffects attached connection).filterMap Effect.cancelled? = session.idleTimer.toList := by
      intro attached connection
      simp [Session.attachEffects, timers_toConnection, List.filterMap_map, Function.comp_def, Effect.cancelled?]
    rw [armed, cancelled]
    exact .attached (by simp [Session.attachedTo])
  | subscribed | acked => exact .kept rfl rfl
  | pushed =>
    rw [timers_toConnection.1, timers_toConnection.2]
    exact .kept rfl rfl
  | cleared brings fresh full =>
    rw [timers_closeConnection.1, timers_closeConnection.2]
    exact .dropped (fun connected => ⟨connected, .inr ⟨_, _, brings, fresh, full⟩⟩) rfl rfl
  | @revoked reason message =>
    rw [List.filterMap_append, List.filterMap_append, timers_closeConnection.1, timers_closeConnection.2]
    simp only [List.filterMap_map, Function.comp_def, Effect.armed?, Effect.cancelled?, List.filterMap_none, List.append_nil]
    exact .dropped (fun connected => ⟨connected, .inl ⟨reason, message⟩⟩) rfl rfl
  | detached message current => exact .detached (by simp [current]) rfl rfl

theorem receive_next {state state' : Timed} (stepped : (state.receive encodedBytes input).next? = some state') :
    ∃ next, (state.session.handle encodedBytes input).next? = some next
      ∧ state' = state.perform next (state.session.handle encodedBytes input).effects := by
  unfold receive at stepped
  split at stepped
  next next handled =>
    cases stepped
    exact ⟨next, handled, rfl⟩
  next => cases stepped

/-- A message keeps the expiry, unless it takes the connection away from a session that has none to come. -/
theorem Kept.receive {state state' : Timed} (kept : state.Kept) (fresh : input.readings.timer ∉ state.cancelled)
    (backed : Drops encodedBytes input state.session → 0 < state.pending)
    (stepped : (state.receive encodedBytes input).next? = some state') : state'.Kept := by
  obtain ⟨next, handled, rfl⟩ := receive_next stepped
  have step := timerStep (Session.handle_step handled)
  unfold perform
  generalize (state.session.handle encodedBytes input).effects.filterMap Effect.armed? = armed at step ⊢
  generalize (state.session.handle encodedBytes input).effects.filterMap Effect.cancelled? = cancelled at step ⊢
  cases step with
  | kept connection timer =>
    refine ⟨?_, ?_, ?_⟩
    · intro none
      simpa [live] using kept.expiring (connection.symm.trans none)
    · intro some
      simpa [live] using kept.connected (connection ▸ some)
    · intro ref member
      rw [timer]
      exact kept.current ref (by simpa [live] using member)
  | dropped drops connection timer =>
    refine ⟨?_, fun some => absurd connection some, ?_⟩
    · intro _
      by_cases connected : state.session.connectionPid = none
      · simpa [live] using kept.expiring connected
      · exact .inr (backed (drops connected))
    · intro ref member
      rw [timer]
      exact kept.current ref (by simpa [live] using member)
  | attached connection =>
    have none : (state.armed ∪ ([] : List TimerRef).toFinset) \ (state.cancelled ∪ state.session.idleTimer.toList.toFinset) = ∅ := by
      rw [Finset.eq_empty_iff_forall_notMem]
      intro ref member
      simp only [List.toFinset_nil, Finset.union_empty, Finset.mem_sdiff, Finset.mem_union, List.mem_toFinset,
        Option.mem_toList, not_or] at member
      exact member.2.2 (kept.current ref (Finset.mem_sdiff.2 ⟨member.1, member.2.1⟩))
    refine ⟨fun lost => absurd lost connection, fun _ => none, ?_⟩
    intro ref member
    rw [live, none] at member
    cases member
  | detached connected connection timer =>
    have quiet := kept.connected connected
    have started : (state.armed ∪ [input.readings.timer].toFinset) \ (state.cancelled ∪ ([] : List TimerRef).toFinset)
        = {input.readings.timer} := by
      ext ref
      have idle : ref ∈ state.armed → ref ∈ state.cancelled := by
        intro runs
        by_contra lives
        have member : ref ∈ state.live := Finset.mem_sdiff.2 ⟨runs, lives⟩
        rw [quiet] at member
        cases member
      simp only [List.toFinset_cons, List.toFinset_nil, insert_empty_eq, Finset.union_empty, Finset.mem_sdiff,
        Finset.mem_union, Finset.mem_singleton]
      constructor
      · rintro ⟨runs | new, lives⟩
        · exact absurd (idle runs) lives
        · exact new
      · rintro rfl
        exact ⟨.inr rfl, fresh⟩
    refine ⟨fun _ => .inl ?_, fun some => absurd connection some, ?_⟩
    · rw [live, started]
      exact Finset.singleton_ne_empty _
    · intro ref member
      rw [live, started, Finset.mem_singleton] at member
      rw [timer, member]

/-- A message that takes the connection away starts no timer. -/
theorem Drops.stepped (drops : Drops encodedBytes input session) :
    ∃ next, (session.handle encodedBytes input).next? = some next ∧ next.connectionPid = none
      ∧ (session.handle encodedBytes input).effects.filterMap Effect.armed? = [] := by
  obtain ⟨connected, ⟨reason, message⟩ | ⟨event, sequence, brings, fresh, full⟩⟩ := drops
  · refine ⟨session.revokedFrom, ?_, rfl, ?_⟩
    · simp only [Session.handle, message, Session.revoke]
      rfl
    · simp [Session.handle, message, Session.revoke, Outcome.effects, List.filterMap_map, Function.comp_def,
        Effect.armed?, timers_closeConnection.1]
  · refine ⟨_, Session.handle_of_brings brings, ?_, ?_⟩
    · rw [Session.enqueueEvent_of_full fresh full]
      rfl
    · rw [Session.effects_of_brings brings, Session.enqueueEvent_of_full fresh full]
      exact timers_closeConnection.1

variable {happening : Happening} {state state' : Timed}

theorem Kept.step (kept : state.Kept) (backed : Backed encodedBytes happening state)
    (stepped : (state.step encodedBytes happening).next? = some state') : state'.Kept := by
  cases happening with
  | message input =>
    simp only [Timed.step] at stepped
    split_ifs at stepped with used
    · cases stepped
    · refine kept.receive (fun cancelled => used (Finset.mem_union_right _ cancelled)) ?_ stepped
      exact backed input rfl used
  | fire timer =>
    simp only [Timed.step] at stepped
    split_ifs at stepped with runs
    · cases stepped
      have fewer : state.armed.erase timer \ state.cancelled ⊆ state.live :=
        Finset.sdiff_subset_sdiff (Finset.erase_subset _ _) le_rfl
      refine ⟨fun _ => .inr (Nat.succ_pos _), fun some => ?_, fun ref member => kept.current ref (fewer member)⟩
      exact Finset.subset_empty.1 (kept.connected some ▸ fewer)
    · cases stepped
  | cancel timer =>
    simp only [Timed.step] at stepped
    split_ifs at stepped with asked
    · cases stepped
      have same : state.armed.erase timer \ state.cancelled.erase timer = state.live := by
        ext ref
        simp only [live, Finset.mem_sdiff, Finset.mem_erase, not_and]
        constructor
        · rintro ⟨⟨other, runs⟩, lives⟩
          exact ⟨runs, lives other⟩
        · rintro ⟨runs, lives⟩
          refine ⟨⟨?_, runs⟩, fun _ => lives⟩
          rintro rfl
          exact lives asked
      refine ⟨fun none => ?_, fun some => ?_, fun ref member => kept.current ref ?_⟩
      · rw [live, same]
        exact kept.expiring none
      · rw [live, same]
        exact kept.connected some
      · rwa [live, same] at member
    · cases stepped
  | expire readings =>
    simp only [Timed.step] at stepped
    split_ifs at stepped with waiting
    · obtain ⟨next, handled, rfl⟩ := receive_next stepped
      by_cases gone : state.session.connectionPid = none
      · simp only [Session.handle, Session.idleExpire, if_pos gone] at handled
        cases handled
      · simp only [Session.handle, Session.idleExpire, if_neg gone] at handled ⊢
        cases handled
        have quiet := kept.connected gone
        refine ⟨fun none => absurd none gone, fun _ => ?_, ?_⟩
        · simpa [live, perform, Outcome.effects] using quiet
        · intro ref member
          exact kept.current ref (by simpa [live, perform, Outcome.effects] using member)
    · cases stepped

/-- Without an `idle_expire` in the mailbox, a message that takes the connection away leaves nothing to come. -/
theorem Kept.breaks (kept : state.Kept) (unbacked : ¬ Backed encodedBytes happening state) :
    ∃ state', (state.step encodedBytes happening).next? = some state' ∧ ¬ state'.Expiring := by
  simp only [Backed, not_forall] at unbacked
  obtain ⟨input, rfl, fresh, drops, empty⟩ := unbacked
  obtain ⟨next, handled, lost, nothing⟩ := drops.stepped
  refine ⟨state.perform next (state.session.handle encodedBytes input).effects, ?_, ?_⟩
  · simp only [Timed.step, if_neg fresh, Timed.receive, handled]
    rfl
  · intro expiring
    have quiet := kept.connected drops.1
    have none : (state.perform next (state.session.handle encodedBytes input).effects).live = ∅ := by
      rw [← Finset.subset_empty, ← quiet]
      simp only [live, perform, nothing, List.toFinset_nil, Finset.union_empty]
      exact Finset.sdiff_subset_sdiff le_rfl Finset.subset_union_left
    exact (expiring lost).elim (fun some => some none) empty

/-- A new session, with the timer that `init` starts. -/
def init (config : RuntimeConfig) (sessionId : String) (timer : TimerRef) : Timed where
  session := Session.init config sessionId timer
  armed := {timer}
  cancelled := ∅
  pending := 0

theorem init_kept (config : RuntimeConfig) (sessionId : String) (timer : TimerRef) :
    (init config sessionId timer).Kept := by
  refine ⟨fun _ => .inl ?_, fun some => absurd rfl some, ?_⟩
  · simp [live, init]
  · intro ref member
    have same : ref = timer := by simpa [live, init] using member
    rw [same]
    rfl

/-- **Expiry.** For every session and every sequence of messages, timers that fire and cancellations that take
effect: in every state a session without a connection has an idle timer that runs or an `idle_expire` in its
mailbox, exactly if every `revoke` and every event without room that takes a connection away finds an
`idle_expire` in the mailbox. -/
theorem expiry_pending_iff (encodedBytes : Frame → Nat) (config : RuntimeConfig) (sessionId : String) (timer : TimerRef)
    (happenings : List Happening) :
    Throughout (step encodedBytes) (init config sessionId timer) Expiring happenings
      ↔ Along (step encodedBytes) (init config sessionId timer) (Backed encodedBytes) happenings :=
  throughout_iff_along (L := fun _ => True) (fun _ _ => trivial) (init_kept config sessionId timer)
    (fun _ kept => kept.expiring) (fun _ _ _ _ kept backed stepped => kept.step backed stepped)
    (fun _ _ _ kept unbacked => kept.breaks unbacked)

end

end Timed

/-- The third delivery finds no room and takes the connection away; nothing will expire the session. -/
theorem slow_consumer_never_expires :
    (Beam.run (Timed.step fun _ => 200) (Timed.init smallConfig "session" 0)
        ([sampleInput (.attach "device" 7 none), sampleInput (.deliver (sampleEvent 1)),
          sampleInput (.deliver (sampleEvent 2)), sampleInput (.deliver (sampleEvent 3))].map Happening.message
            ++ [.cancel 0])).map
      (fun state => (state.session.connectionPid, state.armed, state.pending)) = some (none, ∅, 0) := by
  decide

end Liqi.Realtime
