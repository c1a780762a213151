import Liqi.Realtime.SessionQueue

/-!
# The gap flag

`slow_consumer_state` drops the queue and the event that found no room, and sets `gap_required?`; every event
frame built from then on has `resumeRequired = true`. The gap is what was dropped and not queued again since.
No clause resets the flag, so that it is right only as long as the gap stays open: `resume_required_iff` says
that no frame asks for a resume in vain exactly if no acknowledgement covers, and no event fills, what is left
of the gap beyond the acknowledgement cursor.
-/

namespace Liqi.Realtime

open Postgres Liqi.Database Liqi.Runtime

def FramePayload.resumeRequired : FramePayload → Bool
  | .event _ _ resumeRequired => resumeRequired
  | .slowConsumer .. => false
  | .accessRevoked .. => false

/-- An event that `slow_consumer_state` dropped. -/
structure Dropped where
  eventId : Uuid
  sequence : Int
  deriving DecidableEq

def Outbound.dropped (outbound : Outbound) : Dropped where
  eventId := outbound.eventId
  sequence := outbound.sequence

namespace Session

/-- The frame that `enqueue_event` builds, whether it is then queued or found too large. -/
def builtFrame? (readings : Readings) (event : Event) (session : Session) : Option Frame :=
  match event.handoffId with
  | none => none
  | some sequence =>
    if sequence ≤ session.lastAck then none
    else if event.eventId ∈ session.seenEventSet then none
    else if session.queueExpired readings.expiryClock then none
    else if session.config.sessionQueueCapacity ≤ session.queueSize then none
    else some (session.eventFrame readings sequence event)

section

variable (encodedBytes : Frame → Nat)

/-- What the message makes `slow_consumer_state` drop: the queue and the refused event. -/
def drops (input : Input) (session : Session) : List Dropped :=
  match input.message.event? with
  | none => []
  | some event => match (session.enqueueEvent encodedBytes input.readings event).1, event.handoffId with
    | .slowConsumer, some sequence => session.queue.map Outbound.dropped ++ [{ eventId := event.eventId, sequence }]
    | _, _ => []

/-- The event that the message puts in the queue. -/
def queues (input : Input) (session : Session) : Option Uuid :=
  match input.message.event? with
  | none => none
  | some event =>
    if (session.enqueueEvent encodedBytes input.readings event).1 = .ok then some event.eventId else none

/-- The gap after a message: an event that is queued again leaves it, dropped events enter it. -/
def noteGap (input : Input) (session : Session) (gap : List Dropped) : List Dropped :=
  gap.filter (fun dropped => session.queues encodedBytes input ≠ some dropped.eventId)
    ++ session.drops encodedBytes input

/-- The events of a run that were dropped and have not been queued again since. -/
def gap (config : RuntimeConfig) (sessionId : String) (timer : TimerRef) (inputs : List Input) : List Dropped :=
  Beam.notes (noteGap encodedBytes) (handle encodedBytes) (init config sessionId timer) [] inputs

/-- An event frame built in this state asks for a resume only if a part of the gap is beyond the cursor. -/
def AsksRightly (session : Session) (gap : List Dropped) : Prop :=
  ∀ readings sequence event, (session.eventFrame readings sequence event).payload.resumeRequired = true →
    ∃ dropped ∈ gap, session.lastAck < dropped.sequence

/-- The message acknowledges or queues what is left of the gap beyond the cursor. -/
inductive ClosesGap (input : Input) (session : Session) (gap : List Dropped) : Prop where
  | covered {cursor : Int} (flagged : session.gapRequired = true) (acknowledges : session.Acknowledges input cursor)
      (rest : ∀ dropped ∈ gap, session.lastAck < dropped.sequence → dropped.sequence ≤ cursor)
  | filled {event : Event} {sequence : Int} (flagged : session.gapRequired = true)
      (brings : input.message.event? = some event) (fresh : session.Fresh event sequence)
      (room : session.HasRoom encodedBytes input.readings event sequence)
      (rest : ∀ dropped ∈ gap, session.lastAck < dropped.sequence → dropped.eventId = event.eventId)

end

section

variable {encodedBytes : Frame → Nat} {input : Input} {session next : Session} {event : Event} {sequence : Int}
  {gap : List Dropped}

theorem asksRightly_iff : session.AsksRightly gap
    ↔ (session.gapRequired = true → ∃ dropped ∈ gap, session.lastAck < dropped.sequence) :=
  ⟨fun asks flagged => asks sampleReadings 0 (sampleEvent 0) flagged, fun open_ _ _ _ flagged => open_ flagged⟩

theorem noteGap_of_none (none : input.message.event? = none) : session.noteGap encodedBytes input gap = gap := by
  simp [noteGap, queues, drops, none]

theorem noteGap_of_stale (brings : input.message.event? = some event)
    (stale : ∀ sequence, ¬ session.Fresh event sequence) : session.noteGap encodedBytes input gap = gap := by
  simp [noteGap, queues, drops, brings, enqueueEvent_of_stale stale]

theorem noteGap_of_room (brings : input.message.event? = some event) (fresh : session.Fresh event sequence)
    (room : session.HasRoom encodedBytes input.readings event sequence) :
    session.noteGap encodedBytes input gap = gap.filter fun dropped => dropped.eventId ≠ event.eventId := by
  simp [noteGap, queues, drops, brings, enqueueEvent_of_room fresh room, eq_comm]

theorem noteGap_of_full (brings : input.message.event? = some event) (fresh : session.Fresh event sequence)
    (full : ¬ session.HasRoom encodedBytes input.readings event sequence) :
    session.noteGap encodedBytes input gap
      = gap ++ (session.queue.map Outbound.dropped ++ [{ eventId := event.eventId, sequence }]) := by
  simp [noteGap, queues, drops, brings, enqueueEvent_of_full fresh full, slowConsumerState, fresh.handoffId]

/-- What a message does to the cursor, the flag and the gap. -/
inductive GapStep (encodedBytes : Frame → Nat) (input : Input) (session : Session) (gap : List Dropped) :
    Session → List Dropped → Prop where
  | kept {next : Session} (lastAck : next.lastAck = session.lastAck)
      (flag : next.gapRequired = session.gapRequired) : GapStep encodedBytes input session gap next gap
  | acknowledged {next : Session} {cursor : Int} (acknowledges : session.Acknowledges input cursor)
      (lastAck : next.lastAck = max session.lastAck cursor) (flag : next.gapRequired = session.gapRequired) :
      GapStep encodedBytes input session gap next gap
  | queued {next : Session} {event : Event} {sequence : Int} (brings : input.message.event? = some event)
      (fresh : session.Fresh event sequence) (room : session.HasRoom encodedBytes input.readings event sequence)
      (lastAck : next.lastAck = session.lastAck) (flag : next.gapRequired = session.gapRequired) :
      GapStep encodedBytes input session gap next (gap.filter fun dropped => dropped.eventId ≠ event.eventId)
  | dropped {next : Session} {event : Event} {sequence : Int} (fresh : session.Fresh event sequence)
      (lastAck : next.lastAck = session.lastAck) : GapStep encodedBytes input session gap next
        (gap ++ (session.queue.map Outbound.dropped ++ [{ eventId := event.eventId, sequence }]))

theorem handle_gapStep (gap : List Dropped) (stepped : (handle encodedBytes input session).next? = some next) :
    GapStep encodedBytes input session gap next (session.noteGap encodedBytes input gap) := by
  rcases brings : input.message.event? with _ | event
  · rw [noteGap_of_none brings]
    have step := handle_step stepped
    generalize (handle encodedBytes input session).effects = effects at step
    cases step with
    | kept => exact .kept rfl rfl
    | attached message admits =>
      exact .acknowledged (.attach message admits rfl) (max_eq_right (le_max_right _ _)).symm rfl
    | subscribed => exact .kept rfl rfl
    | acked message nonneg delivered => exact .acknowledged (.ack ⟨message, nonneg, delivered⟩) rfl rfl
    | pushed event | cleared event => cases brings.symm.trans event
    | revoked | detached => exact .kept rfl rfl
  · obtain rfl := Option.some.inj ((handle_of_brings brings).symm.trans stepped)
    by_cases fresh : ∃ sequence, session.Fresh event sequence
    · obtain ⟨sequence, fresh⟩ := fresh
      by_cases room : session.HasRoom encodedBytes input.readings event sequence
      · rw [noteGap_of_room brings fresh room, enqueueEvent_of_room fresh room]
        exact .queued brings fresh room rfl rfl
      · rw [noteGap_of_full brings fresh room, enqueueEvent_of_full fresh room]
        exact .dropped fresh rfl
    · rw [noteGap_of_stale brings (not_exists.1 fresh), enqueueEvent_of_stale (not_exists.1 fresh)]
      exact .kept rfl rfl

/-- A message that does not close the gap leaves a state whose frames ask rightly. -/
theorem GapStep.asksRightly {after : List Dropped} (step : GapStep encodedBytes input session gap next after)
    (asks : session.AsksRightly gap) (leaves : ¬ ClosesGap encodedBytes input session gap) :
    next.AsksRightly after := by
  rw [asksRightly_iff] at asks ⊢
  intro flagged
  cases step with
  | kept lastAck flag =>
    rw [lastAck]
    exact asks (flag ▸ flagged)
  | acknowledged acknowledges lastAck flag =>
    by_contra none
    refine leaves (.covered (flag ▸ flagged) acknowledges fun dropped member beyond => ?_)
    by_contra uncovered
    exact none ⟨dropped, member, by omega⟩
  | queued brings fresh room lastAck flag =>
    by_contra none
    refine leaves (.filled (flag ▸ flagged) brings fresh room fun dropped member beyond => ?_)
    by_contra other
    exact none ⟨dropped, List.mem_filter.2 ⟨member, by simpa using other⟩, lastAck ▸ beyond⟩
  | dropped fresh lastAck =>
    -- The refused event itself is beyond the cursor.
    exact ⟨_, List.mem_append_right _ (List.mem_append_right _ List.mem_cons_self), lastAck ▸ fresh.beyond⟩

theorem Acknowledges.event?_eq_none {cursor : Int} (acknowledges : session.Acknowledges input cursor) :
    input.message.event? = none := by
  cases acknowledges with
  | ack accepts => rw [accepts.message]; rfl
  | attach message => rw [message]; rfl

/-- A message that closes the gap leaves the flag set. -/
theorem ClosesGap.asksInVain (closes : ClosesGap encodedBytes input session gap) :
    ∃ next, (handle encodedBytes input session).next? = some next
      ∧ ¬ next.AsksRightly (session.noteGap encodedBytes input gap) := by
  cases closes with
  | covered flagged acknowledges rest =>
    obtain ⟨reply, next, effects, handled, buffer, flag, _⟩ := acknowledges.handled
    refine ⟨next, by rw [handled]; rfl, fun asks => ?_⟩
    rw [noteGap_of_none acknowledges.event?_eq_none, asksRightly_iff, buffer, Buffer.acknowledge_lastAck] at asks
    obtain ⟨dropped, open_, beyond⟩ := asks (flag.trans flagged)
    have covered := rest dropped open_ (by omega)
    omega
  | filled flagged brings fresh room rest =>
    refine ⟨_, handle_of_brings brings, fun asks => ?_⟩
    rw [noteGap_of_room brings fresh room, enqueueEvent_of_room fresh room, asksRightly_iff] at asks
    obtain ⟨dropped, member, beyond⟩ := asks flagged
    obtain ⟨open_, other⟩ := List.mem_filter.1 member
    simp only [decide_eq_true_eq, ne_eq] at other
    exact other (rest dropped open_ beyond)

theorem builtFrame?_eq_some {readings : Readings} {frame : Frame}
    (built : session.builtFrame? readings event = some frame) :
    ∃ sequence, frame = session.eventFrame readings sequence event := by
  unfold builtFrame? at built
  split at built
  · cases built
  · split_ifs at built
    exact ⟨_, (Option.some.inj built).symm⟩

end

/-- **Resume requests.** For every run of a session: in no state does an event frame ask for a resume in vain
exactly if no message of the run closes the gap. In such a run every frame that is built with
`resumeRequired = true` is built while an event that was dropped, and not queued again since, is beyond the
acknowledgement cursor. -/
theorem resume_required_iff (encodedBytes : Frame → Nat) (config : RuntimeConfig) (sessionId : String)
    (timer : TimerRef) (inputs : List Input) :
    let run := run encodedBytes config sessionId timer
    let gap := gap encodedBytes config sessionId timer
    let neverCloses := ∀ before input session, before ++ [input] <+: inputs → run before = some session →
      ¬ ClosesGap encodedBytes input session (gap before)
    ((∀ before session, before <+: inputs → run before = some session → session.AsksRightly (gap before))
        ↔ neverCloses)
      ∧ (neverCloses → ∀ before input session event frame, before ++ [input] <+: inputs →
          run before = some session → input.message.event? = some event →
          session.builtFrame? input.readings event = some frame → frame.payload.resumeRequired = true →
          ∃ dropped ∈ gap before, session.lastAck < dropped.sequence) := by
  intro run gap neverCloses
  have closing : (∀ before session, before <+: inputs → run before = some session → session.AsksRightly (gap before))
      ↔ neverCloses := by
    have first : (init config sessionId timer).AsksRightly [] := by simp [asksRightly_iff, init]
    -- The gap is kept by an observer of the session, and the exact condition is one on the observed process.
    have observed : Beam.Throughout (Beam.noting (noteGap encodedBytes) (handle encodedBytes))
          (init config sessionId timer, []) (fun state => state.1.AsksRightly state.2) inputs
        ↔ Beam.Along (Beam.noting (noteGap encodedBytes) (handle encodedBytes)) (init config sessionId timer, [])
          (fun input state => ¬ ClosesGap encodedBytes input state.1 state.2) inputs := by
      refine Beam.throughout_iff_along (L := fun _ => True) (I := fun state => state.1.AsksRightly state.2)
        (fun _ _ => trivial) first (fun _ => id) ?_ ?_
      · rintro input ⟨session, earlier⟩ state _ asks leaves stepped
        rw [Beam.noting_next?] at stepped
        obtain ⟨next, moved, rfl⟩ := Option.map_eq_some_iff.1 stepped
        exact (handle_gapStep earlier moved).asksRightly asks leaves
      · rintro input ⟨session, earlier⟩ _ asks closes
        obtain ⟨next, stepped, vain⟩ := (not_not.1 closes).asksInVain
        exact ⟨(next, _), by rw [Beam.noting_next?, stepped]; rfl, vain⟩
    rw [Beam.throughout_noting, Beam.along_noting] at observed
    exact observed
  refine ⟨closing, fun never before input session event frame step ran _ built asks => ?_⟩
  obtain ⟨sequence, rfl⟩ := builtFrame?_eq_some built
  exact closing.2 never before session ((List.prefix_append _ _).trans step) ran _ _ _ asks

/-- Three deliveries overflow the queue; the client attaches again, event 3 is repaired and acknowledged. -/
def repairedGap : List Input :=
  [sampleInput (.attach "device" 7 (some 0))] ++ sampleDeliveries [1, 2, 3]
    ++ [sampleInput (.attach "device" 8 (some 0)), sampleInput (.deliver (sampleEvent 3)), sampleInput (.ack (some 3))]

/-- All dropped events are acknowledged, and yet the frame of event 4 asks for a resume. -/
theorem repaired_client_asked :
    (run (fun _ => 200) smallConfig "session" 0 repairedGap).map (fun session =>
        (session.lastAck, (session.builtFrame? sampleReadings (sampleEvent 4)).map (·.payload.resumeRequired)))
      = some (3, some true)
    ∧ ∀ dropped ∈ gap (fun _ => 200) smallConfig "session" 0 repairedGap, ¬ 3 < dropped.sequence := by
  decide

end Session

end Liqi.Realtime
