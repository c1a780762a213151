import Liqi.Realtime.Redelivery

/-!
# Acknowledgements and undelivered events

An acknowledgement is cumulative and is accepted up to `latest_seen`. Live events and repaired ones reach a
session in no common order, so that a live event raises `latest_seen` beyond smaller ids that a repair has
not delivered yet; once such an id is acknowledged, its event is refused. `acks_cover_iff_arrived` is the
exact condition under which every awaited event up to the acknowledgement cursor was queued: each accepted
acknowledgement comes after the events that it covers have arrived, at a time when there was room for them.
-/

namespace Liqi.Realtime

open Postgres Liqi.Database Liqi.Runtime

def Message.isAttach : Message → Bool
  | .attach .. => true
  | _ => false

namespace Session

/-- The entries that the messages put in the queue. -/
def enqueued (encodedBytes : Frame → Nat) (start : Session) (inputs : List Input) : List Outbound :=
  Beam.collect (handle encodedBytes) (fun before after => after.queue.drop before.queue.length) start inputs

section Entries

variable {encodedBytes : Frame → Nat} {start session next : Session} {input : Input} {inputs : List Input}
  {outbound : Outbound}

/-- An entry is put in the queue by a message that brings its event, fresh and with room. -/
theorem BufferStep.new_entry {buffer : Buffer} (step : BufferStep encodedBytes input session buffer)
    (new : outbound ∈ buffer.queue.drop session.queue.length) :
    ∃ event sequence, input.message.event? = some event ∧ session.Fresh event sequence
      ∧ session.HasRoom encodedBytes input.readings event sequence
      ∧ outbound = session.outbound encodedBytes input.readings event sequence := by
  have shrunk : ∀ sequence cursor, (session.acknowledge sequence cursor).queue.drop session.queue.length = [] :=
    fun sequence cursor => List.drop_eq_nil_of_le Buffer.acknowledge_suffix.length_le
  cases step with
  | kept => simp at new
  | attached | acked => simp [shrunk] at new
  | pushed brings fresh room =>
    rw [Buffer.push_queue, List.drop_left, List.mem_singleton] at new
    exact ⟨_, _, brings, fresh, room, new⟩
  | cleared => simp [Buffer.clear] at new

/-- An identifier is remembered from before or put in the queue now. -/
theorem BufferStep.seen {buffer : Buffer} {eventId : Uuid} (step : BufferStep encodedBytes input session buffer)
    (seen : eventId ∈ buffer.seenEventSet) : eventId ∈ session.seenEventSet
      ∨ ∃ outbound ∈ buffer.queue.drop session.queue.length, outbound.eventId = eventId := by
  cases step with
  | kept | attached | acked | cleared => exact .inl seen
  | pushed brings fresh room =>
    rcases Finset.mem_insert.1 (Buffer.push_seenEventSet seen) with new | old
    · refine .inr ⟨_, ?_, new.symm⟩
      rw [Buffer.push_queue, List.drop_left, List.mem_singleton]
    · exact .inl old

theorem enqueued_cons (stepped : (handle encodedBytes input session).next? = some next) :
    enqueued encodedBytes session (input :: inputs)
      = next.queue.drop session.queue.length ++ enqueued encodedBytes next inputs := by
  simp [enqueued, Beam.collect, stepped]

theorem enqueued_append (after : List Input) (ran : Beam.run (handle encodedBytes) start inputs = some session) :
    enqueued encodedBytes start (inputs ++ after)
      = enqueued encodedBytes start inputs ++ enqueued encodedBytes session after :=
  Beam.collect_append after ran

theorem enqueued_concat (ran : Beam.run (handle encodedBytes) start inputs = some session)
    (stepped : (handle encodedBytes input session).next? = some next) :
    outbound ∈ enqueued encodedBytes start (inputs ++ [input])
      ↔ outbound ∈ enqueued encodedBytes start inputs ∨ outbound ∈ next.queue.drop session.queue.length := by
  have none : enqueued encodedBytes next [] = [] := rfl
  rw [enqueued_append [input] ran, enqueued_cons stepped, none, List.append_nil, List.mem_append]

end Entries

section Run

variable (encodedBytes : Frame → Nat) (config : RuntimeConfig) (sessionId : String) (timer : TimerRef)

/-- The event was put in the queue at a step of the run. -/
def Queued (inputs : List Input) (event : Event) : Prop :=
  event.eventId ∈ (enqueued encodedBytes (init config sessionId timer) inputs).map Outbound.eventId

/-- The event reached the session at a step of the run, when there was room for it. -/
def Arrived (inputs : List Input) (event : Event) (sequence : Int) : Prop :=
  ∃ before input session, before ++ [input] <+: inputs ∧ run encodedBytes config sessionId timer before = some session
    ∧ input.message.event? = some event ∧ session.HasRoom encodedBytes input.readings event sequence

/-- The key was subscribed before the first `attach` of the run, and since. -/
def SubscribedFirst (inputs : List Input) (actorKey : String) : Prop :=
  ∃ first rest, inputs = first ++ rest ∧ (∀ input ∈ first, input.message.isAttach = false) ∧
    ∀ later session, later <+: rest → run encodedBytes config sessionId timer (first ++ later) = some session →
      actorKey ∈ session.subscriptions

/-- The event is of a key subscribed before the first `attach` and beyond every resume cursor of the run. -/
structure Awaited (inputs : List Input) (event : Event) (sequence : Int) : Prop where
  handoffId : event.handoffId = some sequence
  subscribed : SubscribedFirst encodedBytes config sessionId timer inputs event.content.aggregateKey
  beyond : ∀ input ∈ inputs, ∀ deviceId connection cursor,
    input.message = .attach deviceId connection cursor → cursor.getD 0 < sequence

variable {encodedBytes config sessionId timer} {inputs before : List Input} {input : Input} {session : Session}
  {event : Event} {sequence : Int}

theorem Queued.mono (queued : Queued encodedBytes config sessionId timer before event) (earlier : before <+: inputs) :
    Queued encodedBytes config sessionId timer inputs event := by
  obtain ⟨outbound, collected, same⟩ := List.mem_map.1 queued
  obtain ⟨first, message, state, next, step, ran, stepped, new⟩ := Beam.mem_collect.1 collected
  exact List.mem_map.2 ⟨outbound, Beam.mem_collect.2
    ⟨first, message, state, next, step.trans earlier, ran, stepped, new⟩, same⟩

/-- A remembered identifier was put in the queue. -/
theorem queued_of_seen (ran : run encodedBytes config sessionId timer inputs = some session)
    (seen : event.eventId ∈ session.seenEventSet) : Queued encodedBytes config sessionId timer inputs event := by
  induction inputs using List.reverseRecOn generalizing session with
  | nil =>
    cases ran
    simp [init] at seen
  | append_singleton inputs input ih =>
    obtain ⟨before, ran, stepped⟩ := Beam.run_concat_eq_some.1 ran
    rcases (handle_bufferStep stepped).seen seen with old | ⟨outbound, new, same⟩
    · exact (ih ran old).mono (List.prefix_append _ _)
    · exact List.mem_map.2 ⟨outbound, (enqueued_concat ran stepped).2 (.inr new), same⟩

/-- An event that reaches a session with room is queued then, unless it was queued or acknowledged before. -/
theorem queued_of_arrival (ran : run encodedBytes config sessionId timer before = some session)
    (brings : input.message.event? = some event) (given : event.handoffId = some sequence)
    (room : session.HasRoom encodedBytes input.readings event sequence) :
    session.lastAck < sequence → Queued encodedBytes config sessionId timer (before ++ [input]) event := by
  intro beyond
  by_cases seen : event.eventId ∈ session.seenEventSet
  · exact (queued_of_seen ran seen).mono (List.prefix_append _ _)
  · have accepted := enqueueEvent_of_room ⟨given, beyond, seen⟩ room
    refine List.mem_map.2 ⟨session.outbound encodedBytes input.readings event sequence, ?_, rfl⟩
    refine (enqueued_concat ran (handle_of_brings brings)).2 (.inr ?_)
    rw [accepted, Buffer.push_queue, List.drop_left, List.mem_singleton]

/-- An event is queued by a message that brings it, or another event of the same identifier. -/
theorem Queued.arrival (queued : Queued encodedBytes config sessionId timer inputs event) :
    ∃ before input session arrived sequence, before ++ [input] <+: inputs
      ∧ run encodedBytes config sessionId timer before = some session ∧ input.message.event? = some arrived
      ∧ session.Fresh arrived sequence ∧ session.HasRoom encodedBytes input.readings arrived sequence
      ∧ arrived.eventId = event.eventId := by
  obtain ⟨outbound, collected, same⟩ := List.mem_map.1 queued
  obtain ⟨before, input, session, next, step, ran, stepped, new⟩ := Beam.mem_collect.1 collected
  obtain ⟨arrived, sequence, brings, fresh, room, rfl⟩ := (handle_bufferStep stepped).new_entry new
  exact ⟨before, input, session, arrived, sequence, step, ran, brings, fresh, room, same⟩

/-- The session accepts an acknowledgement of `acknowledged` at this step. -/
structure AcceptsAck (input : Input) (session : Session) (acknowledged : Int) : Prop where
  message : input.message = .ack (some acknowledged)
  nonneg : 0 ≤ acknowledged
  delivered : acknowledged ≤ session.latestSeen

/-- Every awaited event that an accepted acknowledgement covers arrived before it. -/
def AcksCovered (encodedBytes : Frame → Nat) (config : RuntimeConfig) (sessionId : String) (timer : TimerRef)
    (inputs : List Input) (event : Event) (sequence : Int) : Prop :=
  ∀ before input session acknowledged, before ++ [input] <+: inputs →
    run encodedBytes config sessionId timer before = some session → AcceptsAck input session acknowledged →
    sequence ≤ acknowledged → Arrived encodedBytes config sessionId timer before event sequence

/-- Up to the acknowledgement cursor the event was queued in every state of the run. -/
def NeverSkipped (encodedBytes : Frame → Nat) (config : RuntimeConfig) (sessionId : String) (timer : TimerRef)
    (inputs : List Input) (event : Event) (sequence : Int) : Prop :=
  ∀ before session, before <+: inputs → run encodedBytes config sessionId timer before = some session →
    sequence ≤ session.lastAck → Queued encodedBytes config sessionId timer before event

/-- The cursor moves up to an event either by a resume cursor or by an accepted acknowledgement. -/
theorem BufferStep.passes {buffer : Buffer} (step : BufferStep encodedBytes input session buffer)
    (before : session.lastAck < sequence) (after : sequence ≤ buffer.lastAck) :
    (∃ deviceId connection cursor, input.message = .attach deviceId connection cursor ∧ sequence ≤ cursor.getD 0)
      ∨ ∃ acknowledged, AcceptsAck input session acknowledged ∧ sequence ≤ acknowledged := by
  cases step with
  | kept => omega
  | attached message =>
    rw [Buffer.acknowledge_lastAck] at after
    exact .inl ⟨_, _, _, message, by omega⟩
  | acked message nonneg delivered =>
    rw [Buffer.acknowledge_lastAck] at after
    exact .inr ⟨_, ⟨message, nonneg, delivered⟩, by omega⟩
  | pushed =>
    rw [Buffer.push_lastAck] at after
    omega
  | cleared =>
    dsimp only [Buffer.clear] at after
    omega

theorem neverSkipped_of_covered (awaited : Awaited encodedBytes config sessionId timer inputs event sequence)
    (positive : 0 < sequence) (covered : AcksCovered encodedBytes config sessionId timer inputs event sequence) :
    NeverSkipped encodedBytes config sessionId timer inputs event sequence := by
  intro before
  -- Strong induction on the prefix: the arrival before an acknowledgement is an earlier step of the run.
  induction length : before.length using Nat.strong_induction_on generalizing before with
  | _ n ih =>
    intro session start ran passed
    rcases List.eq_nil_or_concat before with rfl | ⟨earlier, input, rfl⟩
    · cases ran
      exact absurd passed (by simp [init]; omega)
    rw [List.concat_eq_append] at start ran length ⊢
    obtain ⟨previous, ran, stepped⟩ := Beam.run_concat_eq_some.1 ran
    have shorter : earlier.length < n := by
      rw [← length, List.length_append, List.length_singleton]
      omega
    have within : earlier <+: inputs := (List.prefix_append _ _).trans start
    by_cases old : sequence ≤ previous.lastAck
    · exact (ih _ shorter earlier rfl previous within ran old).mono (List.prefix_append _ _)
    rcases (handle_bufferStep stepped).passes (by omega) passed with ⟨deviceId, connection, cursor, message, resumed⟩ |
      ⟨acknowledged, accepts, covers⟩
    · have beyond := awaited.beyond input (start.subset (by simp)) deviceId connection cursor message
      omega
    · obtain ⟨first, arrival, state, step, reached, brings, room⟩ := covered earlier input previous acknowledged start ran
        accepts covers
      have queued : Queued encodedBytes config sessionId timer (first ++ [arrival]) event := by
        by_cases behind : sequence ≤ state.lastAck
        · have soon : first.length < n := by
            have := step.length_le
            rw [List.length_append, List.length_singleton] at this
            omega
          have sooner : first <+: inputs := ((List.prefix_append first [arrival]).trans step).trans within
          exact (ih _ soon first rfl state sooner reached behind).mono (List.prefix_append _ _)
        · exact queued_of_arrival reached brings awaited.handoffId room (by omega)
      exact queued.mono (step.trans (List.prefix_append _ _))

/-- What the handoff log promises of its events: positive ids, and one event for an identifier. -/
structure Committed (committed : Set Event) : Prop where
  positive : ∀ event ∈ committed, ∃ sequence, event.handoffId = some sequence ∧ 0 < sequence
  distinct : ∀ event ∈ committed, ∀ other ∈ committed, event.eventId = other.eventId → event = other

theorem covered_of_neverSkipped {committed : Set Event} (log : Committed committed)
    (fromLog : ∀ input ∈ inputs, ∀ event, input.message.event? = some event → event ∈ committed)
    (logged : event ∈ committed) (awaited : Awaited encodedBytes config sessionId timer inputs event sequence)
    (skips : NeverSkipped encodedBytes config sessionId timer inputs event sequence) :
    AcksCovered encodedBytes config sessionId timer inputs event sequence := by
  intro before input session acknowledged step ran accepts covers
  have stepped : (handle encodedBytes input session).next?
      = some { session with toBuffer := session.acknowledge acknowledged (max session.lastAck acknowledged) } := by
    have nonneg : ¬ acknowledged < 0 := by have := accepts.nonneg; omega
    have delivered : ¬ session.latestSeen < acknowledged := by have := accepts.delivered; omega
    simp only [handle, accepts.message, ack, nonneg, delivered, if_false]
    rfl
  have reached := Beam.run_concat_eq_some.2 ⟨session, ran, stepped⟩
  have queued := skips (before ++ [input]) _ step reached (by rw [Buffer.acknowledge_lastAck]; omega)
  obtain ⟨outbound, collected, same⟩ := List.mem_map.1 queued
  -- The acknowledgement itself puts nothing in the queue.
  rcases (enqueued_concat ran stepped).1 collected with old | new
  · have earlier : Queued encodedBytes config sessionId timer before event := List.mem_map.2 ⟨outbound, old, same⟩
    obtain ⟨first, arrival, state, arrived, id, step', reached, brings, fresh, room, identifier⟩ := earlier.arrival
    have within : arrival ∈ inputs := step.subset (List.mem_append_left _ (step'.subset (by simp)))
    have event_eq := log.distinct arrived (fromLog arrival within arrived brings) event logged identifier
    subst event_eq
    obtain rfl : id = sequence := Option.some.inj (fresh.handoffId.symm.trans awaited.handoffId)
    exact ⟨first, arrival, state, step', reached, brings, room⟩
  · obtain ⟨_, _, brings, _⟩ := (handle_bufferStep stepped).new_entry new
    rw [accepts.message] at brings
    cases brings

end Run

/-- **Acknowledgements skip nothing.** For every session, every log and every run whose events are of the log,
in any order: in every state of the run each awaited event up to the acknowledgement cursor was put in the
queue, exactly if each acknowledgement that the session accepts comes after every awaited event that it
covers has arrived when there was room for it. -/
theorem acks_cover_iff_arrived (encodedBytes : Frame → Nat) (config : RuntimeConfig) (sessionId : String)
    (timer : TimerRef) (committed : Set Event) (log : Committed committed) (inputs : List Input)
    (fromLog : ∀ input ∈ inputs, ∀ event, input.message.event? = some event → event ∈ committed) :
    (∀ event ∈ committed, ∀ sequence, Awaited encodedBytes config sessionId timer inputs event sequence →
        NeverSkipped encodedBytes config sessionId timer inputs event sequence)
      ↔ ∀ event ∈ committed, ∀ sequence, Awaited encodedBytes config sessionId timer inputs event sequence →
        AcksCovered encodedBytes config sessionId timer inputs event sequence := by
  constructor
  · intro skips event logged sequence awaited
    exact covered_of_neverSkipped log fromLog logged awaited (skips event logged sequence awaited)
  · intro covered event logged sequence awaited
    obtain ⟨id, given, positive⟩ := log.positive event logged
    obtain rfl : id = sequence := Option.some.inj (given.symm.trans awaited.handoffId)
    exact neverSkipped_of_covered awaited positive (covered event logged _ awaited)

end Session

/-- Every event of a run that starts with the join and neither attaches again nor revokes is awaited. -/
theorem sample_awaited {inputs : List Input} {n : Fin 256} (positive : (0 : Int) < n)
    (subscribed : ∀ later ∈ inputs.inits, (Session.run (fun _ => 200) smallConfig "session" 0
      ([sampleInput (.subscribe (some "sample"))] ++ later)).all fun session => "sample" ∈ session.subscriptions)
    (cursors : ∀ input ∈ inputs, input.message = .attach "device" 7 (some 0) ∨ input.message.isAttach = false) :
    Session.Awaited (fun _ => 200) smallConfig "session" 0
      ([sampleInput (.subscribe (some "sample"))] ++ inputs) (sampleEvent n) n where
  handoffId := rfl
  subscribed := by
    refine ⟨_, inputs, rfl, by simp [sampleInput, Message.isAttach], fun later session start ran => ?_⟩
    have held := subscribed later ((List.mem_inits later inputs).2 start)
    rw [ran] at held
    simpa [sampleEvent, sampleContent] using held
  beyond := by
    intro input member deviceId connection cursor message
    rcases List.mem_append.1 member with first | later
    · rw [List.mem_singleton.1 first] at message
      cases message
    · rcases cursors input later with same | none
      · rw [same] at message
        cases message
        exact positive
      · rw [message] at none
        cases none

/-- Event 2 arrives live and is acknowledged before the repair from cursor 0 delivers events 1 and 2. -/
def overtakingAck : List Input :=
  [sampleInput (.attach "device" 7 (some 0)), sampleInput (.committedEvent (sampleEvent 2)),
    sampleInput (.ack (some 2)), sampleInput (.deliver (sampleEvent 1)), sampleInput (.deliver (sampleEvent 2))]

/-- Event 1 is awaited and behind the acknowledgement cursor, but was never put in the queue. -/
theorem overtaken_event_skipped :
    let inputs := [sampleInput (.subscribe (some "sample"))] ++ overtakingAck
    Session.Awaited (fun _ => 200) smallConfig "session" 0 inputs (sampleEvent 1) 1
      ∧ (Session.run (fun _ => 200) smallConfig "session" 0 inputs).map (fun session => session.lastAck) = some 2
      ∧ ¬ Session.Queued (fun _ => 200) smallConfig "session" 0 inputs (sampleEvent 1) := by
  refine ⟨sample_awaited (by decide) (by decide) (by decide), by decide, ?_⟩
  unfold Session.Queued
  decide

/-- Event 1 is delivered and then acknowledged. -/
def orderlyAck : List Input :=
  [sampleInput (.attach "device" 7 (some 0)), sampleInput (.deliver (sampleEvent 1)), sampleInput (.ack (some 1))]

theorem sample_committed : Session.Committed {sampleEvent 1} where
  positive := by
    rintro _ rfl
    exact ⟨1, rfl, by decide⟩
  distinct := by
    rintro _ rfl _ rfl _
    rfl

/-- In a run with one event, delivered before it is acknowledged, no awaited event is skipped. -/
theorem acks_cover_delivered_event :
    let inputs := [sampleInput (.subscribe (some "sample"))] ++ orderlyAck
    Session.Awaited (fun _ => 200) smallConfig "session" 0 inputs (sampleEvent 1) 1
      ∧ ∀ event ∈ ({sampleEvent 1} : Set Event), ∀ sequence,
        Session.Awaited (fun _ => 200) smallConfig "session" 0 inputs event sequence →
          Session.NeverSkipped (fun _ => 200) smallConfig "session" 0 inputs event sequence := by
  refine ⟨sample_awaited (by decide) (by decide) (by decide),
    (Session.acks_cover_iff_arrived (fun _ => 200) smallConfig "session" 0 {sampleEvent 1} sample_committed _ ?_).2 ?_⟩
  · intro input member event brings
    simp only [orderlyAck, List.singleton_append, List.mem_cons, List.not_mem_nil, or_false] at member
    rcases member with rfl | rfl | rfl | rfl <;> cases brings
    rfl
  · rintro _ rfl sequence awaited before input session acknowledged step ran accepts covers
    obtain rfl : 1 = sequence := Option.some.inj awaited.handoffId
    -- The only acknowledgement is the fourth message, and the event arrives at the third.
    have delivered : [sampleInput (.subscribe (some "sample")), sampleInput (.attach "device" 7 (some 0))]
        ++ [sampleInput (.deliver (sampleEvent 1))] <+: before := by
      rcases before with _ | ⟨first, _ | ⟨second, _ | ⟨third, more⟩⟩⟩
      all_goals simp only [orderlyAck, List.cons_append, List.nil_append, List.cons_prefix_cons] at step
      · cases step.1 ▸ accepts.message
      · cases step.2.1 ▸ accepts.message
      · cases step.2.2.1 ▸ accepts.message
      · obtain ⟨rfl, rfl, rfl, _⟩ := step
        simp
    exact ⟨_, _, _, delivered, rfl, rfl, ⟨by decide, by decide, by decide, by decide⟩⟩

end Liqi.Realtime
