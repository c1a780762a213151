import Liqi.Realtime.SessionSteps
import Liqi.Database.Calls

/-!
# Redelivery after a slow consumer

When the queue of a session has no room, `slow_consumer_state` drops all of it and the client is expected to
read the dropped events again. `enqueue_event` refuses an event whose identifier it remembers, and the purge
keeps those identifiers: an event that was dropped is answered `:duplicate` as long as it is remembered.
`redelivers_iff_keeps_queue` is the exact condition on a run under which no event is refused while it is
neither acknowledged nor queued: no message drops a queue that is not empty.
-/

namespace Liqi.Realtime

open Postgres Liqi.Database Liqi.Runtime

/-- The event has the handoff id that the log gave to its identifier. -/
def Event.Logged (handoffIds : Uuid → Int) (event : Event) : Prop :=
  ∀ sequence, event.handoffId = some sequence → handoffIds event.eventId = sequence

def Input.Logged (handoffIds : Uuid → Int) (input : Input) : Prop :=
  ∀ event, input.message.event? = some event → event.Logged handoffIds

namespace Session

variable {encodedBytes : Frame → Nat} {handoffIds : Uuid → Int} {session next : Session} {input : Input}

/-- No event of the log beyond the acknowledgement cursor is answered `:duplicate`, unless it is queued. -/
def Redelivers (encodedBytes : Frame → Nat) (handoffIds : Uuid → Int) (session : Session) : Prop :=
  ∀ (readings : Readings) (event : Event) (sequence : Int), event.Logged handoffIds →
    event.handoffId = some sequence → session.lastAck < sequence →
    event.eventId ∉ session.queue.map Outbound.eventId →
    (session.enqueueEvent encodedBytes readings event).1 ≠ .duplicate

/-- The message brings a fresh event for which the session has no room. -/
def Overflows (encodedBytes : Frame → Nat) (input : Input) (session : Session) : Prop :=
  ∃ event sequence, input.message.event? = some event ∧ session.Fresh event sequence
    ∧ ¬ session.HasRoom encodedBytes input.readings event sequence

/-- A remembered event is queued or acknowledged, and the queue has the handoff ids of the log. -/
structure Remembers (handoffIds : Uuid → Int) (buffer : Buffer) : Prop where
  sequences : ∀ outbound ∈ buffer.queue, handoffIds outbound.eventId = outbound.sequence
  seen : ∀ eventId ∈ buffer.seenEventSet,
    eventId ∈ buffer.queue.map Outbound.eventId ∨ handoffIds eventId ≤ buffer.lastAck

theorem Remembers.redelivers (remembers : Remembers handoffIds session.toBuffer) :
    session.Redelivers encodedBytes handoffIds := by
  intro readings event sequence logged given beyond unqueued
  have unseen : event.eventId ∉ session.seenEventSet := fun seen => by
    have acknowledged := (remembers.seen _ seen).resolve_left unqueued
    rw [logged sequence given] at acknowledged
    omega
  have fresh : session.Fresh event sequence := ⟨given, beyond, unseen⟩
  by_cases room : session.HasRoom encodedBytes readings event sequence
  · rw [enqueueEvent_of_room fresh room]
    simp
  · rw [enqueueEvent_of_full fresh room]
    simp [slowConsumerState]

theorem Remembers.acknowledge {buffer : Buffer} {sequence cursor : Int} (remembers : Remembers handoffIds buffer)
    (advances : buffer.lastAck ≤ cursor) (within : sequence ≤ cursor) :
    Remembers handoffIds (buffer.acknowledge sequence cursor) where
  sequences := fun outbound queued => remembers.sequences outbound (Buffer.acknowledge_suffix.subset queued)
  seen := by
    intro eventId seen
    rcases remembers.seen eventId seen with listed | acknowledged
    · obtain ⟨outbound, queued, rfl⟩ := List.mem_map.1 listed
      rcases Buffer.mem_acknowledge sequence cursor queued with kept | dropped
      · exact .inl (List.mem_map_of_mem kept)
      · refine .inr ?_
        rw [remembers.sequences outbound queued]
        exact dropped.trans within
    · exact .inr (acknowledged.trans advances)

theorem Remembers.push {buffer : Buffer} {outbound : Outbound} (remembers : Remembers handoffIds buffer)
    (logged : handoffIds outbound.eventId = outbound.sequence) : Remembers handoffIds (buffer.push outbound) where
  sequences := by
    intro queued member
    rcases List.mem_append.1 member with old | new
    · exact remembers.sequences queued old
    · rw [List.mem_singleton.1 new, logged]
  seen := by
    intro eventId seen
    rw [Buffer.push_queue, List.map_append, List.mem_append]
    rcases Finset.mem_insert.1 (Buffer.push_seenEventSet seen) with rfl | old
    · exact .inl (.inr (List.mem_singleton.2 rfl))
    · exact (remembers.seen eventId old).imp_left Or.inl

/-- A step keeps the memory, if it drops nothing that was queued. -/
theorem Remembers.step {buffer : Buffer} (remembers : Remembers handoffIds session.toBuffer)
    (step : BufferStep encodedBytes input session buffer) (logged : input.Logged handoffIds)
    (keeps : session.Overflows encodedBytes input → session.queue = []) : Remembers handoffIds buffer := by
  cases step with
  | kept => exact remembers
  | attached => exact remembers.acknowledge (le_max_right _ _) le_rfl
  | acked => exact remembers.acknowledge (le_max_left _ _) (le_max_right _ _)
  | pushed brings fresh room => exact remembers.push (logged _ brings _ fresh.handoffId)
  | cleared brings fresh full =>
    have empty := keeps ⟨_, _, brings, fresh, full⟩
    refine ⟨by simp [Buffer.clear], fun eventId seen => ?_⟩
    have kept := remembers.seen eventId seen
    rw [empty] at kept
    exact kept

/-- A message that drops a queue leaves a session that refuses the front of the dropped queue. -/
theorem not_redelivers_of_overflow (sound : session.Sound) (remembers : Remembers handoffIds session.toBuffer)
    (overflows : session.Overflows encodedBytes input) (queued : session.queue ≠ []) :
    ∃ next, (handle encodedBytes input session).next? = some next ∧ ¬ next.Redelivers encodedBytes handoffIds := by
  obtain ⟨event, sequence, brings, fresh, full⟩ := overflows
  refine ⟨(session.slowConsumerState input.readings sequence).2.1, ?_, fun redelivers => ?_⟩
  · rw [handle_of_brings brings, enqueueEvent_of_full fresh full]
  · obtain ⟨front, rest, queue⟩ := List.exists_cons_of_ne_nil queued
    have entry : front ∈ session.queue := queue ▸ List.mem_cons_self
    have ahead : session.lastAck < front.sequence := sound.front front (by simp [queue])
    have known : front.eventId ∈ session.seenEventSet := by
      rw [sound.members, List.mem_toFinset]
      exact sound.recent.subset (List.mem_map_of_mem entry)
    let dropped : Event := { event with handoffId := some front.sequence, eventId := front.eventId }
    have logged : dropped.Logged handoffIds := by
      rintro _ ⟨⟩
      exact remembers.sequences front entry
    refine redelivers input.readings dropped front.sequence logged rfl ahead List.not_mem_nil ?_
    rw [enqueueEvent_of_stale fun _ again => again.unseen known]

/-- The invariant behind redelivery: a sound buffer with the right memory. -/
structure Redeliverable (handoffIds : Uuid → Int) (session : Session) : Prop where
  sound : session.Sound
  remembers : Remembers handoffIds session.toBuffer

/-- **Redelivery.** For every session and every run whose events have the handoff ids of the log: in every
state of the run an event beyond the acknowledgement cursor that is not queued is accepted again, exactly
if every message of the run for whose event there is no room finds the queue empty. -/
theorem redelivers_iff_keeps_queue (encodedBytes : Frame → Nat) (config : RuntimeConfig) (sessionId : String)
    (timer : TimerRef) (handoffIds : Uuid → Int) (inputs : List Input)
    (logged : ∀ input ∈ inputs, input.Logged handoffIds) :
    Beam.Throughout (handle encodedBytes) (init config sessionId timer)
        (fun session => session.Redelivers encodedBytes handoffIds) inputs
      ↔ Beam.Along (handle encodedBytes) (init config sessionId timer)
        (fun input session => session.Overflows encodedBytes input → session.queue = []) inputs := by
  have first : Redeliverable handoffIds (init config sessionId timer) :=
    ⟨init_sound, by simp [init], by simp [init]⟩
  refine Beam.throughout_iff_along logged first (fun session holds => holds.remembers.redelivers) ?_ ?_
  · intro input session next logged holds keeps stepped
    have step := handle_bufferStep stepped
    exact ⟨step.sound holds.sound, holds.remembers.step step logged keeps⟩
  · intro input session logged holds drops
    obtain ⟨overflows, queued⟩ := Classical.not_imp.1 drops
    exact not_redelivers_of_overflow holds.sound holds.remembers overflows queued

end Session

/-- A session of two entries at most. -/
def smallConfig : RuntimeConfig where
  environment := "test"
  sessionQueueCapacity := 2
  accepted := by decide

def sampleContent : EventContent where
  schemaVersion := 0
  protocolVersion := 1
  eventType := "sample.event"
  eventVersion := 1
  occurredAt := 0
  producer := "liqi-sample"
  correlationId := none
  causationId := none
  aggregateKey := "sample"
  orderingKey := "sample"
  traceContext := .empty
  deadlineAt := none
  priority := .realtime
  payload := .empty
  metadata := .empty

/-- The event with handoff id `n`. -/
def sampleEvent (n : Fin 256) : Event where
  handoffId := some n
  eventId := sampleUuid n
  content := sampleContent

def sampleReadings : Readings where
  eventStamp := { messageId := sampleUuid 0, sentAt := 0 }
  noticeStamp := { messageId := sampleUuid 0, sentAt := 0 }
  expiryClock := 0
  enqueueClock := 0
  issuedAt := 0
  timer := 1

def sampleInput (message : Message) : Input where
  readings := sampleReadings
  message := message

/-- The handoff id of a sample event. -/
def sampleHandoffId (eventId : Uuid) : Int := eventId.bytes.headD 0

def sampleDeliveries (events : List (Fin 256)) : List Input :=
  events.map fun n => sampleInput (.deliver (sampleEvent n))

theorem sampleDeliveries_logged {events : List (Fin 256)} :
    ∀ input ∈ sampleDeliveries events, input.Logged sampleHandoffId := by
  intro input member
  obtain ⟨n, _, rfl⟩ := List.mem_map.1 member
  rintro _ ⟨⟩ _ ⟨⟩
  rfl

/-- The third delivery finds two queued events and drops both; delivered again, the first one is refused. -/
theorem dropped_event_refused :
    (Session.run (fun _ => 200) smallConfig "session" 0 (sampleDeliveries [1, 2, 3])).map (fun session =>
        (session.queue, session.lastAck, (session.enqueueEvent (fun _ => 200) sampleReadings (sampleEvent 1)).1))
      = some ([], 0, .duplicate) := by decide

/-- Two deliveries fit in the queue, so that every event that is not queued is still accepted. -/
theorem redelivers_while_queue_fits :
    (∀ input ∈ sampleDeliveries [1, 2], input.Logged sampleHandoffId)
      ∧ Beam.Throughout (Session.handle fun _ => 200) (Session.init smallConfig "session" 0)
        (fun session => session.Redelivers (fun _ => 200) sampleHandoffId) (sampleDeliveries [1, 2]) := by
  refine ⟨sampleDeliveries_logged, (Session.redelivers_iff_keeps_queue (fun _ => 200) smallConfig "session" 0
    sampleHandoffId (sampleDeliveries [1, 2]) sampleDeliveries_logged).2 ?_⟩
  rintro before input session step ran ⟨event, sequence, brings, fresh, full⟩
  rcases before with _ | ⟨earlier, _ | ⟨another, more⟩⟩
  · cases ran
    rfl
  · obtain ⟨rfl, rest⟩ := List.cons_prefix_cons.1 step
    obtain ⟨rfl, _⟩ := List.cons_prefix_cons.1 rest
    cases ran
    cases brings
    exact absurd ⟨by decide, by decide, by decide, by decide⟩ full
  · exact absurd step.length_le (by simp [sampleDeliveries])

end Liqi.Realtime
