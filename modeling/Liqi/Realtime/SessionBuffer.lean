import Mathlib.Data.List.TakeWhile
import Liqi.Beam.Recent
import Liqi.Realtime.SessionActor

/-!
# The buffer of a session

`Sound` ties the counters, the acknowledgement cursor and the remembered identifiers to the queue; acknowledging,
pushing and clearing keep it. An event is stale, finds room, or finds none: `enqueueEvent_of_stale`,
`enqueueEvent_of_room` and `enqueueEvent_of_full` say what it does then.
-/

namespace Liqi.Realtime

open Postgres Liqi.Database Liqi.Runtime

section DropAcknowledged

variable (queue : List Outbound) (sequence : Int) (removed : Removed)

theorem dropAcknowledged_queue :
    (dropAcknowledged queue sequence removed).1 = queue.dropWhile fun outbound => outbound.sequence ≤ sequence := by
  induction queue generalizing removed with
  | nil => rfl
  | cons outbound rest ih =>
    by_cases acknowledged : outbound.sequence ≤ sequence
    · simp [dropAcknowledged, acknowledged, ih]
    · simp [dropAcknowledged, acknowledged]

theorem dropAcknowledged_count : (dropAcknowledged queue sequence removed).2.count
    + (dropAcknowledged queue sequence removed).1.length = removed.count + queue.length := by
  induction queue generalizing removed with
  | nil => rfl
  | cons outbound rest ih =>
    unfold dropAcknowledged
    split
    · rw [ih, List.length_cons]
      dsimp only
      omega
    · rfl

theorem dropAcknowledged_bytes : (dropAcknowledged queue sequence removed).2.bytes
    + ((dropAcknowledged queue sequence removed).1.map Outbound.bytes).sum
      = removed.bytes + (queue.map Outbound.bytes).sum := by
  induction queue generalizing removed with
  | nil => rfl
  | cons outbound rest ih =>
    unfold dropAcknowledged
    split
    · rw [ih, List.map_cons, List.sum_cons]
      dsimp only
      omega
    · rfl

end DropAcknowledged

namespace Buffer

/-- The counters count the queue, the cursor is before its front, and the identifiers of its entries are the
last ones remembered. -/
structure Sound (buffer : Buffer) : Prop where
  size : buffer.queueSize = buffer.queue.length
  bytes : buffer.queueBytes = (buffer.queue.map Outbound.bytes).sum
  room : buffer.queueSize ≤ buffer.config.sessionQueueCapacity
  cursor : 0 ≤ buffer.lastAck
  front : ∀ first ∈ buffer.queue.head?, buffer.lastAck < first.sequence
  recent : buffer.queue.map Outbound.eventId <:+ buffer.seenEventIds
  distinct : buffer.seenEventIds.Nodup
  members : buffer.seenEventSet = buffer.seenEventIds.toFinset
  bounded : (buffer.seenEventIds.length : Int) ≤ buffer.config.sessionQueueCapacity * 2

variable {buffer : Buffer} {outbound : Outbound} {sequence cursor : Int}

@[simp] theorem acknowledge_config : (buffer.acknowledge sequence cursor).config = buffer.config := rfl

@[simp] theorem acknowledge_lastAck : (buffer.acknowledge sequence cursor).lastAck = cursor := rfl

theorem acknowledge_queue : (buffer.acknowledge sequence cursor).queue
    = buffer.queue.dropWhile fun outbound => outbound.sequence ≤ sequence := dropAcknowledged_queue ..

theorem acknowledge_suffix : (buffer.acknowledge sequence cursor).queue <:+ buffer.queue := by
  rw [acknowledge_queue]
  exact List.dropWhile_suffix _

/-- An entry leaves the queue only if it is acknowledged. -/
theorem mem_acknowledge (sequence cursor : Int) (queued : outbound ∈ buffer.queue) :
    outbound ∈ (buffer.acknowledge sequence cursor).queue ∨ outbound.sequence ≤ sequence := by
  rw [acknowledge_queue]
  rw [← List.takeWhile_append_dropWhile (p := fun outbound => outbound.sequence ≤ sequence) (l := buffer.queue)]
    at queued
  rcases List.mem_append.1 queued with taken | kept
  · exact .inr (by simpa using List.mem_takeWhile_imp taken)
  · exact .inl kept

/-- The front after an acknowledgement is beyond what was acknowledged. -/
theorem Sound.acknowledged_front (sound : buffer.Sound) (covered : cursor ≤ max buffer.lastAck sequence)
    {first : Outbound} (front : first ∈ (buffer.acknowledge sequence cursor).queue.head?) : cursor < first.sequence := by
  rw [acknowledge_queue] at front
  have unacknowledged : sequence < first.sequence := by
    have := List.head?_dropWhile_not (fun outbound : Outbound => decide (outbound.sequence ≤ sequence)) buffer.queue
    rw [Option.mem_def.1 front] at this
    simpa using this
  -- A smaller acknowledgement than the cursor drops nothing: the front is beyond the cursor already.
  by_cases within : cursor ≤ sequence
  · omega
  · have behind : sequence < buffer.lastAck := by omega
    rcases emptied : buffer.queue with _ | ⟨head, rest⟩
    · simp [emptied] at front
    · have beyond := sound.front head (by simp [emptied])
      have kept : ¬ head.sequence ≤ sequence := by omega
      simp only [emptied, List.dropWhile_cons, kept, decide_false, Bool.false_eq_true, if_false, List.head?_cons,
        Option.mem_def, Option.some.injEq] at front
      rw [← front]
      omega

theorem Sound.acknowledge (sound : buffer.Sound) (advances : buffer.lastAck ≤ cursor)
    (covered : cursor ≤ max buffer.lastAck sequence) : (buffer.acknowledge sequence cursor).Sound where
  size := by
    have counted := dropAcknowledged_count buffer.queue sequence { count := 0, bytes := 0 }
    have size := sound.size
    dsimp only [Buffer.acknowledge] at counted ⊢
    omega
  bytes := by
    have counted := dropAcknowledged_bytes buffer.queue sequence { count := 0, bytes := 0 }
    have bytes := sound.bytes
    dsimp only [Buffer.acknowledge] at counted ⊢
    omega
  room := by
    have room := sound.room
    dsimp only [Buffer.acknowledge]
    omega
  cursor := sound.cursor.trans advances
  front := fun _ front => sound.acknowledged_front covered front
  recent := (acknowledge_suffix.map Outbound.eventId).trans sound.recent
  distinct := sound.distinct
  members := sound.members
  bounded := sound.bounded

section Push

@[simp] theorem push_config : (buffer.push outbound).config = buffer.config := rfl

@[simp] theorem push_queue : (buffer.push outbound).queue = buffer.queue ++ [outbound] := rfl

@[simp] theorem push_lastAck : (buffer.push outbound).lastAck = buffer.lastAck := rfl

@[simp] theorem push_latestSeen :
    (buffer.push outbound).latestSeen = max buffer.latestSeen outbound.sequence := rfl

theorem push_seenEventSet : (buffer.push outbound).seenEventSet ⊆ insert outbound.eventId buffer.seenEventSet := by
  simp only [Buffer.push, Buffer.rememberEvent]
  split
  · split
    · exact Finset.erase_subset _ _
    · exact Finset.Subset.refl _
  · exact Finset.Subset.refl _

/-- The two memories of `remember_event` are one bounded memory and its elements. -/
theorem Sound.rememberEvent (sound : buffer.Sound) {eventId : Uuid} (fresh : eventId ∉ buffer.seenEventSet) :
    let seen := Beam.remember (buffer.config.sessionQueueCapacity * 2).toNat buffer.seenEventIds eventId
    buffer.rememberEvent eventId = (seen, seen.toFinset) := by
  have capacity := buffer.config.queueCapacity
  have unseen : eventId ∉ buffer.seenEventIds := by simpa [sound.members] using fresh
  have distinct : (buffer.seenEventIds ++ [eventId]).Nodup :=
    List.Nodup.append sound.distinct (List.nodup_singleton eventId) (by simpa using unseen)
  have set : insert eventId buffer.seenEventSet = (buffer.seenEventIds ++ [eventId]).toFinset := by
    ext id
    simp [sound.members]
  have full : buffer.config.sessionQueueCapacity * 2 < ((buffer.seenEventIds ++ [eventId]).length : Nat)
      ↔ (buffer.config.sessionQueueCapacity * 2).toNat < buffer.seenEventIds.length + 1 := by
    rw [List.length_append, List.length_singleton]
    omega
  unfold Buffer.rememberEvent Beam.remember
  simp only [set, full]
  split
  · rcases remembered : buffer.seenEventIds ++ [eventId] with _ | ⟨oldest, rest⟩
    · rfl
    · rw [remembered] at distinct
      simp [(List.nodup_cons.1 distinct).1]
  · rfl

end Push

theorem Sound.push (sound : buffer.Sound) (beyond : buffer.lastAck < outbound.sequence)
    (fresh : outbound.eventId ∉ buffer.seenEventSet)
    (room : buffer.queueSize < buffer.config.sessionQueueCapacity) : (buffer.push outbound).Sound := by
  have remembered := sound.rememberEvent fresh
  have unseen : outbound.eventId ∉ buffer.seenEventIds := by simpa [sound.members] using fresh
  have size := sound.size
  have bounded := sound.bounded
  have ids : (buffer.push outbound).seenEventIds
      = Beam.remember (buffer.config.sessionQueueCapacity * 2).toNat buffer.seenEventIds outbound.eventId := by
    simp only [Buffer.push, remembered]
  exact {
    size := by
      simp only [Buffer.push, List.length_append, List.length_singleton]
      omega
    bytes := by simp [Buffer.push, sound.bytes]
    room := by
      simp only [Buffer.push]
      omega
    cursor := sound.cursor
    front := by
      intro first front
      rcases queued : buffer.queue with _ | ⟨head, rest⟩
      · simp only [push_queue, queued, List.nil_append, List.head?_cons, Option.mem_def, Option.some.injEq] at front
        exact front ▸ beyond
      · simp only [push_queue, queued, List.cons_append, List.head?_cons, Option.mem_def, Option.some.injEq] at front
        exact sound.front first (by simp [queued, front])
    recent := by
      rw [ids, push_queue, List.map_append]
      refine Beam.suffix_remember sound.recent ?_
      rw [List.length_map]
      omega
    distinct := ids ▸ Beam.nodup_remember sound.distinct unseen
    members := by simp only [Buffer.push, remembered]
    bounded := by
      rw [ids]
      have short : (Beam.remember (buffer.config.sessionQueueCapacity * 2).toNat buffer.seenEventIds
          outbound.eventId).length ≤ (buffer.config.sessionQueueCapacity * 2).toNat :=
        Beam.length_remember (by omega)
      dsimp only [Buffer.push]
      omega }

theorem Sound.clear (sound : buffer.Sound) : (buffer.clear sequence).Sound where
  size := rfl
  bytes := rfl
  room := by
    have capacity := buffer.config.queueCapacity
    dsimp only [Buffer.clear]
    omega
  cursor := sound.cursor
  front := by simp [Buffer.clear]
  recent := List.nil_suffix
  distinct := sound.distinct
  members := sound.members
  bounded := sound.bounded

end Buffer

/-- The event that a message brings. -/
def Message.event? : Message → Option Event
  | .deliver event => some event
  | .committedEvent event => some event
  | _ => none

namespace Session

variable (encodedBytes : Frame → Nat)

/-- An event that is not answered `:duplicate`. -/
structure Fresh (session : Session) (event : Event) (sequence : Int) : Prop where
  handoffId : event.handoffId = some sequence
  beyond : session.lastAck < sequence
  unseen : event.eventId ∉ session.seenEventSet

/-- The queue is not expired and has room for the frame of the event. -/
structure HasRoom (session : Session) (readings : Readings) (event : Event) (sequence : Int) : Prop where
  current : session.queueExpired readings.expiryClock = false
  capacity : session.queueSize < session.config.sessionQueueCapacity
  message : (encodedBytes (session.eventFrame readings sequence event) : Int) ≤ session.config.maxRealtimeMessageBytes
  bytes : session.queueBytes + encodedBytes (session.eventFrame readings sequence event)
    ≤ session.config.sessionQueueMaxBytes

/-- The queue entry of an event. -/
def outbound (session : Session) (readings : Readings) (event : Event) (sequence : Int) : Outbound where
  sequence := sequence
  eventId := event.eventId
  bytes := encodedBytes (session.eventFrame readings sequence event)
  enqueuedAt := readings.enqueueClock
  frame := session.eventFrame readings sequence event

variable {encodedBytes} {session next : Session} {readings : Readings} {event : Event} {sequence : Int} {input : Input}

theorem enqueueEvent_of_stale (stale : ∀ sequence, ¬ session.Fresh event sequence) :
    session.enqueueEvent encodedBytes readings event = (.duplicate, session, []) := by
  unfold enqueueEvent
  split
  · rfl
  next sequence given =>
    split_ifs with acknowledged seen
    · rfl
    · rfl
    all_goals exact absurd ⟨given, by omega, seen⟩ (stale sequence)

theorem enqueueEvent_of_room (fresh : session.Fresh event sequence)
    (room : session.HasRoom encodedBytes readings event sequence) :
    session.enqueueEvent encodedBytes readings event
      = (.ok, { session with toBuffer := session.push (session.outbound encodedBytes readings event sequence) },
          session.toConnection [session.eventFrame readings sequence event]) := by
  have beyond : ¬ sequence ≤ session.lastAck := by have := fresh.beyond; omega
  have capacity : ¬ session.config.sessionQueueCapacity ≤ session.queueSize := by have := room.capacity; omega
  have fits : ¬ (session.config.maxRealtimeMessageBytes < encodedBytes (session.eventFrame readings sequence event)
      ∨ session.config.sessionQueueMaxBytes
        < session.queueBytes + encodedBytes (session.eventFrame readings sequence event)) := by
    have message := room.message
    have bytes := room.bytes
    omega
  simp only [enqueueEvent, fresh.handoffId, beyond, fresh.unseen, room.current, capacity, fits, if_false,
    Bool.false_eq_true]
  rfl

theorem enqueueEvent_of_full (fresh : session.Fresh event sequence)
    (full : ¬ session.HasRoom encodedBytes readings event sequence) :
    session.enqueueEvent encodedBytes readings event = session.slowConsumerState readings sequence := by
  have beyond : ¬ sequence ≤ session.lastAck := by have := fresh.beyond; omega
  simp only [enqueueEvent, fresh.handoffId, beyond, fresh.unseen, if_false]
  split_ifs with expired crowded large
  · rfl
  · rfl
  · rfl
  · exact absurd ⟨by simpa using expired, by omega, by omega, by omega⟩ full

theorem handle_of_brings (brings : input.message.event? = some event) :
    (handle encodedBytes input session).next? = some (session.enqueueEvent encodedBytes input.readings event).2.1 := by
  rcases input with ⟨readings, message⟩
  cases message <;> cases brings <;> rfl

end Session

end Liqi.Realtime
