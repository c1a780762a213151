import Liqi.Realtime.Acknowledgement

/-!
# Revocation

`revoke` drops the subscriptions and the connection and sets a flag that only `attach` reads. A later
`subscribe` is accepted as before, and an event that still arrives is put in the queue.
`revocation_permanent_iff` is the exact condition under which a revoked session stays without subscriptions
and buffers nothing: no such message comes.
-/

namespace Liqi.Realtime

open Postgres Liqi.Database Liqi.Runtime Beam

/-! ## The topics of a session -/

/-- The topics to which a process is subscribed after an effect. -/
def Effect.topics (effect : Effect) (topics : Finset String) : Finset String :=
  match effect with
  | .subscribe topic => insert topic topics
  | .unsubscribe topic => topics.erase topic
  | _ => topics

def topicsAfter (topics : Finset String) (effects : List Effect) : Finset String :=
  effects.foldl (fun topics effect => effect.topics topics) topics

theorem topicsAfter_append (topics : Finset String) (before after : List Effect) :
    topicsAfter topics (before ++ after) = topicsAfter (topicsAfter topics before) after :=
  List.foldl_append

theorem topicsAfter_of_silent {topics : Finset String} {effects : List Effect}
    (silent : ∀ effect ∈ effects, effect.topics = id) : topicsAfter topics effects = topics := by
  induction effects with
  | nil => rfl
  | cons effect effects ih =>
    rw [topicsAfter, List.foldl_cons, silent effect List.mem_cons_self]
    exact ih fun other member => silent other (List.mem_cons_of_mem effect member)

theorem topicsAfter_unsubscribe (topics : Finset String) (keys : List String) :
    topicsAfter topics (keys.map (Effect.unsubscribe ∘ topic)) = topics \ (keys.map topic).toFinset := by
  induction keys generalizing topics with
  | nil => simp [topicsAfter]
  | cons key keys ih =>
    have rest := ih (topics.erase (topic key))
    rw [topicsAfter] at rest ⊢
    rw [List.map_cons, List.foldl_cons]
    refine Eq.trans rest ?_
    ext other
    simp only [Finset.mem_sdiff, Finset.mem_erase, List.map_cons, List.toFinset_cons, Finset.mem_insert, not_or]
    tauto

namespace Session

/-- The topics to which the session is subscribed after the messages. -/
def subscribedTopics (encodedBytes : Frame → Nat) (start : Session) (inputs : List Input) : Finset String :=
  topicsAfter ∅ ((visits (handle encodedBytes) start inputs).flatMap fun visit =>
    (handle encodedBytes visit.1 visit.2).effects)

section

variable {encodedBytes : Frame → Nat} {start session next : Session} {inputs : List Input} {input : Input}
  {effects : List Effect}

theorem subscribedTopics_concat (ran : Beam.run (handle encodedBytes) start inputs = some session) :
    subscribedTopics encodedBytes start (inputs ++ [input])
      = topicsAfter (subscribedTopics encodedBytes start inputs) (handle encodedBytes input session).effects := by
  unfold subscribedTopics
  rw [visits_concat ran, List.flatMap_append, topicsAfter_append]
  simp

theorem topics_toConnection {frames : List Frame} : ∀ effect ∈ session.toConnection frames, effect.topics = id := by
  intro effect member
  unfold toConnection at member
  split at member
  · obtain ⟨frame, _, rfl⟩ := List.mem_map.1 member
    rfl
  · cases member

theorem topics_closeConnection {last : Frame} {reason : CloseReason} :
    ∀ effect ∈ session.closeConnection last reason, effect.topics = id := by
  intro effect member
  unfold closeConnection at member
  split at member
  · simp only [List.mem_cons, List.not_mem_nil, or_false] at member
    rcases member with rfl | rfl <;> rfl
  · cases member

/-- The topics follow the subscriptions. -/
theorem Step.topics (step : Step encodedBytes input session next effects) :
    topicsAfter (session.subscriptions.image topic) effects = next.subscriptions.image topic := by
  cases step with
  | kept => rfl
  | attached message admits =>
    refine topicsAfter_of_silent fun effect member => ?_
    rcases List.mem_append.1 member with first | sent
    · rcases List.mem_append.1 first with cancelled | closed
      · obtain ⟨timer, _, rfl⟩ := List.mem_map.1 cancelled
        rfl
      · obtain ⟨connection, _, rfl⟩ := List.mem_map.1 closed
        rfl
    · exact topics_toConnection effect sent
  | subscribed => exact (Finset.image_insert ..).symm
  | acked => rfl
  | pushed => exact topicsAfter_of_silent topics_toConnection
  | cleared => exact topicsAfter_of_silent topics_closeConnection
  | revoked =>
    have keys : ((session.subscriptions.sort (· ≤ ·)).map topic).toFinset = session.subscriptions.image topic := by
      ext other
      simp
    rw [topicsAfter_append, topicsAfter_unsubscribe, topicsAfter_of_silent topics_closeConnection, keys, Finset.sdiff_self]
    rfl
  | detached => rfl

theorem run_topics (fresh : start.subscriptions = ∅) (ran : Beam.run (handle encodedBytes) start inputs = some session) :
    subscribedTopics encodedBytes start inputs = session.subscriptions.image topic := by
  induction inputs using List.reverseRecOn generalizing session with
  | nil =>
    cases ran
    rw [fresh]
    rfl
  | append_singleton inputs input ih =>
    obtain ⟨before, ran, stepped⟩ := run_concat_eq_some.1 ran
    rw [subscribedTopics_concat ran, ih ran]
    exact (handle_step stepped).topics

/-- **Topics.** In every state of every session the topics subscribed to are exactly those of its subscriptions, so that
no key is heard without being subscribed, and none is missed. -/
theorem topics_follow_subscriptions (encodedBytes : Frame → Nat) (config : RuntimeConfig) (sessionId : String)
    (timer : TimerRef) (inputs : List Input) (actorKey : String) :
    (run encodedBytes config sessionId timer inputs).map (fun session => decide (actorKey ∈ session.subscriptions))
      = (run encodedBytes config sessionId timer inputs).map fun _ =>
        decide (topic actorKey ∈ subscribedTopics encodedBytes (init config sessionId timer) inputs) := by
  have injective : Function.Injective topic := fun _ _ same => by simpa [topic] using same
  cases ran : run encodedBytes config sessionId timer inputs with
  | none => rfl
  | some session =>
    rw [run_topics rfl ran]
    simp [injective.eq_iff]

/-! ## After a revocation -/

/-- The message subscribes a key. -/
def Subscribes (input : Input) : Prop :=
  ∃ actorKey, input.message = .subscribe (some actorKey) ∧ 1 ≤ actorKey.utf8ByteSize ∧ actorKey.utf8ByteSize ≤ 160

/-- The message brings a new event for which there is room. -/
def Buffers (encodedBytes : Frame → Nat) (input : Input) (session : Session) : Prop :=
  ∃ event sequence, input.message.event? = some event ∧ session.Fresh event sequence
    ∧ session.HasRoom encodedBytes input.readings event sequence

theorem Step.subscriptions (step : Step encodedBytes input session next effects) (none : session.subscriptions = ∅) :
    next.subscriptions = ∅ ∨ Subscribes input := by
  cases step with
  | @subscribed actorKey message size => exact .inr ⟨actorKey, message, size⟩
  | revoked => exact .inl rfl
  | _ => exact .inl none

theorem next_of_subscribes (encodedBytes : Frame → Nat) (session : Session) (subscribes : Subscribes input) :
    ∃ next, (handle encodedBytes input session).next? = some next ∧ next.subscriptions ≠ ∅ := by
  obtain ⟨actorKey, message, size⟩ := subscribes
  refine ⟨{ session with subscriptions := insert actorKey session.subscriptions }, ?_, Finset.insert_ne_empty _ _⟩
  simp only [handle, message, subscribe, if_pos size]
  rfl

theorem next_of_buffers (buffers : Buffers encodedBytes input session) :
    ∃ next, (handle encodedBytes input session).next? = some next ∧ next.queue.drop session.queue.length ≠ [] := by
  obtain ⟨event, sequence, brings, fresh, room⟩ := buffers
  refine ⟨_, handle_of_brings brings, ?_⟩
  rw [enqueueEvent_of_room fresh room]
  rw [Buffer.push_queue, List.drop_left]
  exact List.cons_ne_nil _ _

/-- Nothing is subscribed and nothing was buffered. -/
def Silent (encodedBytes : Frame → Nat) (start : Session) (inputs : List Input) : Prop :=
  ∀ session, Beam.run (handle encodedBytes) start inputs = some session →
    session.subscriptions = ∅ ∧ enqueued encodedBytes start inputs = []

/-- A session without subscriptions stays silent exactly if no message subscribes it or brings a new event. -/
theorem silent_iff (none : start.subscriptions = ∅) :
    (∀ before, before <+: inputs → Silent encodedBytes start before)
      ↔ Along (handle encodedBytes) start
        (fun input session => ¬ Subscribes input ∧ ¬ Buffers encodedBytes input session) inputs := by
  constructor
  · intro silent before input session step ran
    have after := silent _ step
    refine ⟨fun subscribes => ?_, fun buffers => ?_⟩
    · obtain ⟨next, stepped, some⟩ := next_of_subscribes encodedBytes session subscribes
      exact some (after next (run_concat_eq_some.2 ⟨session, ran, stepped⟩)).1
    · obtain ⟨next, stepped, some⟩ := next_of_buffers buffers
      obtain ⟨outbound, new⟩ := List.exists_mem_of_ne_nil _ some
      have collected := (enqueued_concat ran stepped).2 (.inr new)
      rw [(after next (run_concat_eq_some.2 ⟨session, ran, stepped⟩)).2] at collected
      cases collected
  · intro along before earlier
    induction before using List.reverseRecOn with
    | nil =>
      rintro session ⟨⟩
      exact ⟨none, rfl⟩
    | append_singleton before input ih =>
      intro next ran
      obtain ⟨session, ran, stepped⟩ := run_concat_eq_some.1 ran
      obtain ⟨nothing, empty⟩ := ih ((List.prefix_append _ _).trans earlier) session ran
      obtain ⟨quiet, idle⟩ := along before input session earlier ran
      refine ⟨((handle_step stepped).subscriptions nothing).resolve_right quiet, ?_⟩
      rw [List.eq_nil_iff_forall_not_mem]
      intro outbound collected
      rcases (enqueued_concat ran stepped).1 collected with old | new
      · rw [empty] at old
        cases old
      · obtain ⟨event, sequence, brings, fresh, room, _⟩ := (handle_bufferStep stepped).new_entry new
        exact idle ⟨event, sequence, brings, fresh, room⟩

/-- **Revocation.** For every session, every run up to a `revoke` and all messages after it: in every state
after the `revoke` the session has no subscriptions, no topic is subscribed and no event was put in the queue
since, exactly if no message after the `revoke` subscribes a key or brings a new event for which there is
room. -/
theorem revocation_permanent_iff (encodedBytes : Frame → Nat) (config : RuntimeConfig) (sessionId : String)
    (timer : TimerRef) (before : List Input) (session : Session)
    (ran : run encodedBytes config sessionId timer before = some session) (readings : Readings) (reason : String)
    (after : List Input) :
    (∀ more, more <+: after → ∀ later,
        run encodedBytes config sessionId timer (before ++ { readings, message := .revoke reason } :: more) = some later →
        later.subscriptions = ∅
          ∧ subscribedTopics encodedBytes (init config sessionId timer)
            (before ++ { readings, message := .revoke reason } :: more) = ∅
          ∧ enqueued encodedBytes session.revokedFrom more = [])
      ↔ Along (handle encodedBytes) session.revokedFrom
        (fun input session => ¬ Subscribes input ∧ ¬ Buffers encodedBytes input session) after := by
  have split : ∀ more, run encodedBytes config sessionId timer (before ++ { readings, message := .revoke reason } :: more)
      = Beam.run (handle encodedBytes) session.revokedFrom more := by
    intro more
    rw [run, run_append, show Beam.run _ _ before = some session from ran, Option.bind_some, run_cons]
    rfl
  rw [← silent_iff rfl]
  constructor
  · intro permanent more earlier later ranMore
    obtain ⟨nothing, _, empty⟩ := permanent more earlier later ((split more).trans ranMore)
    exact ⟨nothing, empty⟩
  · intro silent more earlier later ranLater
    obtain ⟨nothing, empty⟩ := silent more earlier later ((split more).symm.trans ranLater)
    refine ⟨nothing, ?_, empty⟩
    rw [run_topics rfl ranLater, nothing]
    rfl

end

end Session

/-- A revoked session accepts a subscription and buffers the event of a delivery. -/
theorem revoked_session_buffers :
    (Session.run (fun _ => 200) smallConfig "session" 0 [sampleInput (.revoke "access_revoked"),
        sampleInput (.subscribe (some "sample")), sampleInput (.deliver (sampleEvent 1))]).map
      (fun session => (session.revoked, session.subscriptions, session.queue.map Outbound.eventId))
        = some (true, {"sample"}, [sampleUuid 1])
      ∧ Session.subscribedTopics (fun _ => 200) (Session.init smallConfig "session" 0)
        [sampleInput (.revoke "access_revoked"), sampleInput (.subscribe (some "sample"))] = {topic "sample"} := by
  refine ⟨by decide, ?_⟩
  rw [Session.run_topics rfl rfl]
  decide

/-- A revoked session that is only asked for snapshots stays silent. -/
theorem revoked_session_silent : ∃ session,
    Session.run (fun _ => 200) smallConfig "session" 0 [sampleInput (.subscribe (some "sample"))] = some session
      ∧ ∀ more, more <+: [sampleInput .snapshot] → ∀ later,
        Session.run (fun _ => 200) smallConfig "session" 0
            ([sampleInput (.subscribe (some "sample"))] ++ sampleInput (.revoke "access_revoked") :: more) = some later →
        later.subscriptions = ∅
          ∧ Session.subscribedTopics (fun _ => 200) (Session.init smallConfig "session" 0)
            ([sampleInput (.subscribe (some "sample"))] ++ sampleInput (.revoke "access_revoked") :: more) = ∅
          ∧ Session.enqueued (fun _ => 200) session.revokedFrom more = [] := by
  refine ⟨_, rfl, (Session.revocation_permanent_iff (fun _ => 200) smallConfig "session" 0
    [sampleInput (.subscribe (some "sample"))] _ rfl sampleReadings "access_revoked" [sampleInput .snapshot]).2 ?_⟩
  intro before input session step _
  have message : input.message = .snapshot := by
    have member := step.subset (List.mem_append_right before List.mem_cons_self)
    rw [List.mem_singleton.1 member]
    rfl
  refine ⟨?_, ?_⟩
  · rintro ⟨_, other, _⟩
    rw [message] at other
    cases other
  · rintro ⟨_, _, brings, _⟩
    rw [message] at brings
    cases brings

end Liqi.Realtime
