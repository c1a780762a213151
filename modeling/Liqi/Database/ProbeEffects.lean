import Liqi.Database.OutboxLease
import Liqi.Lockstep

/-!
# Effect and acknowledgement

`apply_probe_effect_and_ack` stores a probe's effect and acknowledges its event. Its guard is a
disjunction of `<>`, the guard of the acknowledgement inside is a conjunction of `=`: a `NULL` token
or consumer passes the first and fails the second, and the effect is stored while the event stays
leased. `NullSlip` is that case. A run keeps effect and acknowledgement together exactly if none of
its steps is one.
-/

namespace Liqi.Database

open Postgres

/-! ## Probes and their events -/

/-- The probe that an event's payload names. -/
def OutboxEvent.Names (event : OutboxEvent) (probeId : Uuid) : Prop :=
  castUuid (event.envelope.content.payload.getText "probeId") = .ok (some probeId)

variable {state : ProbeState} {now : Timestamp} {row : OutboxEvent}

theorem RequestProbeV0.names {a : RequestProbeV0} (h : (a.event state).draft.row now = .ok row) :
    row.Names state.probeId := by
  have stored := (EventDraft.columns (EventDraft.fresh_row h).content).payload
  have payload : row.envelope.content.payload = Jsonb.buildObject [("probeId", .string state.probeId.text)] :=
    (Option.some.inj stored).symm
  have text : row.envelope.content.payload.getText "probeId" = some state.probeId.text := by
    rw [payload]
    simp [Jsonb.buildObject, Jsonb.getText, Jsonb.lookup_setMember]
  unfold OutboxEvent.Names
  rw [text, castUuid_text]

theorem RequestProbeV1.names {a : RequestProbeV1} (h : (a.event state).draft.row now = .ok row) :
    row.Names state.probeId := by
  have stored := (EventDraft.columns (EventDraft.fresh_row h).content).payload
  have payload : row.envelope.content.payload = Jsonb.buildObject [("probeId", .string state.probeId.text),
      ("aggregateVersion", .number state.aggregateVersion)] := (Option.some.inj stored).symm
  have text : row.envelope.content.payload.getText "probeId" = some state.probeId.text := by
    rw [payload]
    simp [Jsonb.buildObject, Jsonb.getText, Jsonb.lookup_setMember]
  unfold OutboxEvent.Names
  rw [text, castUuid_text]

def ProbeState.Completed (state : ProbeState) : Prop := ∃ now, state.status = .completed now

/-- Every probe event belongs to the probe it names, and every effect to a completed probe. -/
structure ProbesLinked (db : Db) : Prop where
  events : ∀ event ∈ db.outboxEvents, ∀ version, Version.appliesTo version event = true →
    ∃ state ∈ db.probeState, event.Names state.probeId ∧ state.requestedEventId = event.eventId
  effects : ∀ effect ∈ db.probeEffects, ∃ state ∈ db.probeState,
    state.probeId = effect.probeId ∧ state.requestedEventId = effect.eventId ∧ state.Completed

/-- Probes keep their event, and a completed one stays completed. -/
def ProbesKept (db db' : Db) : Prop :=
  ∀ state ∈ db.probeState, ∃ state' ∈ db'.probeState, state'.probeId = state.probeId ∧
    state'.requestedEventId = state.requestedEventId ∧ (state.Completed → state'.Completed)

variable {db db' : Db}

theorem ProbesKept.of_eq (same : db'.probeState = db.probeState) : ProbesKept db db' :=
  fun state stored => ⟨state, by rw [same]; exact stored, rfl, rfl, id⟩

theorem ProbeStored.kept (h : ProbeStored state db db') : ProbesKept db db' := by
  cases h with
  | present => exact .of_eq rfl
  | inserted absent => exact fun old stored => ⟨old, (Table.mem_insert absent).2 (.inl stored), rfl, rfl, id⟩

theorem mem_completeProbe {probeId : Uuid} {state' : ProbeState} :
    state' ∈ (completeProbe probeId now db).probeState ↔
      ∃ state ∈ db.probeState, state' = if decide (state.probeId = probeId) then state.complete now else state := by
  unfold completeProbe
  rw [Table.mem_update]

theorem completeProbe_kept (probeId : Uuid) (now : Timestamp) (db : Db) :
    ProbesKept db (completeProbe probeId now db) := by
  intro state stored
  refine ⟨_, mem_completeProbe.2 ⟨state, stored, rfl⟩, ?_⟩
  split
  · refine ⟨state.complete_probeId now, ?_⟩
    unfold ProbeState.complete
    split
    · exact ⟨rfl, fun _ => ⟨now, rfl⟩⟩
    · exact ⟨rfl, id⟩
  · exact ⟨rfl, rfl, id⟩

/-- The links survive where probes are kept, new probe events are linked and new effects too. -/
theorem ProbesLinked.of_kept {call : Call} {db db' : Db} (inv : ProbesLinked db) (kept : ProbesKept db db')
    (rows : RowSteps call db db')
    (fresh : ∀ event ∈ db'.outboxEvents, db.outboxEvents.get? event.eventId = none → ∀ version,
      Version.appliesTo version event = true →
      ∃ state ∈ db'.probeState, event.Names state.probeId ∧ state.requestedEventId = event.eventId)
    (effects : ∀ effect ∈ db'.probeEffects, effect ∈ db.probeEffects ∨ ∃ state ∈ db'.probeState,
      state.probeId = effect.probeId ∧ state.requestedEventId = effect.eventId ∧ state.Completed) :
    ProbesLinked db' where
  events event' stored version applies := by
    rcases rows.backward event' stored with ⟨event, old, step⟩ | ⟨_, absent, _⟩
    · have content := step.envelope
      have before : version.appliesTo event = true := by
        have same : version.appliesTo event' = version.appliesTo event := by
          cases version <;> simp only [Version.appliesTo, content]
        rw [← same]
        exact applies
      obtain ⟨state, known, names, requested⟩ := inv.events event old version before
      obtain ⟨state', known', sameProbe, sameEvent, _⟩ := kept state known
      refine ⟨state', known', ?_, by rw [sameEvent, requested, step.eventId]⟩
      unfold OutboxEvent.Names
      rw [content, sameProbe]
      exact names
    · exact fresh event' stored absent version applies
  effects effect stored := by
    rcases effects effect stored with old | new
    · obtain ⟨state, known, sameProbe, requested, completed⟩ := inv.effects effect old
      obtain ⟨state', known', probe, event, keeps⟩ := kept state known
      exact ⟨state', known', probe.trans sameProbe, event.trans requested, keeps completed⟩
    · exact new

/-- Probe events are enqueued by `request_probe` only. -/
def Call.EnqueuesNoProbe : Call → Prop
  | .enqueueV0 a _ =>
    a.eventType ≠ some "platform.probe.requested.v0" ∧ a.eventType ≠ some "platform.probe.requested.v1"
  | .enqueueV1 a _ =>
    a.eventType ≠ some "platform.probe.requested.v0" ∧ a.eventType ≠ some "platform.probe.requested.v1"
  | _ => True

variable {version : Version}

theorem eventType_of_applies {event : OutboxEvent} (applies : version.appliesTo event = true) :
    event.envelope.content.eventType = "platform.probe.requested.v0" ∨
      event.envelope.content.eventType = "platform.probe.requested.v1" := by
  cases version with
  | v0 =>
    simp only [Version.appliesTo, Bool.and_eq_true, beq_iff_eq] at applies
    exact .inl applies.1
  | v1 =>
    simp only [Version.appliesTo, Bool.and_eq_true, beq_iff_eq] at applies
    exact .inr applies.1.2

section Frames

variable {db db' : Db}

theorem Published.probeTables {version : Version} {now : Timestamp} {eventId : Uuid} {id : Nat}
    (h : Published version now eventId db id db') :
    db'.probeState = db.probeState ∧ db'.probeEffects = db.probeEffects := by
  cases h with
  | already => exact ⟨rfl, rfl⟩
  | appended => exact ⟨Db.probeState_setHandoff _ _ _, Db.probeEffects_setHandoff _ _ _⟩

theorem Enqueued.of_new {row event : OutboxEvent} (h : Enqueued row db db') (stored : event ∈ db'.outboxEvents)
    (new : db.outboxEvents.get? event.eventId = none) : event = row := by
  cases h with
  | stored => exact absurd rfl (Table.get?_eq_none.1 new event stored)
  | inserted absent =>
    rcases (Table.mem_insert absent).1 stored with old | same
    · exact absurd rfl (Table.get?_eq_none.1 new event old)
    · exact same

end Frames

theorem ProbeState.complete_completed (state : ProbeState) (now : Timestamp) : (state.complete now).Completed := by
  unfold ProbeState.complete
  split
  · exact ⟨now, rfl⟩
  · rename_i at_ status
    exact ⟨at_, status⟩

theorem ProbeState.complete_requestedEventId (state : ProbeState) (now : Timestamp) :
    (state.complete now).requestedEventId = state.requestedEventId := by
  unfold ProbeState.complete
  split <;> rfl

section Applied

variable {version : Version} {now : Timestamp} {eventId token : Option Uuid} {consumer : Option String} {db : Db}
  {event : OutboxEvent} {t : Uuid} {c : String} {lease : Timestamp} {probeId : Uuid} {db₁ : Db}

/-- The probe of an event that `apply` accepts. -/
theorem Applied.probe (inv : ProbesLinked db)
    (h : Applied version now eventId token consumer db event t c lease probeId db₁) :
    ∃ state ∈ db.probeState, state.probeId = probeId ∧ state.requestedEventId = event.eventId := by
  obtain ⟨state, known, names, requested⟩ := inv.events event h.stored version h.supported
  have same := names.symm.trans h.payload
  exact ⟨state, known, Option.some.inj (Except.ok.inj same), requested⟩

/-- The effects after the insert: the old ones, and this event's. -/
theorem Applied.mem_effects (h : Applied version now eventId token consumer db event t c lease probeId db₁)
    {effect : ProbeEffect} (stored : effect ∈ db₁.probeEffects) :
    effect ∈ db.probeEffects ∨ effect = ⟨event.eventId, probeId, now⟩ := by
  rcases insertEffect_cases h.effect with ⟨rfl, _⟩ | ⟨absent, _, _, rfl⟩
  · exact .inl stored
  · exact (Table.mem_insert absent).1 stored

theorem Applied.kept (h : Applied version now eventId token consumer db event t c lease probeId db₁) :
    ProbesKept db (completeProbe probeId now db₁) := by
  have kept := completeProbe_kept probeId now db₁
  have same : db₁.probeState = db.probeState := by
    rcases insertEffect_cases h.effect with ⟨rfl, _⟩ | ⟨_, _, _, rfl⟩ <;> rfl
  unfold ProbesKept at kept
  rwa [same] at kept

/-- After `apply`, the event's probe is completed, acknowledged or not. -/
theorem Applied.completed (inv : ProbesLinked db)
    (h : Applied version now eventId token consumer db event t c lease probeId db₁) :
    ∃ state ∈ (completeProbe probeId now db₁).probeState, state.probeId = probeId ∧
      state.requestedEventId = event.eventId ∧ state.Completed := by
  obtain ⟨state, known, probe, requested⟩ := h.probe inv
  have same : db₁.probeState = db.probeState := by
    rcases insertEffect_cases h.effect with ⟨rfl, _⟩ | ⟨_, _, _, rfl⟩ <;> rfl
  refine ⟨state.complete now, mem_completeProbe.2 ⟨state, by rw [same]; exact known, by simp [probe]⟩, ?_⟩
  exact ⟨(state.complete_probeId now).trans probe, (state.complete_requestedEventId now).trans requested,
    state.complete_completed now⟩

end Applied

theorem ProbesLinked.of_quiet {call : Call} {db db' : Db} (inv : ProbesLinked db) (rows : RowSteps call db db')
    (tables : db'.probeState = db.probeState ∧ db'.probeEffects = db.probeEffects)
    (fresh : ∀ event ∈ db'.outboxEvents, db.outboxEvents.get? event.eventId = none →
      ∀ version, Version.appliesTo version event = false) : ProbesLinked db' := by
  refine inv.of_kept (.of_eq tables.1) rows ?_ ?_
  · intro event stored absent version applies
    rw [fresh event stored absent version] at applies
    cases applies
  · intro effect stored
    rw [tables.2] at stored
    exact .inl stored

variable {call : Call}

/-- A call that enqueues nothing leaves only events that were there. -/
theorem RowSteps.old (rows : RowSteps call db db') (consumer : call.enqueues = false) {event : OutboxEvent}
    (stored : event ∈ db'.outboxEvents) : db.outboxEvents.get? event.eventId ≠ none := by
  rcases rows.backward event stored with ⟨before, old, step⟩ | ⟨_, _, producer⟩
  · rw [step.eventId, Table.get?_self old]
    exact nofun
  · rw [consumer] at producer
    cases producer

/-- A row drafted with another type is no probe event. -/
theorem not_applies_of_draft {d : EventDraft} (drafted : d.row now = .ok row)
    (other : d.eventType ≠ some "platform.probe.requested.v0" ∧ d.eventType ≠ some "platform.probe.requested.v1")
    (version : Version) : version.appliesTo row = false := by
  have typed := (EventDraft.columns (EventDraft.fresh_row drafted).content).eventType
  by_contra applies
  rcases eventType_of_applies (by simpa using applies) with v0 | v1
  · exact other.1 (by rw [typed, v0])
  · exact other.2 (by rw [typed, v1])

/-- What a call can do to the probe tables and to probe events. -/
inductive ProbeStep (call : Call) (db db' : Db) : Prop where
  | quiet (tables : db'.probeState = db.probeState ∧ db'.probeEffects = db.probeEffects)
      (other : ∀ event ∈ db'.outboxEvents, db.outboxEvents.get? event.eventId = none →
        ∀ version, Version.appliesTo version event = false)
  | requested {state : ProbeState} {row : OutboxEvent} {db₁ db₂ : Db} (probe : ProbeStored state db db₁)
      (event : Enqueued row db₁ db₂) (names : row.Names state.probeId) (same : row.eventId = state.requestedEventId)
      (states : db'.probeState = db₂.probeState) (effects : db'.probeEffects = db₂.probeEffects)
      (events : db'.outboxEvents = db₂.outboxEvents)
  | applied {version : Version} {now : Timestamp} {holder : Holder} {status : OutboxStatus}
      (made : call = .apply version now holder)
      (ran : applyProbeEffectAndAck version now holder.eventId holder.token holder.consumer db = .ok (status, db'))

theorem ProbeStep.of_consumer (rows : RowSteps call db db') (consumer : call.enqueues = false)
    (tables : db'.probeState = db.probeState ∧ db'.probeEffects = db.probeEffects) : ProbeStep call db db' :=
  .quiet tables fun _ stored absent => absurd absent (rows.old consumer stored)

theorem ProbeStep.of_enqueue {d : EventDraft} (drafted : d.row now = .ok row) (event : Enqueued row db db')
    (other : d.eventType ≠ some "platform.probe.requested.v0" ∧ d.eventType ≠ some "platform.probe.requested.v1") :
    ProbeStep call db db' := by
  refine .quiet event.outboxOnly.probeTables fun new stored absent version => ?_
  rw [event.of_new stored absent]
  exact not_applies_of_draft drafted other version

theorem ProbeStep.of_request {id : Nat} {db₁ db₂ db₃ : Db} (names : row.Names state.probeId)
    (h : ProbeRequested version now state row id db db₁ db₂ db₃ db') : ProbeStep call db db' := by
  have tables := h.handoff.probeTables
  have after := h.after
  exact .requested h.probe h.event names h.key (by rw [after]; exact tables.1) (by rw [after]; exact tables.2)
    (by rw [after]; exact h.handoff.outboxEvents)

theorem Call.probeStep_exec {r : Reply} (only : call.EnqueuesNoProbe) (ran : call.exec db = .ok (r, db')) :
    ProbeStep call db db' := by
  have rows := Call.rowSteps_exec ran
  cases Call.done ran with
  | enqueuedV0 drafted event | enqueuedV1 drafted event => exact .of_enqueue drafted event only
  | published handoff => exact .of_consumer rows rfl handoff.probeTables
  | requestedV0 h => exact .of_request (RequestProbeV0.names h.drafted) h.request
  | repeated =>
    exact .quiet ⟨rfl, rfl⟩ fun event stored absent => absurd (Table.get?_self stored) (by rw [absent]; exact nofun)
  | created _ h => exact .of_request (RequestProbeV1.names h.drafted) h.request
  | leased h => exact .of_consumer rows rfl h.outboxOnly.probeTables
  | acked h => exact .of_consumer rows rfl (ack_outboxOnly h).probeTables
  | failed h => exact .of_consumer rows rfl (fail_outboxOnly h).probeTables
  | applied h => exact .applied rfl h
  | pruned => exact .of_consumer rows rfl ⟨rfl, rfl⟩

/-- A request links the event it enqueues to the probe it stores. -/
theorem ProbesLinked.request {db₁ db₂ : Db} (inv : ProbesLinked db) (rows : RowSteps call db db')
    (probe : ProbeStored state db db₁) (event : Enqueued row db₁ db₂) (names : row.Names state.probeId)
    (requested : row.eventId = state.requestedEventId) (states : db'.probeState = db₂.probeState)
    (effects : db'.probeEffects = db.probeEffects) (events : db'.outboxEvents = db₂.outboxEvents) :
    ProbesLinked db' := by
  have states : db'.probeState = db₁.probeState := states.trans event.outboxOnly.probeTables.1
  refine inv.of_kept ?_ rows ?_ ?_
  · intro old stored
    obtain ⟨state', known, kept⟩ := probe.kept old stored
    exact ⟨state', by rw [states]; exact known, kept⟩
  · intro new stored absent _ _
    rw [events] at stored
    rw [← probe.outboxEvents] at absent
    obtain rfl := event.of_new stored absent
    rw [states]
    cases probe with
    | @present existing found same =>
      obtain ⟨known, sameProbe⟩ := Table.get?_eq_some.1 found
      exact ⟨existing, known, by rw [sameProbe]; exact names, by rw [same, requested]⟩
    | inserted unknown =>
      exact ⟨state, (Table.mem_insert unknown).2 (.inr rfl), names, requested.symm⟩
  · intro effect stored
    rw [effects] at stored
    exact .inl stored

theorem ProbeStored.probeEffects (h : ProbeStored state db db') :
    db'.probeEffects = db.probeEffects := by
  cases h <;> rfl

theorem ProbesLinked.apply {holder : Holder} {status : OutboxStatus} (inv : ProbesLinked db)
    (rows : RowSteps (.apply version now holder) db db')
    (ran : applyProbeEffectAndAck version now holder.eventId holder.token holder.consumer db = .ok (status, db')) :
    ProbesLinked db' := by
  rcases apply_cases ran with ⟨rfl, _⟩ | ⟨event, t, c, lease, probeId, db₁, passed, acked⟩
  · exact inv
  · have tables := (ack_outboxOnly acked.symm).probeTables
    refine inv.of_kept ?_ rows (fun new stored absent => absurd absent (rows.old rfl stored)) ?_
    · intro state known
      obtain ⟨state', known', kept⟩ := passed.kept state known
      exact ⟨state', by rw [tables.1]; exact known', kept⟩
    · intro effect stored
      rw [tables.2] at stored
      rcases passed.mem_effects stored with before | rfl
      · exact .inl before
      · obtain ⟨state, known, probe, requested, completed⟩ := passed.completed inv
        exact .inr ⟨state, by rw [tables.1]; exact known, probe, requested, completed⟩

theorem ProbesLinked.exec {r : Reply} (inv : ProbesLinked db) (only : call.EnqueuesNoProbe)
    (ran : call.exec db = .ok (r, db')) : ProbesLinked db' := by
  have rows := Call.rowSteps_exec ran
  cases Call.probeStep_exec only ran with
  | quiet tables other => exact inv.of_quiet rows tables other
  | requested probe event names same states effects events =>
    exact inv.request rows probe event names same states
      (effects.trans (event.outboxOnly.probeTables.2.trans probe.probeEffects)) events
  | applied made inner =>
    subst made
    exact inv.apply rows inner

theorem ProbesLinked.step (inv : ProbesLinked db) (only : call.EnqueuesNoProbe) :
    ProbesLinked (call.step db) := by
  unfold Call.step
  split
  · rename_i ran
    exact inv.exec only ran
  · exact inv

theorem linked_run {calls : List Call} (only : ∀ call ∈ calls, call.EnqueuesNoProbe) :
    ProbesLinked (runCalls calls) :=
  runCalls_invariant ⟨Table.forall_empty, Table.forall_empty⟩ fun _ linked call listed => linked.step (only call listed)

/-! ## The guards on `NULL` -/

/-- A call of `apply` that passes its guards because of a `NULL`. -/
def NullSlip (call : Call) (db : Db) : Prop :=
  ∃ version now holder, ∃ event ∈ db.outboxEvents, call = .apply version now holder ∧ holder.SlipsPast event ∧
    Version.appliesTo version event = true

/-- Every effect belongs to a succeeded event and a completed probe. -/
def EffectsAcknowledged (db : Db) : Prop :=
  ∀ effect ∈ db.probeEffects,
    (∃ event ∈ db.outboxEvents, event.eventId = effect.eventId ∧ event.Succeeded) ∧
    ∃ state ∈ db.probeState, state.probeId = effect.probeId ∧ state.Completed

/-- A call of `apply` that answers anything but `'acked'` changes none of its tables. -/
def AppliesAtomically (call : Call) (db : Db) : Prop :=
  ∀ version now holder status db', call = .apply version now holder → call.exec db = .ok (.status status, db') →
    status ≠ .acked → db'.probeEffects = db.probeEffects ∧ db'.probeState = db.probeState ∧
      db'.outboxEvents = db.outboxEvents ∧ db'.outboxAttempts = db.outboxAttempts

theorem exec_apply (version : Version) (now : Timestamp) (holder : Holder) (db : Db) :
    (Call.apply version now holder).exec db
      = reply .status (applyProbeEffectAndAck version now holder.eventId holder.token holder.consumer db) := by
  cases version <;> rfl

section Slip

variable {version : Version} {now : Timestamp} {holder : Holder} {status : OutboxStatus} {db db' : Db}

variable {event : OutboxEvent}

variable {t : Uuid} {c : String}

/-- Past its guards without `NULL`, `apply` acknowledges the event. -/
theorem apply_acked {lease : Timestamp} {probeId : Uuid} {db₁ : Db}
    (passed : Applied version now holder.eventId holder.token holder.consumer db event t c lease probeId db₁)
    (present : ¬ NullSlip (.apply version now holder) db) :
    ackOutboxV0 now holder.eventId holder.token holder.consumer (completeProbe probeId now db₁)
      = (.acked, acknowledge event t c now (completeProbe probeId now db₁)) := by
  have filled : ¬ (holder.token = none ∨ holder.consumer = none) := fun null => present
    ⟨version, now, holder, event, passed.stored, rfl,
      ⟨t, c, lease, passed.leased, passed.identified, passed.token, passed.consumer, null⟩, passed.supported⟩
  have token := passed.token.resolve_left fun null => filled (.inl null)
  have consumer := passed.consumer.resolve_left fun null => filled (.inr null)
  have stored : event ∈ (completeProbe probeId now db₁).outboxEvents := by
    rw [effect_outboxEvents passed.effect]
    exact passed.stored
  rw [passed.identified, token, consumer]
  exact ack_of_holder now stored passed.leased

theorem applies_atomically_of_no_slip {call : Call} (h : ¬ NullSlip call db) : AppliesAtomically call db := by
  intro version now holder status db' made ran other
  subst made
  rw [exec_apply] at ran
  obtain ⟨_, inner, wrapped⟩ := reply_ok ran
  cases wrapped
  rcases apply_cases inner with ⟨rfl, _⟩ | ⟨event, t, c, lease, probeId, db₁, passed, acked⟩
  · exact ⟨rfl, rfl, rfl, rfl⟩
  · rw [apply_acked passed h] at acked
    cases acked
    exact absurd rfl other

theorem mem_acknowledge (stored : event ∈ db.outboxEvents) :
    event.succeed now ∈ (acknowledge event t c now db).outboxEvents := by
  show event.succeed now ∈ db.outboxEvents.update (fun row => decide (row.eventId = event.eventId))
    (OutboxEvent.succeed now) (OutboxEvent.succeed_eventId now)
  rw [Table.mem_update]
  exact ⟨event, stored, by simp⟩

/-- Without a slip, a call keeps every effect acknowledged. -/
theorem EffectsAcknowledged.step {call : Call} (inv : EffectsAcknowledged db) (linked : ProbesLinked db)
    (only : call.EnqueuesNoProbe) (h : ¬ NullSlip call db) : EffectsAcknowledged (call.step db) := by
  intro effect stored
  obtain ⟨state, known, probe, _, completed⟩ := (linked.step only).effects effect stored
  refine ⟨?_, state, known, probe, completed⟩
  have kept : effect ∈ db.probeEffects →
      ∃ event ∈ (call.step db).outboxEvents, event.eventId = effect.eventId ∧ event.Succeeded := by
    intro old
    obtain ⟨⟨event, before, same, succeeded⟩, _⟩ := inv effect old
    obtain ⟨event', after, step⟩ := (call.rowSteps db).forward event before
    rw [step.terminal succeeded.terminal] at after
    exact ⟨event, after, same, succeeded⟩
  unfold Call.step at stored kept ⊢
  cases ran : call.exec db with
  | error e =>
    rw [ran] at stored kept
    exact kept stored
  | ok result =>
    obtain ⟨r, db'⟩ := result
    rw [ran] at stored kept
    dsimp only at stored kept ⊢
    cases Call.probeStep_exec only ran with
    | quiet tables =>
      rw [tables.2] at stored
      exact kept stored
    | requested probe event _ _ _ effects =>
      rw [effects, event.outboxOnly.probeTables.2, probe.probeEffects] at stored
      exact kept stored
    | @applied version now holder status made inner =>
      subst made
      rcases apply_cases inner with ⟨rfl, _⟩ | ⟨event, t, c, lease, probeId, db₁, passed, acked⟩
      · exact kept stored
      · rw [apply_acked passed h] at acked
        cases acked
        rcases passed.mem_effects stored with old | rfl
        · exact kept old
        · refine ⟨event.succeed now, mem_acknowledge ?_, rfl, now, rfl⟩
          rw [effect_outboxEvents passed.effect]
          exact passed.stored

/-- `apply` runs to its acknowledgement once the guards are passed. -/
theorem apply_of_guards {lease : Timestamp} {probeId : Uuid} {db₁ : Db}
    (passed : Applied version now holder.eventId holder.token holder.consumer db event t c lease probeId db₁) :
    applyProbeEffectAndAck version now holder.eventId holder.token holder.consumer db
      = .ok (ackOutboxV0 now holder.eventId holder.token holder.consumer (completeProbe probeId now db₁)) := by
  have found : holder.eventId.bind db.outboxEvents.get? = some event := found_iff.2 ⟨passed.identified, passed.stored⟩
  have state : event.state = .processing t c lease := passed.leased
  have fresh : event.staleFor holder.token holder.consumer = false :=
    not_staleFor_iff.2 ⟨t, c, lease, passed.leased, passed.token, passed.consumer⟩
  unfold applyProbeEffectAndAck
  simp only [found, state, fresh, passed.supported, passed.payload, Bool.not_true, Bool.false_eq_true, if_false]
  show (insertEffect _ db >>= _) = _
  rw [passed.effect]
  rfl

/-- The first effect of an event meets no other effect of its probe. -/
theorem insertEffect_of_new {state : ProbeState} {eventId : Uuid} (linked : ProbesLinked db) (known : state ∈ db.probeState)
    (requested : state.requestedEventId = eventId) (new : db.probeEffects.get? eventId = none) (now : Timestamp) :
    insertEffect ⟨eventId, state.probeId, now⟩ db
      = .ok { db with probeEffects := db.probeEffects.insert ⟨eventId, state.probeId, now⟩ } := by
  have distinct : ∀ effect ∈ db.probeEffects, effect.probeId ≠ state.probeId := by
    intro effect old same
    obtain ⟨other, known', probe, event', _⟩ := linked.effects effect old
    rw [Table.eq_of_key known' known (probe.trans same), requested] at event'
    exact Table.get?_eq_none.1 new effect old event'.symm
  unfold insertEffect
  rw [if_neg (by simp [new]), if_neg (by simpa [Table.mem_def] using distinct), if_neg (by simp [Table.get?_self known])]

/-- A slip stores the effect of an event that stays leased. -/
theorem not_acknowledged_of_slip {call : Call} (inv : EffectsAcknowledged db) (linked : ProbesLinked db)
    (h : NullSlip call db) : ¬ EffectsAcknowledged (call.step db) := by
  obtain ⟨version, now, holder, event, stored, rfl, ⟨t, c, lease, leased, identified, token, consumer, null⟩, applies⟩ := h
  obtain ⟨state, known, names, requested⟩ := linked.events event stored version applies
  have running : ¬ event.Succeeded := fun succeeded => leased.not_terminal succeeded.terminal
  have noEffect : db.probeEffects.get? event.eventId = none := by
    rw [Table.get?_eq_none]
    intro effect old same
    obtain ⟨⟨other, present, key, succeeded⟩, _⟩ := inv effect old
    rw [Table.eq_of_key present stored (key.trans same)] at succeeded
    exact running succeeded
  have effect := insertEffect_of_new linked known requested noEffect now
  have passed : Applied version now holder.eventId holder.token holder.consumer db event t c lease state.probeId _ :=
    ⟨stored, leased, identified, token, consumer, applies, names, effect⟩
  have unheld : ∀ db₂, (ackOutboxV0 now holder.eventId holder.token holder.consumer db₂).2 = db₂ := by
    intro db₂
    rcases ack_cases now holder.eventId holder.token holder.consumer db₂ with ⟨same, _⟩ | ⟨_, _, _, _, _, _, _, t', c', _⟩
    · exact same
    · rcases null with null | null
      · rw [null] at t'
        cases t'
      · rw [null] at c'
        cases c'
  have after : (Call.apply version now holder).step db = completeProbe state.probeId now
      { db with probeEffects := db.probeEffects.insert ⟨event.eventId, state.probeId, now⟩ } := by
    unfold Call.step
    rw [exec_apply, apply_of_guards passed]
    exact unheld _
  rw [after]
  intro acknowledged
  obtain ⟨⟨other, present, key, succeeded⟩, _⟩ := acknowledged ⟨event.eventId, state.probeId, now⟩
    ((Table.mem_insert noEffect).2 (.inr rfl))
  rw [Table.eq_of_key (show other ∈ db.outboxEvents from present) stored key] at succeeded
  exact running succeeded

end Slip

/-- One probe is requested, claimed, and applied with the consumer right and a `NULL` token. -/
def slippingRun : List Call :=
  [.requestV0 ⟨some (sampleUuid 1), some (sampleUuid 2), some 0, none, none, none⟩ ⟨0, 0, 0⟩,
   .claim .v0 (sampleClaim 7 1 ⟨1, 1, 1⟩),
   .apply .v0 2 ⟨some (sampleUuid 2), none, some "worker"⟩]

end Liqi.Database
