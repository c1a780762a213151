import Std.Data.TreeMap.Lemmas
import Liqi.Database.Calls
import Liqi.Database.ProducerEffects
import Liqi.V0.Envelope

/-!
# Creating a V0 probe

`PlatformProbeApplication::create` commits a probe under the id that the client chose, with an event id derived
from it, through whichever persistence it was given: `PostgresAuthorityStore`, or the `FakePlatformStore` of the
tests. The fake answers a second request from its record. The database compares the whole event instead, and the
event holds the commit time, the request id and the trace id of the request.
-/

namespace Liqi.Database

open Postgres

section Retry

variable {a b : RequestProbeV0} {clock clock' : RequestClock} {db db' db'' : Db} {eventId eventId' : Uuid}

/-- What a request leaves behind: the probe with its event, the event with the same durable content, and its
publication. -/
structure Requested (a : RequestProbeV0) (now : Timestamp) (state : ProbeState) (row existing : OutboxEvent)
    (published : HandoffEvent) (db : Db) : Prop where
  requested : probeRow a.probeId a.eventId a.occurredAt 1 = .ok state
  probe : (db.probeState.get? state.probeId).any (·.requestedEventId = state.requestedEventId) = true
  drafted : (a.event state).draft.row now = .ok row
  event : db.outboxEvents.get? row.eventId = some existing
  same : sameDurableContentV0 existing row = true
  handoff : (db.handoff .v0).find state.requestedEventId = some published

theorem sameDurableContentV0_refl (row : OutboxEvent) : sameDurableContentV0 row row = true := by
  simp [sameDurableContentV0, isNotDistinctFrom]

variable {existing row : OutboxEvent}

/-- The columns that two requests for one probe may differ in. -/
theorem sameDurableContentV0_varying (same : sameDurableContentV0 existing row = true) :
    existing.envelope.content.occurredAt = row.envelope.content.occurredAt ∧
      existing.envelope.content.correlationId = row.envelope.content.correlationId ∧
      existing.envelope.content.causationId = row.envelope.content.causationId ∧
      existing.envelope.content.metadata = row.envelope.content.metadata := by
  simp only [sameDurableContentV0, Bool.and_eq_true, beq_iff_eq, decide_eq_true_eq, isNotDistinctFrom] at same
  obtain ⟨⟨⟨⟨⟨⟨⟨⟨_, time⟩, _⟩, correlation⟩, causation⟩, _⟩, _⟩, _⟩, metadata⟩ := same
  exact ⟨time, correlation, causation, metadata⟩

variable {now : Timestamp}

theorem Published.found {version : Version} {id : Nat} (published : Published version now eventId db id db') :
    ∃ row, (db'.handoff version).find eventId = some row := by
  cases published with
  | already found => exact ⟨_, found⟩
  | @appended event stored missing unused =>
    rw [Db.handoff_setHandoff_self]
    have present : (⟨(db.handoff version).lastHandoffId + 1, eventId, event.envelope, now⟩ : HandoffEvent)
        ∈ ((db.handoff version).append ⟨(db.handoff version).lastHandoffId + 1, eventId, event.envelope, now⟩).events :=
      (Table.mem_insert unused).2 (.inr rfl)
    have some_ : ((db.handoff version).append
        ⟨(db.handoff version).lastHandoffId + 1, eventId, event.envelope, now⟩).events.rows.find?
          (fun row => row.eventId = eventId) |>.isSome := by
      rw [List.find?_isSome]
      exact ⟨_, present, by simp⟩
    exact Option.isSome_iff_exists.1 some_

theorem requestV0_leaves (ran : (requestProbeV0 a clock).run db = .ok (eventId, db')) :
    ∃ state row existing published, Requested a clock.enqueued state row existing published db' ∧
      eventId = state.requestedEventId := by
  obtain ⟨state, _, id, db₁, db₂, created, probe, enqueued, published, same⟩ := requestV0_calls ran
  obtain ⟨row, drafted, _, event, agrees⟩ := enqueue_run enqueued
  obtain ⟨_, given, handoff⟩ := publish_run published
  cases given
  have kept : db'.probeState = db₂.probeState ∧ db'.outboxEvents = db₂.outboxEvents := by
    cases handoff with
    | already found => exact ⟨rfl, rfl⟩
    | appended stored missing unused => exact ⟨Db.probeState_setHandoff .., Db.outboxEvents_setHandoff ..⟩
  have stored : ∃ existing, db₂.outboxEvents.get? row.eventId = some existing ∧ sameDurableContentV0 existing row = true
      ∧ db₂.probeState = db₁.probeState := by
    cases event with
    | stored present => exact ⟨_, present, agrees _ present, rfl⟩
    | inserted absent =>
      exact ⟨row, (by rw [Table.get?_insert absent, if_pos rfl]), sameDurableContentV0_refl row, rfl⟩
  obtain ⟨existing, present, agree, same_probes⟩ := stored
  have found : (db₁.probeState.get? state.probeId).any (·.requestedEventId = state.requestedEventId) = true := by
    cases probe with
    | present found match_ => rw [found]; simp [match_]
    | inserted absent unrequested => rw [Table.get?_insert absent, if_pos rfl]; simp
  obtain ⟨row', listed⟩ := handoff.found
  refine ⟨state, row, existing, row', ⟨created, ?_, drafted, ?_, agree, listed⟩, same⟩
  · rw [kept.1, same_probes]
    exact found
  · rw [kept.2]
    exact present

/-- Only `available_at` depends on the time of an enqueue. -/
theorem EventDraft.row_at {d : EventDraft} {later : Timestamp} (drafted : d.row now = .ok row) :
    d.row later = .ok { row with availableAt := later } := by
  unfold EventDraft.row at drafted ⊢
  obtain ⟨eventId, identified, drafted⟩ := bind_ok drafted
  obtain ⟨content, stored, drafted⟩ := bind_ok drafted
  obtain ⟨maxAttempts, bounded, drafted⟩ := bind_ok drafted
  rw [identified, stored, bounded]
  split at drafted
  next checked =>
    split at drafted
    · cases drafted
    next attempts =>
      cases drafted
      show (if h : content.violation = none then _ else _) = _
      rw [dif_pos checked, if_neg attempts]
      rfl
  next => cases drafted

/-- The same request again: it finds everything and writes nothing. -/
theorem Requested.repeated {state : ProbeState} {published : HandoffEvent}
    (requested : Requested a now state row existing published db) :
    (requestProbeV0 a clock).run db = .ok (state.requestedEventId, db) := by
  have found : (db.probeState.get? state.probeId).isSome = true := by
    cases present : db.probeState.get? state.probeId with
    | none => exact absurd (present ▸ requested.probe) (by simp)
    | some _ => rfl
  have enqueued : (enqueueOutboxV0 (a.event state) clock.enqueued).run db = .ok (row.eventId, db) := by
    unfold enqueueOutboxV0 enqueue
    rw [EventDraft.row_at requested.drafted]
    rw [Program.run_insert, requested.event]
    dsimp only [Option.isSome_some]
    rw [if_pos rfl]
    have same : sameDurableContentV0 existing { row with availableAt := clock.enqueued } = true := requested.same
    rw [Program.run_query, requested.event, Option.any_some, if_pos same]
    rfl
  have handed : (publishRealtimeHandoffV0 clock.published (some state.requestedEventId)).run db
      = .ok (published.handoffId, db) := by
    unfold publishRealtimeHandoffV0 publishRealtimeHandoff
    rw [Program.run_lock, Program.run_query, requested.handoff]
    rfl
  unfold requestProbeV0
  rw [requested.requested]
  rw [Program.run_insert, if_pos found]
  rw [Program.run_query, if_pos requested.probe, Program.run_bind, enqueued]
  dsimp only
  rw [Program.run_bind, handed]
  rfl

/-- Another request for the probe that is accepted has the same time, correlation, causation and metadata. -/
theorem Requested.agrees {state : ProbeState} {published : HandoffEvent}
    (requested : Requested a now state row existing published db) (probeId : b.probeId = a.probeId)
    (eventId_ : b.eventId = a.eventId) (ran : (requestProbeV0 b clock).run db = .ok (eventId, db')) :
    b.occurredAt = a.occurredAt ∧ b.correlationId = a.correlationId ∧ b.causationId = a.causationId ∧
      b.metadata.getD .empty = a.metadata.getD .empty := by
  obtain ⟨other, _, _, db₁, db₂, created, probe, enqueued, _, _⟩ := requestV0_calls ran
  obtain ⟨first, drafted, _, _, agrees⟩ := enqueue_run enqueued
  have ids : other.probeId = state.probeId ∧ other.requestedEventId = state.requestedEventId := by
    have mine := requested.requested
    obtain ⟨p, hp, created⟩ := bind_ok created
    obtain ⟨e, he, created⟩ := bind_ok created
    obtain ⟨_, _, created⟩ := bind_ok created
    obtain ⟨p', hp', mine⟩ := bind_ok mine
    obtain ⟨e', he', mine⟩ := bind_ok mine
    obtain ⟨_, _, mine⟩ := bind_ok mine
    cases created
    cases mine
    have same_probe := notNull_ok hp
    have same_event := notNull_ok he
    rw [probeId, notNull_ok hp'] at same_probe
    rw [eventId_, notNull_ok he'] at same_event
    exact ⟨(Option.some.inj same_probe).symm, (Option.some.inj same_event).symm⟩
  have unchanged : db₁ = db := by
    cases probe with
    | present found same => rfl
    | inserted absent _ =>
      have found := requested.probe
      rw [← ids.1, absent] at found
      cases found
  subst unchanged
  have key : first.eventId = row.eventId := by
    have one := (EventDraft.fresh_row drafted).eventId
    have two := (EventDraft.fresh_row requested.drafted).eventId
    have same : some first.eventId = some row.eventId := one.symm.trans ((congrArg some ids.2).trans two)
    exact Option.some.inj same
  have agree : sameDurableContentV0 existing first = true := agrees existing (key ▸ requested.event)
  obtain ⟨time, correlation, causation, metadata⟩ := sameDurableContentV0_varying agree
  obtain ⟨time', correlation', causation', metadata'⟩ := sameDurableContentV0_varying requested.same
  have columns := EventDraft.columns (EventDraft.fresh_row drafted).content
  have columns' := EventDraft.columns (EventDraft.fresh_row requested.drafted).content
  refine ⟨?_, ?_, ?_, ?_⟩
  · exact columns.occurredAt.trans ((congrArg some (time.symm.trans time')).trans columns'.occurredAt.symm)
  · exact columns.correlationId.trans ((correlation.symm.trans correlation').trans columns'.correlationId.symm)
  · exact columns.causationId.trans ((causation.symm.trans causation').trans columns'.causationId.symm)
  · exact columns.metadata.trans ((metadata.symm.trans metadata').trans columns'.metadata.symm)

end Retry

end Liqi.Database

namespace Liqi.V0

open Postgres Liqi.Database

/-- Nanoseconds since the epoch. -/
abbrev OffsetDateTime := Int

/-- How the driver sends a time: in whole microseconds since 2000-01-01, without what is left over. -/
def toTimestamp (time : OffsetDateTime) : Timestamp := (time - 946684800000000000).tdiv 1000 + 946684800000000

structure CreateProbeRequest where
  clientProbeId : Uuid

structure RequestContext where
  requestId : Uuid
  traceId : Option String
  deriving DecidableEq

structure ProbeCommit where
  probeId : Uuid
  eventId : Uuid
  request : CreateProbeRequest
  requestContext : RequestContext
  committedAt : OffsetDateTime

structure CommittedProbe where
  probeId : Uuid
  eventId : Uuid
  committedAt : OffsetDateTime
  deriving DecidableEq

inductive ProbeStatus where
  | accepted
  deriving DecidableEq

structure CreateProbeResponse where
  probeId : Uuid
  eventId : Uuid
  status : ProbeStatus
  deriving DecidableEq

/-- `commit_probe` of a `PlatformPersistence` with state `σ`; the clock is the database's. -/
abbrev Commit (σ : Type) := RequestClock → ProbeCommit → σ → Except PersistenceError CommittedProbe × σ

def traceMetadata (traceId : Option String) : List (String × Jsonb) :=
  match traceId with
  | none => []
  | some traceId => [("trace_id", .string traceId)]

/-! ### `PostgresAuthorityStore` -/

/-- The arguments that `commit_probe` binds. -/
def ProbeCommit.arguments (commit : ProbeCommit) : RequestProbeV0 where
  probeId := some commit.probeId
  eventId := some commit.eventId
  occurredAt := some (toTimestamp commit.committedAt)
  correlationId := some commit.requestContext.requestId
  causationId := none
  metadata := some (.object (traceMetadata commit.requestContext.traceId))

def commitProbe : Commit Db := fun clock commit db =>
  match (requestProbeV0 commit.arguments clock).run db with
  | .error e => (.error (mapSqlx e), db)
  | .ok (committedEventId, db) =>
    if committedEventId ≠ commit.eventId then (.error .internal, db)
    else (.ok ⟨commit.probeId, committedEventId, commit.committedAt⟩, db)

/-! ### `FakePlatformStore` -/

structure FakeState where
  ready : Bool
  probesByClientId : Std.TreeMap Uuid CommittedProbe
  events : List EventEnvelope

/-- The event of a probe as the fake stores it. -/
def ProbeCommit.envelope (commit : ProbeCommit) : EventEnvelope where
  eventId := commit.eventId
  eventType := platformProbeEvent
  eventVersion := 0
  occurredAt := toTimestamp commit.committedAt
  producer := platformProbeProducer
  correlationId := some commit.requestContext.requestId
  causationId := none
  aggregateKey := "platform-probe:" ++ commit.probeId.text
  orderingKey := some ("platform-probe:" ++ commit.probeId.text)
  payload := .object [("probeId", .string commit.probeId.text)]
  metadata := traceMetadata commit.requestContext.traceId

def fakeCommitProbe : Commit FakeState := fun _ commit state =>
  if state.ready = false then (.error .notReady, state)
  else match state.probesByClientId[commit.request.clientProbeId]? with
    | some existing => (.ok existing, state)
    | none => match commit.envelope.validate 4096 with
      | .error _ => (.error .invalidOperation, state)
      | .ok () =>
        let stored : CommittedProbe := ⟨commit.probeId, commit.eventId, commit.committedAt⟩
        (.ok stored, { state with
          events := state.events ++ [commit.envelope]
          probesByClientId := state.probesByClientId.insert commit.request.clientProbeId stored })

/-! ### `PlatformProbeApplication` -/

/-- How a call under a deadline ends; one that is given up may have reached the store all the same. -/
inductive Fate where
  | answered
  | cancelled (reached : Bool)
  | exceeded (reached : Bool)
  deriving DecidableEq

variable {σ : Type}

def runWithDeadline {α : Type} (fate : Fate) (operation : σ → Except ApplicationError α × σ) (state : σ) :
    Except ApplicationError α × σ :=
  match fate with
  | .answered => operation state
  | .cancelled reached => (.error .cancelled, if reached then (operation state).2 else state)
  | .exceeded reached => (.error .deadlineExceeded, if reached then (operation state).2 else state)

/-- One call of `create`: its context, the times it reads and how it ends. -/
structure CreateCall where
  context : RequestContext
  now : OffsetDateTime
  clock : RequestClock
  fate : Fate

section Create

variable (newV5 : Uuid → Uuid) (commit : Commit σ)

/-- `create`; `newV5` is `Uuid::new_v5` in the namespace of the probe events. -/
def create (request : CreateProbeRequest) (call : CreateCall) (state : σ) :
    Except ApplicationError CreateProbeResponse × σ :=
  let probeId := request.clientProbeId
  let probe : ProbeCommit := ⟨probeId, newV5 probeId, request, call.context, call.now⟩
  let (committed, state) := runWithDeadline call.fate
    (fun state => ((commit call.clock probe state).1.mapError PersistenceError.toApplication,
      (commit call.clock probe state).2)) state
  (committed.map fun committed => ⟨committed.probeId, committed.eventId, .accepted⟩, state)

/-- Calls one after the other. -/
def createAll (request : CreateProbeRequest) : List CreateCall → σ →
    List (Except ApplicationError CreateProbeResponse) × σ
  | [], state => ([], state)
  | call :: calls, state =>
    let (answer, state) := create newV5 commit request call state
    let (answers, state) := createAll request calls state
    (answer :: answers, state)

end Create

/-- The call repeats what the database compares: the time, as far as it stores it, the request id and the trace. -/
def CreateCall.Repeats (call first : CreateCall) : Prop :=
  toTimestamp call.now = toTimestamp first.now ∧ call.context = first.context

instance (call first : CreateCall) : Decidable (call.Repeats first) := by
  unfold CreateCall.Repeats
  infer_instance

section Answers

variable {newV5 : Uuid → Uuid} {commit : Commit σ} {request : CreateProbeRequest} {call first : CreateCall}
  {response : CreateProbeResponse}

/-- What `create` commits. -/
def CreateCall.probe (newV5 : Uuid → Uuid) (request : CreateProbeRequest) (call : CreateCall) : ProbeCommit :=
  ⟨request.clientProbeId, newV5 request.clientProbeId, request, call.context, call.now⟩

variable {state : σ}

/-- Only a call that was answered returns a response. -/
theorem create_ok (created : (create newV5 commit request call state).1 = .ok response) :
    call.fate = .answered ∧ ∃ committed, (commit call.clock (call.probe newV5 request) state).1 = .ok committed ∧
      response = ⟨committed.probeId, committed.eventId, .accepted⟩ ∧
      (create newV5 commit request call state).2 = (commit call.clock (call.probe newV5 request) state).2 := by
  cases fate : call.fate with
  | answered =>
    simp only [create, fate, runWithDeadline] at created ⊢
    change (((commit call.clock (call.probe newV5 request) state).1.mapError _).map _) = _ at created
    cases result : (commit call.clock (call.probe newV5 request) state).1 with
    | error e =>
      rw [result] at created
      cases created
    | ok committed =>
      rw [result] at created
      cases created
      exact ⟨trivial, committed, rfl, rfl, rfl⟩
  | cancelled | exceeded =>
    simp only [create, fate, runWithDeadline] at created
    cases created

/-- Whatever its fate, a call changes the state as its commit does or not at all. -/
theorem create_state (state : σ) : (create newV5 commit request call state).2 = state ∨
    (create newV5 commit request call state).2 = (commit call.clock (call.probe newV5 request) state).2 := by
  cases fate : call.fate with
  | answered =>
    simp only [create, fate, runWithDeadline]
    exact .inr rfl
  | cancelled reached | exceeded reached =>
    simp only [create, fate, runWithDeadline]
    cases reached with
    | true => exact .inr rfl
    | false => exact .inl rfl

variable {committed : CommittedProbe}

theorem create_answered (fate : call.fate = .answered)
    (result : (commit call.clock (call.probe newV5 request) state).1 = .ok committed) :
    (create newV5 commit request call state).1 = .ok ⟨committed.probeId, committed.eventId, .accepted⟩ := by
  simp only [create, fate, runWithDeadline]
  change (((commit call.clock (call.probe newV5 request) state).1.mapError _).map _) = _
  rw [result]
  rfl

theorem traceMetadata_inj {a b : Option String} (same : traceMetadata a = traceMetadata b) : a = b := by
  cases a with
  | none =>
    cases b with
    | none => rfl
    | some b => cases same
  | some a =>
    cases b with
    | none => cases same
    | some b =>
      simp only [traceMetadata, List.cons.injEq, Prod.mk.injEq, Jsonb.string.injEq] at same
      rw [same.1.2]

/-- What a successful call leaves in the database. -/
theorem commitProbe_ok {clock : RequestClock} {probe : ProbeCommit} {db : Db}
    (result : (commitProbe clock probe db).1 = .ok committed) :
    committed.probeId = probe.probeId ∧ committed.eventId = probe.eventId ∧
      (requestProbeV0 probe.arguments clock).run db = .ok (probe.eventId, (commitProbe clock probe db).2) := by
  unfold commitProbe at result ⊢
  cases ran : (requestProbeV0 probe.arguments clock).run db with
  | error e =>
    rw [ran] at result
    cases result
  | ok done =>
    obtain ⟨committedEventId, after⟩ := done
    rw [ran] at result
    dsimp only at result ⊢
    split_ifs at result with other
    cases result
    have same : committedEventId = probe.eventId := not_not.1 other
    rw [if_neg other]
    exact ⟨rfl, same, by rw [same]⟩

variable {db : Db}

/-- **A later call.** It leaves the database as it is, and it is accepted exactly if it repeats the first. -/
theorem commitProbe_later (created : (create newV5 commitProbe request first db).1 = .ok response)
    (call : CreateCall) :
    let after := (create newV5 commitProbe request first db).2
    (commitProbe call.clock (call.probe newV5 request) after).2 = after ∧
      (call.Repeats first → (commitProbe call.clock (call.probe newV5 request) after).1
        = .ok ⟨response.probeId, response.eventId, call.now⟩) ∧
      (∀ committed, (commitProbe call.clock (call.probe newV5 request) after).1 = .ok committed → call.Repeats first) := by
  intro after
  obtain ⟨_, committed, result, rfl, stored⟩ := create_ok created
  obtain ⟨probeId, eventId, ran⟩ := commitProbe_ok result
  rw [← stored] at ran
  obtain ⟨state, row, existing, published, requested, sameEvent⟩ := requestV0_leaves ran
  have agrees (again : Uuid) (db' : Db)
      (accepted : (requestProbeV0 (call.probe newV5 request).arguments call.clock).run after = .ok (again, db')) :
      call.Repeats first := by
    obtain ⟨time, correlation, _, metadata⟩ :=
      requested.agrees (b := (call.probe newV5 request).arguments) rfl rfl accepted
    have traces : traceMetadata call.context.traceId = traceMetadata first.context.traceId := Jsonb.object.inj metadata
    have contexts : call.context = first.context := by
      have id : call.context.requestId = first.context.requestId := Option.some.inj correlation
      have trace := traceMetadata_inj traces
      cases one : call.context
      cases two : first.context
      rw [one, two] at id trace
      simp only at id trace
      rw [id, trace]
    exact ⟨Option.some.inj time, contexts⟩
  have accepts (repeats : call.Repeats first) :
      (requestProbeV0 (call.probe newV5 request).arguments call.clock).run after
        = .ok (newV5 request.clientProbeId, after) := by
    have same : (call.probe newV5 request).arguments = (first.probe newV5 request).arguments := by
      unfold ProbeCommit.arguments CreateCall.probe
      rw [repeats.1, repeats.2]
    rw [same, requested.repeated, ← sameEvent]
    rfl
  refine ⟨?_, ?_, ?_⟩
  · unfold commitProbe
    cases ran : (requestProbeV0 (call.probe newV5 request).arguments call.clock).run after with
    | error e => rfl
    | ok done =>
      rw [accepts (agrees done.1 done.2 ran)] at ran
      cases ran
      exact apply_ite Prod.snd _ _ _ |>.trans (ite_self _)
  · intro repeats
    unfold commitProbe
    rw [accepts repeats]
    dsimp only
    rw [if_neg (by simp [CreateCall.probe]), probeId, eventId]
    rfl
  · intro other accepted
    obtain ⟨_, _, ran⟩ := commitProbe_ok accepted
    exact agrees _ _ ran

/-- What the fake has committed is in its record. -/
theorem fakeCommitProbe_ok {clock : RequestClock} {probe : ProbeCommit} {fake : FakeState}
    (result : (fakeCommitProbe clock probe fake).1 = .ok committed) :
    (fakeCommitProbe clock probe fake).2.ready = true ∧
      (fakeCommitProbe clock probe fake).2.probesByClientId[probe.request.clientProbeId]? = some committed := by
  unfold fakeCommitProbe at result ⊢
  split_ifs at result ⊢ with closed
  have ready : fake.ready = true := by simpa using closed
  cases found : fake.probesByClientId[probe.request.clientProbeId]? with
  | some existing =>
    rw [found] at result
    cases result
    exact ⟨ready, found⟩
  | none =>
    rw [found] at result
    cases valid : probe.envelope.validate 4096 with
    | error e =>
      rw [valid] at result
      cases result
    | ok _ =>
      rw [valid] at result
      cases result
      refine ⟨ready, ?_⟩
      rw [Std.TreeMap.getElem?_insert, if_pos Std.ReflOrd.compare_self]

/-- The fake answers a later call from its record. -/
theorem fakeCommitProbe_later {fake : FakeState}
    (created : (create newV5 fakeCommitProbe request first fake).1 = .ok response) (call : CreateCall) :
    let after := (create newV5 fakeCommitProbe request first fake).2
    ∃ committed, fakeCommitProbe call.clock (call.probe newV5 request) after = (.ok committed, after) ∧
      response = ⟨committed.probeId, committed.eventId, .accepted⟩ := by
  intro after
  obtain ⟨_, committed, result, rfl, stored⟩ := create_ok created
  obtain ⟨ready, recorded⟩ := fakeCommitProbe_ok result
  rw [← stored] at ready recorded
  refine ⟨committed, ?_, rfl⟩
  unfold fakeCommitProbe
  rw [if_neg (by rw [ready]; decide)]
  change after.probesByClientId[(call.probe newV5 request).request.clientProbeId]? = some committed at recorded
  rw [recorded]

/-- The answered calls got the response. -/
def AllAnswered (response : CreateProbeResponse) (calls : List CreateCall)
    (answers : List (Except ApplicationError CreateProbeResponse)) : Prop :=
  List.Forall₂ (fun call answer => call.fate = .answered → answer = .ok response) calls answers

/-- Calls that leave the state as it is are answered one by one from it. -/
theorem createAll_of_kept (kept : ∀ call : CreateCall, (create newV5 commit request call state).2 = state)
    (calls : List CreateCall) :
    createAll newV5 commit request calls state
      = (calls.map fun call => (create newV5 commit request call state).1, state) := by
  induction calls with
  | nil => rfl
  | cons call calls ih =>
    unfold createAll
    dsimp only
    rw [kept call, ih]
    rfl

theorem allAnswered_map (answer : CreateCall → Except ApplicationError CreateProbeResponse) (calls : List CreateCall) :
    AllAnswered response calls (calls.map answer)
      ↔ ∀ call ∈ calls, call.fate = .answered → answer call = .ok response := by
  unfold AllAnswered
  rw [List.forall₂_map_right_iff, List.forall₂_same]

end Answers

/-- **Retries.** After the first call that succeeds, the later calls for the same probe change nothing. The fake
answers all of them with the same ids; the database does so exactly for the calls that repeat the time, the request
id and the trace id of the first. -/
theorem create_idempotent_iff (newV5 : Uuid → Uuid) (request : CreateProbeRequest) (first : CreateCall)
    (later : List CreateCall) (db : Db) (response : CreateProbeResponse)
    (created : (create newV5 commitProbe request first db).1 = .ok response) :
    let after := (create newV5 commitProbe request first db).2
    let retried := createAll newV5 commitProbe request later after
    (AllAnswered response later retried.1 ∧ retried.2.probeState = after.probeState ∧
      retried.2.outboxEvents = after.outboxEvents ∧ retried.2.handoffV0.events = after.handoffV0.events ↔
      ∀ call ∈ later, call.fate = .answered → call.Repeats first) ∧
    (∀ (fake : FakeState) (response : CreateProbeResponse),
      (create newV5 fakeCommitProbe request first fake).1 = .ok response →
      let after := (create newV5 fakeCommitProbe request first fake).2
      AllAnswered response later (createAll newV5 fakeCommitProbe request later after).1 ∧
        (createAll newV5 fakeCommitProbe request later after).2 = after) := by
  intro after retried
  refine ⟨?_, ?_⟩
  · have kept (call : CreateCall) : (create newV5 commitProbe request call after).2 = after :=
      (create_state after).elim id fun same => same.trans (commitProbe_later created call).1
    have all : retried = (later.map fun call => (create newV5 commitProbe request call after).1, after) :=
      createAll_of_kept kept later
    have one (call : CreateCall) (fate : call.fate = .answered) :
        (create newV5 commitProbe request call after).1 = .ok response ↔ call.Repeats first := by
      obtain ⟨_, accepted, repeats⟩ := commitProbe_later created call
      constructor
      · intro answered
        obtain ⟨_, committed, result, _⟩ := create_ok answered
        exact repeats committed result
      · intro same
        exact create_answered fate (accepted same)
    rw [all, allAnswered_map]
    constructor
    · rintro ⟨answers, _⟩ call member fate
      exact (one call fate).1 (answers call member fate)
    · intro repeats
      exact ⟨fun call member fate => (one call fate).2 (repeats call member fate), rfl, rfl, rfl⟩
  · intro fake response faked after
    have kept (call : CreateCall) : (create newV5 fakeCommitProbe request call after).2 = after := by
      obtain ⟨committed, same, _⟩ := fakeCommitProbe_later faked call
      exact (create_state after).elim id fun moved => moved.trans (congrArg Prod.snd same)
    rw [createAll_of_kept kept later, allAnswered_map]
    refine ⟨fun call _ fate => ?_, rfl⟩
    obtain ⟨committed, same, rfl⟩ := fakeCommitProbe_later faked call
    exact create_answered fate (congrArg Prod.fst same)

/-! ### Two calls for one probe -/

def sampleRequest : CreateProbeRequest := ⟨sampleUuid 1⟩

/-- A call at the given millisecond, under one request id. -/
def sampleCall (millisecond : Int) : CreateCall where
  context := ⟨sampleUuid 3, none⟩
  now := millisecond * 1000000
  clock := ⟨millisecond * 1000, millisecond * 1000, millisecond * 1000⟩
  fate := .answered

def sampleResponse : CreateProbeResponse := ⟨sampleUuid 1, sampleUuid 2, .accepted⟩

/-- The answers to two calls of which the second comes the given milliseconds after the first. -/
def sampleAnswers {σ : Type} (commit : Commit σ) (state : σ) (later : Int) :
    List (Except ApplicationError CreateProbeResponse) :=
  (createAll (fun _ => sampleUuid 2) commit sampleRequest [sampleCall 0, sampleCall later] state).1

/-- A retry a millisecond later is a conflict for the database, and the same probe for the fake. -/
theorem retry_conflicts :
    sampleAnswers commitProbe .migrated 1 = [.ok sampleResponse, .error .conflict] ∧
      sampleAnswers fakeCommitProbe ⟨true, ∅, []⟩ 1 = [.ok sampleResponse, .ok sampleResponse] := by
  decide +kernel

theorem repeat_accepted :
    AllAnswered sampleResponse [sampleCall 0]
      (createAll (fun _ => sampleUuid 2) commitProbe sampleRequest [sampleCall 0]
        (create (fun _ => sampleUuid 2) commitProbe sampleRequest (sampleCall 0) .migrated).2).1 := by
  have created : (create (fun _ => sampleUuid 2) commitProbe sampleRequest (sampleCall 0) .migrated).1
      = .ok sampleResponse := by decide +kernel
  refine ((create_idempotent_iff (fun _ => sampleUuid 2) sampleRequest (sampleCall 0) [sampleCall 0] .migrated
    sampleResponse created).1.2 ?_).1
  intro call member _
  cases List.mem_singleton.1 member
  exact ⟨rfl, rfl⟩

end Liqi.V0
