import Liqi.Lockstep
import Liqi.Persistence.CommandArguments

/-!
# The test double against the database

`Fake` keeps maps where the database keeps tables. `Represents` says which maps stand for which tables; both sides
keep it as long as a call stays within what the adapter can pass on (`Fake.Fits`), and answer alike. A cursor beyond
`bigint`, a deadline beyond the year 9999, a trace context with a NUL and an exhausted handoff counter are errors of
the adapter that the double does not have.
-/

namespace Liqi.Persistence

open Postgres Liqi.Database Liqi.Runtime Liqi.Realtime Liqi.Web

/-- The keys of the commands. -/
def commandKeys (calls : List Call) : Set String :=
  {key | ∃ request, Call.requestProbe request ∈ calls ∧ request.command.idempotencyKey = key}

/-- The command finds neither its key nor its probe. -/
def Fake.Creates (fake : Fake) (command : ProbeCommand) : Prop :=
  fake.idempotency (identity command) = none ∧ fake.probes command.probeId = none

/-- What the adapter passes on to the database. -/
def Fake.Fits (fake : Fake) : Call → Prop
  | .requestProbe request => RuntimeAdapter.InUnixRange request.command.envelope.deadline ∧
    request.command.envelope.traceContext.storable = true ∧
    (fake.Creates request.command → fake.nextHandoff ≤ bigintMax)
  | .observeProbe _ _ => True
  | .readHandoff afterCursor _ => afterCursor ≤ maxBigint

/-! ## The double and the database -/

/-- The outcome that stands for a probe, which is requested and whose event waits. -/
structure SameProbe (db : Db) (outcome : Accepted) (state : ProbeState) : Prop where
  outcome : outcome = ⟨some state.probeId.text, state.requestedEventId.text, 1, "accepted"⟩
  status : state.status = .requested
  version : state.aggregateVersion = 1
  event : ∃ event, db.outboxEvents.get? state.requestedEventId = some event ∧ event.state = .pending ∧
    event.envelope.content.protocolVersion = 1

/-- The record that stands for a record. -/
structure SameRecord (entry : FakeRecord) (record : IdempotencyRecord) : Prop where
  fingerprint : entry.fingerprint = record.requestFingerprint
  outcome : ∃ receipt, record.receipt = .ok receipt ∧ entry.outcome = RuntimeAdapter.accepted receipt

/-- The double stands for the database after commands with the keys `keys`. -/
structure Represents (digests : Digests) (keys : Set String) (fake : Fake) (db : Db) : Prop where
  traced : Traced db
  unpruned : db.retainedAfterHandoffId = 0
  idle : fake.effects = ∅ ∧ db.probeEffects = .empty
  counter : fake.nextHandoff = db.handoffV1.lastHandoffId + 1
  probes : ∀ probeId : Uuid, Option.Rel (SameProbe db) (fake.probes probeId.text) (db.probeState.get? probeId)
  records : ∀ key, Option.Rel SameRecord (fake.idempotency key) (db.commandIdempotency.get? key)
  log : fake.events.map Fake.row = db.handoffV1.events.rows.map RuntimeAdapter.handoffRow
  ordered : db.handoffV1.events.rows.Pairwise fun row later => row.handoffId < later.handoffId
  once : (db.handoffV1.events.rows.map HandoffEvent.eventId).Nodup
  derived : ∀ record ∈ db.commandIdempotency, record.scope = probeScope ∧ record.idempotencyKey ∈ keys ∧
    record.eventId = eventOf digests record.idempotencyKey
  requested : ∀ state ∈ db.probeState, ∃ record ∈ db.commandIdempotency, record.eventId = state.requestedEventId

theorem represents_initial (digests : Digests) (keys : Set String) : Represents digests keys .initial .migrated where
  traced := ⟨Table.forall_empty,
    Table.forall_empty, Table.forall_empty⟩
  unpruned := rfl
  idle := ⟨rfl, rfl⟩
  counter := rfl
  probes := fun _ => .none
  records := fun _ => .none
  log := rfl
  ordered := List.Pairwise.nil
  once := List.nodup_nil
  derived := Table.forall_empty
  requested := Table.forall_empty

section Steps

variable {digests : Digests} {keys : Set String} {fake : Fake} {db : Db} {request : Request} {probeId : Uuid}
  {a : RequestProbeV1}

/-- Commands with other keys have other event ids. -/
theorem Represents.unanswered (represents : Represents digests keys fake db)
    (distinct : Set.InjOn (eventOf digests) keys) {key : String} (listed : key ∈ keys)
    (unrecorded : db.commandIdempotency.get? (probeScope, key) = none) :
    ∀ record ∈ db.commandIdempotency, record.eventId ≠ eventOf digests key := by
  intro record stored same
  obtain ⟨scope, known, derived⟩ := represents.derived record stored
  rw [derived] at same
  have sameKey := distinct known listed same
  refine Table.get?_eq_none.1 unrecorded record stored ?_
  rw [IdempotencyRecord.key, scope, sameKey]

/-- The state that a first command inserts. -/
def Request.state (digests : Digests) (request : Request) (probeId : Uuid) : ProbeState :=
  ⟨probeId, eventOf digests request.command.idempotencyKey, .requested, request.adapter.occurredAt, 1⟩

theorem Represents.first (represents : Represents digests keys fake db) (distinct : Set.InjOn (eventOf digests) keys)
    (passes : request.Passes digests probeId a) (listed : request.command.idempotencyKey ∈ keys)
    (unrecorded : db.commandIdempotency.get? (probeScope, request.command.idempotencyKey) = none)
    (absent : db.probeState.get? probeId = none) :
    ∃ row, FirstCommand a request.identity request.adapter.clock (request.state digests probeId) row db ∧
      ProbeEvent (request.state digests probeId) row := by
  have other := represents.unanswered distinct listed unrecorded
  obtain ⟨row, drafted, event⟩ := @Storable.row a (request.state digests probeId) passes.storable rfl
    request.adapter.clock.enqueued
  refine ⟨row, ⟨passes.identity, rfl, unrecorded, ?_, drafted, event.realtime, absent, ?_, other, represents.traced⟩,
    event⟩
  · rw [passes.probeId, passes.eventId, passes.occurredAt]
    rfl
  · rw [probeOfEvent_eq_none]
    intro state stored same
    obtain ⟨record, recorded, answered⟩ := represents.requested state stored
    exact other record recorded (answered.trans same)

/-- A probe's event stays where it is when another one is inserted. -/
theorem SameProbe.create {outcome : Accepted} {state other : ProbeState} {row : OutboxEvent} {id : CommandIdentity}
    {clock : RequestClock} (same : SameProbe db outcome state) (free : db.outboxEvents.get? row.eventId = none) :
    SameProbe (db.create id clock other row) outcome state := by
  obtain ⟨event, stored, waiting⟩ := same.event
  refine ⟨same.outcome, same.status, same.version, event, ?_, waiting⟩
  show (db.outboxEvents.insert row).get? state.requestedEventId = some event
  rw [Table.get?_insert free, if_neg, stored]
  intro here
  rw [here, free] at stored
  cases stored

/-- A created probe on both sides. -/
theorem Represents.create (represents : Represents digests keys fake db) (passes : request.Passes digests probeId a)
    (listed : request.command.idempotencyKey ∈ keys) {row : OutboxEvent}
    (first : FirstCommand a request.identity request.adapter.clock (request.state digests probeId) row db)
    (event : ProbeEvent (request.state digests probeId) row) :
    Represents digests keys (fake.create digests request.fake request.command)
      (db.create request.identity request.adapter.clock (request.state digests probeId) row) := by
  let published : HandoffEvent := ⟨db.handoffV1.lastHandoffId + 1, eventOf digests request.command.idempotencyKey,
    row.envelope, request.adapter.clock.published⟩
  let record := idempotencyRow request.identity (request.state digests probeId) (db.handoffV1.lastHandoffId + 1)
    request.adapter.clock.recorded
  have unrecorded : db.commandIdempotency.get? record.key = none := first.unrecorded
  have rows : (db.handoffV1.events.insert published).rows = db.handoffV1.events.rows ++ [published] :=
    Table.insert_rows represents.traced.unused
  refine ⟨represents.traced.create first.absent first.free first.eventId, represents.unpruned, represents.idle, ?_, ?_,
    ?_, ?_, ?_, ?_, ?_, ?_⟩
  · show fake.nextHandoff + 1 = _
    rw [represents.counter]
    rfl
  · have stored : (db.outboxEvents.insert row).get? (request.state digests probeId).requestedEventId = some row := by
      rw [← first.eventId, Table.get?_insert first.free, if_pos rfl]
    show ∀ other : Uuid, Option.Rel _ (Function.update fake.probes request.command.probeId _ other.text)
      ((db.probeState.insert (request.state digests probeId)).get? other)
    rw [passes.named]
    exact Table.rel_insert first.absent (fun _ _ => Uuid.text_injective) represents.probes
      (fun _ _ same => same.create first.free) ⟨passes.outcome, rfl, rfl, row, stored, event.pending, event.protocol⟩
  · have identity : Fake.identity request.command = record.key := by
      rw [Fake.identity, passes.scope]
      rfl
    show ∀ key, Option.Rel _ (Function.update fake.idempotency (Fake.identity request.command) _ key)
      ((db.commandIdempotency.insert record).get? key)
    rw [identity]
    exact Table.rel_insert unrecorded Function.injective_id represents.records (fun _ _ => id)
      ⟨rfl, _, receipt_idempotencyRow .., passes.outcome⟩
  · have last : Fake.row (Fake.event digests request.fake request.command fake.nextHandoff)
        = RuntimeAdapter.handoffRow published := by
      rw [Fake.row, RuntimeAdapter.handoffRow, event.eventType, event.aggregateKey, event.payload]
      simp only [Fake.event, eventId_text passes.scope, passes.named, represents.counter]
      rfl
    show (fake.events ++ [_]).map _ = (db.handoffV1.events.insert published).rows.map _
    rw [rows, List.map_append, List.map_append, represents.log, List.map_singleton, List.map_singleton, last]
  · show (db.handoffV1.events.insert published).rows.Pairwise _
    rw [rows, List.pairwise_append]
    refine ⟨represents.ordered, List.pairwise_singleton _ _, fun earlier stored last listed => ?_⟩
    obtain rfl := List.mem_singleton.1 listed
    exact Nat.lt_succ_of_le (represents.traced.numbered earlier stored)
  · show ((db.handoffV1.events.insert published).rows.map HandoffEvent.eventId).Nodup
    have missing := HandoffLog.find_eq_none.1 first.unpublished
    rw [rows, List.map_append, List.map_singleton, List.nodup_append]
    refine ⟨represents.once, List.nodup_singleton _, fun earlier listed last same => ?_⟩
    obtain ⟨other, stored, rfl⟩ := List.mem_map.1 listed
    obtain rfl := List.mem_singleton.1 same
    exact missing other stored
  · intro other stored
    rcases (Table.mem_insert unrecorded).1 stored with old | rfl
    · exact represents.derived other old
    · exact ⟨rfl, listed, rfl⟩
  · intro state stored
    rcases (Table.mem_insert first.absent).1 stored with old | rfl
    · obtain ⟨answered, recorded, same⟩ := represents.requested state old
      exact ⟨answered, Table.mem_insert_of_mem recorded, same⟩
    · exact ⟨record, (Table.mem_insert unrecorded).2 (.inr rfl), rfl⟩

/-! ### Commands -/

theorem Represents.identity (represents : Represents digests keys fake db) (passes : request.Passes digests probeId a) :
    Option.Rel SameRecord (fake.idempotency (Fake.identity request.command))
      (db.commandIdempotency.get? request.identity.key) := by
  have same : Fake.identity request.command = request.identity.key := by
    rw [Fake.identity, passes.scope]
    rfl
  rw [same]
  exact represents.records _

/-- A command that can be passed on is answered alike. -/
theorem Represents.requests (represents : Represents digests keys fake db) (distinct : Set.InjOn (eventOf digests) keys)
    (passes : request.Passes digests probeId a) (listed : request.command.idempotencyKey ∈ keys)
    (room : fake.Creates request.command → fake.nextHandoff ≤ bigintMax) :
    let settled := RuntimeAdapter.settled db (RuntimeAdapter.answer ((requestProbeV1 a request.adapter.clock).run db))
    (fake.requestProbe digests request.fake request.command).1 = settled.1 ∧
      Represents digests keys (fake.requestProbe digests request.fake request.command).2 settled.2 := by
  have recorded := represents.identity passes
  rcases found : fake.idempotency (Fake.identity request.command) with _ | entry
  · have unrecorded := Table.rel_none (found ▸ recorded)
    have probe := represents.probes probeId
    rw [← passes.named] at probe
    simp only [Fake.requestProbe, found, Fake.createProbe]
    rcases known : fake.probes request.command.probeId with _ | outcome
    · obtain ⟨row, first, event⟩ := represents.first distinct passes listed unrecorded (Table.rel_none (known ▸ probe))
      have counted := room ⟨found, known⟩
      rw [represents.counter] at counted
      rw [first.run, if_pos counted]
      exact ⟨congrArg Except.ok passes.outcome, represents.create passes listed first event⟩
    · obtain ⟨state, stored, same⟩ := Table.rel_some (known ▸ probe)
      have named : a.probeId.bind db.probeState.get? = some state := by
        rw [passes.probeId]
        exact stored
      have other : (state.aggregateVersion : Int) ≠ request.identity.expectedVersion := by
        rw [same.version]
        exact Int.one_ne_zero
      rw [request_of_stale passes.identity unrecorded named other]
      exact ⟨rfl, represents⟩
  · obtain ⟨record, stored, same⟩ := Table.rel_some (found ▸ recorded)
    obtain ⟨receipt, answer, outcome⟩ := same.outcome
    simp only [Fake.requestProbe, found]
    by_cases equal : entry.fingerprint = request.command.requestFingerprint
    · rw [if_pos equal, request_of_record passes.identity stored (same.fingerprint.symm.trans equal) answer, outcome]
      exact ⟨rfl, represents⟩
    · rw [if_neg equal, request_of_reused passes.identity stored fun known => equal (same.fingerprint.trans known)]
      exact ⟨rfl, represents⟩

/-- The double fails a command only for its key or its probe. -/
theorem Fake.requestProbe_ne {readings : FakeReadings} {command : ProbeCommand} {failure : Failure}
    (conflict : failure ≠ .failed (.persistence .idempotencyConflict))
    (stale : failure ≠ .failed (.persistence .staleAggregateVersion)) :
    (fake.requestProbe digests readings command).1 ≠ .error failure := by
  unfold Fake.requestProbe Fake.createProbe
  intro same
  split at same
  · split at same
    · cases same
    · cases same
      exact conflict rfl
  · split at same
    · cases same
      exact stale rfl
    · cases same

/-- A command that cannot be passed on is answered otherwise. -/
theorem Represents.requests_differ (represents : Represents digests keys fake db)
    (distinct : Set.InjOn (eventOf digests) keys) (passes : request.Passes digests probeId a)
    (listed : request.command.idempotencyKey ∈ keys) (misfit : ¬ fake.Fits (.requestProbe request)) :
    (fake.requestProbe digests request.fake request.command).1
      ≠ (RuntimeAdapter.settled db (RuntimeAdapter.requestProbe digests request.adapter request.command db)).1 := by
  have refused : ∃ failure, RuntimeAdapter.requestProbe digests request.adapter request.command db = .error failure ∧
      failure ≠ .failed (.persistence .idempotencyConflict) ∧
      failure ≠ .failed (.persistence .staleAggregateVersion) := by
    by_cases range : RuntimeAdapter.InUnixRange request.command.envelope.deadline
    swap
    · exact ⟨.invalidUnixTime, if_neg range, nofun, nofun⟩
    cases storable : request.command.envelope.traceContext.storable with
    | false => exact ⟨_, passes.unbound range storable db, nofun, nofun⟩
    | true =>
      have full : ¬ (fake.Creates request.command → fake.nextHandoff ≤ bigintMax) :=
        fun room => misfit ⟨range, storable, room⟩
      obtain ⟨⟨unrecorded, unknown⟩, full⟩ := Classical.not_imp.1 full
      have probe := represents.probes probeId
      rw [← passes.named, unknown] at probe
      have recorded := represents.identity passes
      rw [unrecorded] at recorded
      obtain ⟨row, first, _⟩ := represents.first distinct passes listed (Table.rel_none recorded) (Table.rel_none probe)
      rw [represents.counter] at full
      refine ⟨.failed (.persistence .databaseError), ?_, nofun, nofun⟩
      rw [passes.answered range storable, first.run, if_neg full]
      rfl
  obtain ⟨failure, failed, conflict, stale⟩ := refused
  rw [failed]
  exact Fake.requestProbe_ne conflict stale

/-! ### Observations and reads -/

/-- A join with rows that name an event at most once. -/
theorem leftJoin_filter_of_nodup {rows : List HandoffEvent} (once : (rows.map HandoffEvent.eventId).Nodup)
    (eventId : Uuid) : ∃ handoff, leftJoin (rows.filter (·.eventId = eventId)) = [handoff] := by
  induction rows with
  | nil => exact ⟨none, rfl⟩
  | cons row rows ih =>
    rw [List.map_cons, List.nodup_cons] at once
    by_cases here : row.eventId = eventId
    · have others : rows.filter (·.eventId = eventId) = [] := by
        rw [List.filter_eq_nil_iff]
        intro other listed same
        exact once.1 (List.mem_map.2 ⟨other, listed, (of_decide_eq_true same).trans here.symm⟩)
      refine ⟨some row, ?_⟩
      rw [List.filter_cons_of_pos (by simpa using here), others]
      rfl
    · rw [List.filter_cons_of_neg (by simpa using here)]
      exact ih once.2

/-- The row of an observed probe. -/
theorem Represents.observations (represents : Represents digests keys fake db) {outcome : Accepted} {state : ProbeState}
    {event : OutboxEvent} (same : SameProbe db outcome state) (pending : event.state = .pending) :
    ∃ cursor, observations state event db
      = [⟨state.probeId, event.eventId, 1, "requested", "pending", false, cursor, false⟩] := by
  obtain ⟨handoff, joined⟩ := leftJoin_filter_of_nodup represents.once event.eventId
  refine ⟨handoff.map HandoffEvent.handoffId, ?_⟩
  unfold Database.observations
  rw [joined, represents.idle.2, same.version, same.status, pending]
  rfl

theorem Represents.observes (represents : Represents digests keys fake db) (probeId eventId : Uuid) :
    fake.observeProbe probeId.text eventId.text = RuntimeAdapter.observeProbe probeId.text eventId.text db := by
  have query : RuntimeAdapter.observeQuery probeId.text eventId.text db
      = observeProbeV1 (some probeId) (some eventId) db := by
    unfold RuntimeAdapter.observeQuery
    rw [castUuid_text, castUuid_text]
    rfl
  have probe := represents.probes probeId
  unfold RuntimeAdapter.observeProbe Fake.observeProbe
  rw [query]
  rcases known : fake.probes probeId.text with _ | outcome
  · have absent : (some probeId).bind db.probeState.get? = none := Table.rel_none (known ▸ probe)
    unfold observeProbeV1
    rw [absent]
  · obtain ⟨state, stored, same⟩ := Table.rel_some (known ▸ probe)
    have found : (some probeId).bind db.probeState.get? = some state := stored
    have named : state.probeId = probeId := (Table.get?_eq_some.1 stored).2
    obtain ⟨event, present, pending, protocol⟩ := same.event
    have identified : event.eventId = state.requestedEventId := (Table.get?_eq_some.1 present).2
    unfold observeProbeV1
    rw [found, same.outcome]
    dsimp only
    by_cases here : state.requestedEventId = eventId
    · subst here
      obtain ⟨cursor, row⟩ := represents.observations same pending
      have known : (sqlNe (some state.requestedEventId) (some state.requestedEventId)).holds = false :=
        not_sqlNe_some.2 (.inr rfl)
      have joined : (sqlEq (some state.requestedEventId) (some state.requestedEventId)).holds = true :=
        sqlEq_holds.2 ⟨_, rfl, rfl⟩
      rw [known, present]
      simp [joined, protocol, row, represents.idle.1, RuntimeAdapter.observed, named, identified]
    · have other : (sqlNe (some state.requestedEventId) (some eventId)).holds = true :=
        sqlNe_holds.2 ⟨_, _, rfl, rfl, here⟩
      rw [other, if_neg fun same => here (Uuid.text_injective same)]
      rfl

/-- A page of a log in its order. -/
theorem page_of_ordered {log : HandoffLog}
    (ordered : log.events.rows.Pairwise fun row later => row.handoffId < later.handoffId) (start count : Nat) :
    log.page start count = (log.events.rows.filter fun row => start < row.handoffId).take count := by
  have sorted : (log.events.rows.filter fun row => decide (start < row.handoffId)).Pairwise HandoffEvent.before :=
    (ordered.imp fun before => Nat.le_of_lt before).sublist List.filter_sublist
  unfold HandoffLog.page Table.select
  rw [sorted.insertionSort_eq]

theorem Represents.reads (represents : Represents digests keys fake db) {afterCursor batchSize : Int}
    (start : 0 ≤ afterCursor) (low : 1 ≤ batchSize) (high : batchSize ≤ 128) (fits : afterCursor ≤ maxBigint) :
    RuntimeAdapter.readHandoff afterCursor batchSize db
      = .ok ((fake.readHandoff afterCursor batchSize).map Fake.row) := by
  have rows : (fake.events.filter fun event => decide (afterCursor < event.handoffId)).map Fake.row
      = (db.handoffV1.events.rows.filter fun row => decide (afterCursor.toNat < row.handoffId)).map
        RuntimeAdapter.handoffRow := by
    let later : HandoffRow → Bool := fun row => decide (afterCursor < row.handoffId)
    have ids : (fun row : HandoffEvent => decide (afterCursor.toNat < row.handoffId))
        = later ∘ RuntimeAdapter.handoffRow := by
      funext row
      refine decide_eq_decide.2 (?_ : afterCursor.toNat < row.handoffId ↔ afterCursor < row.handoffId)
      omega
    have events : _ = (fake.events.filter (later ∘ Fake.row)).map Fake.row := List.filter_map
    rw [represents.log] at events
    rw [ids]
    exact events.symm.trans List.filter_map
  unfold RuntimeAdapter.readHandoff
  rw [Realtime.readHandoff_page start fits low high, represents.unpruned, if_neg (Nat.not_lt_zero _)]
  dsimp only
  rw [page_of_ordered represents.ordered, Fake.readHandoff, Fake.take, if_pos (by omega), List.map_take, List.map_take,
    rows]

end Steps

/-! ## The results -/

/-- A call of the sequence, whose key is among the keys. -/
structure Call.Among (digests : Digests) (keys : Set String) (call : Call) : Prop where
  given : call.Given digests
  listed : ∀ request, call = .requestProbe request → request.command.idempotencyKey ∈ keys

/-- Call by call, the double and the adapter agree as long as the calls fit. -/
theorem fake_locked {digests : Digests} {keys : Set String}
    (hex : ∀ probeId type version, matchesAll isLowerHex 64 64 (digests.fingerprint probeId type version) = true)
    (distinct : Set.InjOn (eventOf digests) keys) :
    Lockstep.Locked (Fake.step digests) (RuntimeAdapter.step digests) (Represents digests keys)
      (Call.Among digests keys) Fake.Fits where
  agrees := by
    intro fake db call represents among fits
    cases call with
    | requestProbe request =>
      obtain ⟨probeId, a, passes⟩ := Request.Given.passes hex among.given
      obtain ⟨range, storable, room⟩ := fits
      have both := represents.requests distinct passes (among.listed request rfl) room
      rw [← passes.answered range storable] at both
      exact ⟨congrArg Answer.requested both.1, both.2⟩
    | observeProbe probeId eventId =>
      obtain ⟨⟨probeId, rfl⟩, ⟨eventId, rfl⟩⟩ := among.given
      exact ⟨congrArg Answer.observed (represents.observes probeId eventId), represents⟩
    | readHandoff afterCursor batchSize =>
      obtain ⟨start, low, high⟩ := among.given
      exact ⟨congrArg Answer.read (represents.reads start low high fits).symm, represents⟩
  differs := by
    intro fake db call represents among misfit same
    cases call with
    | requestProbe request =>
      obtain ⟨probeId, a, passes⟩ := Request.Given.passes hex among.given
      exact represents.requests_differ distinct passes (among.listed request rfl) misfit (Answer.requested.inj same)
    | observeProbe probeId eventId => exact misfit trivial
    | readHandoff afterCursor batchSize =>
      have raised : RuntimeAdapter.readHandoff afterCursor batchSize db = .error .raised := by
        unfold RuntimeAdapter.readHandoff Realtime.readHandoff
        rw [if_pos (.inr (.inl (not_le.1 misfit)))]
      have equal := Answer.read.inj same
      rw [raised] at equal
      cases equal

/-- **Refinement.** The double answers a sequence of calls as the adapter does exactly when every call fits: a read
starts within `bigint`, a command's deadline is within `DateTime.from_unix` and its trace context has no NUL, and a
command that creates a probe finds the handoff counter below its end. -/
theorem fake_refines_iff (digests : Digests) (calls : List Call)
    (hex : ∀ probeId type version, matchesAll isLowerHex 64 64 (digests.fingerprint probeId type version) = true)
    (given : ∀ call ∈ calls, call.Given digests) (distinct : Set.InjOn (eventOf digests) (commandKeys calls)) :
    Lockstep.answers (Fake.step digests) .initial calls = Lockstep.answers (RuntimeAdapter.step digests) .migrated calls
      ↔ Lockstep.Throughout (Fake.step digests) Fake.Fits .initial calls := by
  refine (fake_locked hex distinct).answers_eq_iff (fun call listed => ⟨given call listed, ?_⟩)
    (represents_initial digests (commandKeys calls))
  rintro request rfl
  exact ⟨request, listed, rfl⟩

section Sample

def sampleProbeId : Uuid := ⟨[18, 52, 86, 120, 18, 52, 66, 52, 130, 52, 18, 52, 86, 120, 154, 188], rfl⟩

def sampleDigests : Digests where
  fingerprint := fun _ _ _ => sampleFingerprint
  deterministicUuid := fun _ _ => sampleProbeId

theorem sampleFingerprint_hex : matchesAll isLowerHex 64 64 sampleFingerprint = true := by decide

def sampleRequest : Request where
  command :=
    { envelope :=
        { messageId := sampleProbeId.text
          correlationId := sampleProbeId.text
          causationId := sampleProbeId.text
          traceContext := .empty
          deadline := 1000
          actorKey := "platform-probe:" ++ sampleProbeId.text
          priority := .durable
          payloadType := "platform.probe.requested"
          payloadVersion := 1
          payload := .empty }
      probeId := sampleProbeId.text
      idempotencyScope := probeScope
      idempotencyKey := "key"
      requestFingerprint := sampleFingerprint
      expectedVersion := 0 }
  adapter := ⟨0, 0, 0, ⟨0, 0, 0⟩⟩
  fake := ⟨0, 0⟩

def sampleCalls : List Call :=
  [.requestProbe sampleRequest, .observeProbe sampleProbeId.text sampleProbeId.text, .readHandoff 0 1]

theorem sampleRequest_given : sampleRequest.Given sampleDigests where
  made := ⟨sampleRequest.command.envelope, sampleProbeId.text, "key", if_pos (by decide)⟩
  probeId := ⟨sampleProbeId, rfl⟩
  messageId := ⟨sampleProbeId, rfl⟩
  correlationId := ⟨sampleProbeId, rfl⟩
  causationId := ⟨sampleProbeId, rfl⟩
  key := by decide
  traceContext := by decide
  deadline := by decide

/-- A command, its observation and a read of its event. -/
theorem sample_calls_refined :
    Lockstep.answers (Fake.step sampleDigests) .initial sampleCalls
      = Lockstep.answers (RuntimeAdapter.step sampleDigests) .migrated sampleCalls := by
  refine (fake_refines_iff sampleDigests sampleCalls (fun _ _ _ => sampleFingerprint_hex) ?_ ?_).2 ?_
  · intro call listed
    simp only [sampleCalls, List.mem_cons, List.not_mem_nil, or_false] at listed
    rcases listed with rfl | rfl | rfl
    · exact sampleRequest_given
    · exact ⟨⟨sampleProbeId, rfl⟩, ⟨sampleProbeId, rfl⟩⟩
    · exact ⟨by decide, by decide, by decide⟩
  · rintro _ ⟨request, listed, rfl⟩ _ ⟨other, listed', rfl⟩ _
    simp only [sampleCalls, List.mem_cons, Call.requestProbe.injEq, reduceCtorEq, List.not_mem_nil, or_false]
      at listed listed'
    rw [listed, listed']
  · refine Lockstep.throughout_cons.2 ⟨⟨by decide, by decide, fun _ => by decide⟩, ?_⟩
    refine Lockstep.throughout_cons.2 ⟨trivial, Lockstep.throughout_cons.2 ⟨?_, Lockstep.throughout_nil⟩⟩
    show (0 : Int) ≤ maxBigint
    decide

/-- The double reads nothing after a cursor beyond `bigint`; the adapter raises. -/
theorem cursor_beyond_bigint_differs :
    (∀ probeId type version, matchesAll isLowerHex 64 64 (sampleDigests.fingerprint probeId type version) = true) ∧
    (∀ call ∈ [Call.readHandoff 9223372036854775808 1], call.Given sampleDigests) ∧
    Set.InjOn (eventOf sampleDigests) (commandKeys [.readHandoff 9223372036854775808 1]) ∧
    Lockstep.answers (Fake.step sampleDigests) .initial [.readHandoff 9223372036854775808 1] = [.read (.ok [])] ∧
    Lockstep.answers (RuntimeAdapter.step sampleDigests) .migrated [.readHandoff 9223372036854775808 1]
      = [.read (.error .raised)] := by
  refine ⟨fun _ _ _ => sampleFingerprint_hex, ?_, ?_, by decide, by decide⟩
  · intro call listed
    obtain rfl := List.mem_singleton.1 listed
    exact ⟨by decide, by decide, by decide⟩
  · rintro _ ⟨request, listed, _⟩
    simp at listed

end Sample

end Liqi.Persistence
