import Liqi.Database.HandoffRetention
import Liqi.Realtime.Acknowledgement
import Liqi.Realtime.Resume

/-!
# One page of repair

What `Resume.repair` does with a session whose queue is empty. It fails before it reaches the session if the
page size is refused or the kernel cannot be used; otherwise it delivers the relevant events of the page in
order, and either all of them fit in the queue or the first one that does not ends the repair with
`slow_consumer`.
-/

namespace Liqi.Realtime

open Postgres Liqi.Database Liqi.Runtime Liqi.Native Beam

/-! ## The page -/

section Page

variable {db : Db} {config : RuntimeConfig} {cursor : Nat}

/-- A cursor that is a `bigint` reaches the database function. -/
theorem gapRead_eq (bigint : (cursor : Int) ≤ maxBigint) : gapRead db cursor config.sessionQueueCapacity
    = (readRealtimeHandoffV1 (some cursor) (some config.sessionQueueCapacity) db).mapError
        fun failure => .persistence (.ofSqlState failure.state) := by
  have capacity := config.queueCapacity
  have nonneg : ¬ (cursor : Int) < 0 := by omega
  have typed : ¬ ((cursor : Int) < -maxBigint - 1 ∨ maxBigint < cursor ∨ config.sessionQueueCapacity < -maxInteger - 1
      ∨ maxInteger < config.sessionQueueCapacity) := by
    unfold maxInteger
    omega
  unfold gapRead readHandoff
  rw [if_neg nonneg, if_neg typed]
  rcases readRealtimeHandoffV1 (some cursor) (some config.sessionQueueCapacity) db with failure | rows <;> rfl

theorem gapRead_page (bigint : (cursor : Int) ≤ maxBigint) (size : config.sessionQueueCapacity ≤ 128) :
    gapRead db cursor config.sessionQueueCapacity
      = if cursor < db.retainedAfterHandoffId then .error (.persistence .realtimeCursorGap)
        else .ok (db.handoffV1.page cursor config.sessionQueueCapacity.toNat) := by
  have capacity := config.queueCapacity
  have nonneg : ¬ (cursor : Int) < 0 := by omega
  rw [gapRead, if_neg nonneg, readHandoff_page (by omega) bigint (by omega) size, Int.toNat_natCast]

theorem gapRead_ok (retained : db.retainedAfterHandoffId ≤ cursor) (bigint : (cursor : Int) ≤ maxBigint)
    (size : config.sessionQueueCapacity ≤ 128) : gapRead db cursor config.sessionQueueCapacity
      = .ok (db.handoffV1.page cursor config.sessionQueueCapacity.toNat) :=
  (gapRead_page bigint size).trans (if_neg (Nat.not_lt.2 retained))

/-- A cursor behind the retention watermark. -/
theorem gapRead_gap (behind : cursor < db.retainedAfterHandoffId) (bigint : (cursor : Int) ≤ maxBigint)
    (size : config.sessionQueueCapacity ≤ 128) : gapRead db cursor config.sessionQueueCapacity
      = .error (.persistence .realtimeCursorGap) :=
  (gapRead_page bigint size).trans (if_pos behind)

/-- A page size that the database refuses, or a cursor that is no `bigint`. -/
theorem gapRead_refused (db : Db) (refused : 128 < config.sessionQueueCapacity ∨ maxBigint < (cursor : Int)) :
    ∃ failure, gapRead db cursor config.sessionQueueCapacity = .error failure
      ∧ failure ≠ .persistence .realtimeCursorGap := by
  have nonneg : ¬ (cursor : Int) < 0 := by omega
  by_cases bigint : (cursor : Int) ≤ maxBigint
  · have batch : config.sessionQueueCapacity < 1 ∨ 128 < config.sessionQueueCapacity := by omega
    have read : readRealtimeHandoffV1 (some cursor) (some config.sessionQueueCapacity) db
        = .error (.invalidParameter "batch_size must be between 1 and 128") := by
      unfold readRealtimeHandoffV1 checkPage
      simp only [nonneg, batch, if_false, if_true]
      rfl
    rw [gapRead_eq bigint, read]
    exact ⟨_, rfl, by simp [PersistenceCode.ofSqlState, SqlError.invalidParameter]⟩
  · unfold gapRead readHandoff
    rw [if_neg nonneg, if_pos (by omega)]
    exact ⟨_, rfl, by simp⟩

/-- The kernel finds no gap in a page, if it can be used. -/
theorem verifySequenceWindow_page (node : Node) {retained size : Nat} (log : Retains retained db.handoffV1)
    (current : retained ≤ cursor) (bigint : (cursor : Int) ≤ maxBigint) (small : size ≤ 128) :
    (node.KernelUsable ∨ db.handoffV1.page cursor size = [] →
        verifySequenceWindow node (db.handoffV1.page cursor size) cursor = .ok ())
      ∧ (¬ (node.KernelUsable ∨ db.handoffV1.page cursor size = []) →
        ∃ failure, verifySequenceWindow node (db.handoffV1.page cursor size) cursor = .error (.sequenceKernel failure)) := by
  have ids := log.page current size
  generalize count : min (cursor + size) db.handoffV1.lastHandoffId - cursor = n at ids
  rcases List.eq_nil_or_concat (db.handoffV1.page cursor size) with none | ⟨rows, final, page⟩
  · rw [none]
    exact ⟨fun _ => rfl, fun unusable => absurd (.inr rfl) unusable⟩
  · rw [List.concat_eq_append] at page
    have length : (rows ++ [final]).length = n := by
      rw [← page, ← List.length_map HandoffEvent.handoffId, ids, List.length_range']
    rw [List.length_append, List.length_singleton] at length
    -- The last row of the page has the last of the consecutive ids.
    have top : final.handoffId = cursor + n := by
      have last : (List.range' (cursor + 1) n).getLast? = some final.handoffId := by
        rw [← ids, page]
        simp
      rw [List.getLast?_range'] at last
      split at last
      · omega
      · simp only [Option.some.injEq] at last
        omega
    have sequences : (rows ++ [final]).map (fun row => (row.handoffId : Int))
        = (List.range' (cursor + 1) n).map Int.ofNat := by
      rw [← ids, page, List.map_map]
      rfl
    have u64 : cursor + n < maxU64 := by
      unfold maxU64
      unfold maxBigint at bigint
      omega
    have diff := node.sequenceDiff_consecutive cursor n (by omega) (by unfold maxObservedSequences; omega) u64
    have nonempty : rows ++ [final] ≠ [] := by simp
    rw [page]
    unfold verifySequenceWindow
    rw [List.getLast?_concat]
    dsimp only at diff ⊢
    rw [sequences, top]
    constructor
    · intro usable
      rw [diff.1 (usable.resolve_right nonempty)]
    · intro unusable
      obtain ⟨failure, failed⟩ := diff.2 fun usable => unusable (.inl usable)
      rw [failed]
      exact ⟨failure, rfl⟩

end Page

/-! ## The deliveries -/

/-- The queue entries of the deliveries from `index` on, each with the clock that its expiry check reads. -/
def pageEntries (encodedBytes : Frame → Nat) (session : Session) (readings : Nat → Readings) :
    Nat → List HandoffEvent → List (Outbound × Int)
  | _, [] => []
  | index, row :: rest =>
    (session.outbound encodedBytes (readings index) (eventOfRow row) row.handoffId, (readings index).expiryClock)
      :: pageEntries encodedBytes session readings (index + 1) rest

/-- An entry fits behind those that are queued when it comes. -/
structure FitsBehind (config : RuntimeConfig) (queued : List Outbound) (entry : Outbound) (clock : Int) : Prop where
  current : ∀ first ∈ queued.head?, clock - first.enqueuedAt ≤ config.sessionQueueMaxAgeMs
  capacity : (queued.length : Int) < config.sessionQueueCapacity
  message : (entry.bytes : Int) ≤ config.maxRealtimeMessageBytes
  bytes : (((queued.map Outbound.bytes).sum + entry.bytes : Nat) : Int) ≤ config.sessionQueueMaxBytes

/-- Each of the entries fits behind the ones before it. -/
def Fits (config : RuntimeConfig) : List Outbound → List (Outbound × Int) → Prop
  | _, [] => True
  | queued, (entry, clock) :: rest => FitsBehind config queued entry clock ∧ Fits config (queued ++ [entry]) rest

namespace Session

variable {encodedBytes : Frame → Nat} {session : Session} {queued : List Outbound} {readings : Readings}

/-- The session with more entries in its queue. -/
def filled (session : Session) (queued : List Outbound) : Session :=
  { session with toBuffer := queued.foldl Buffer.push session.toBuffer }

theorem filled_concat (outbound : Outbound) : session.filled (queued ++ [outbound])
    = { session.filled queued with toBuffer := (session.filled queued).push outbound } := by
  simp [filled, List.foldl_append]

@[simp] theorem filled_config : (session.filled queued).config = session.config := by
  induction queued using List.reverseRecOn with
  | nil => rfl
  | append_singleton queued outbound ih => rw [filled_concat, Buffer.push_config, ih]

@[simp] theorem filled_lastAck : (session.filled queued).lastAck = session.lastAck := by
  induction queued using List.reverseRecOn with
  | nil => rfl
  | append_singleton queued outbound ih => rw [filled_concat, Buffer.push_lastAck, ih]

@[simp] theorem filled_queue : (session.filled queued).queue = session.queue ++ queued := by
  induction queued using List.reverseRecOn with
  | nil => simp [filled]
  | append_singleton queued outbound ih => rw [filled_concat, Buffer.push_queue, ih, List.append_assoc]

theorem filled_seenEventSet {eventId : Uuid} (seen : eventId ∈ (session.filled queued).seenEventSet) :
    eventId ∈ session.seenEventSet ∨ eventId ∈ queued.map Outbound.eventId := by
  induction queued using List.reverseRecOn with
  | nil => exact .inl seen
  | append_singleton queued outbound ih =>
    rw [filled_concat] at seen
    rw [List.map_append, List.mem_append]
    rcases Finset.mem_insert.1 (Buffer.push_seenEventSet seen) with rfl | old
    · exact .inr (.inr (List.mem_singleton.2 rfl))
    · exact (ih old).imp_right Or.inl

theorem le_filled_latestSeen {outbound : Outbound} (member : outbound ∈ queued) :
    outbound.sequence ≤ (session.filled queued).latestSeen := by
  induction queued using List.reverseRecOn with
  | nil => cases member
  | append_singleton queued last ih =>
    rw [filled_concat, Buffer.push_latestSeen]
    rcases List.mem_append.1 member with old | new
    · exact (ih old).trans (le_max_left _ _)
    · rw [List.mem_singleton.1 new]
      exact le_max_right _ _

/-- The room in a filled queue, in terms of its entries. -/
theorem hasRoom_filled {event : Event} {sequence : Int} (sound : (session.filled queued).Sound)
    (empty : session.queue = []) : (session.filled queued).HasRoom encodedBytes readings event sequence
      ↔ FitsBehind session.config queued (session.outbound encodedBytes readings event sequence) readings.expiryClock := by
  have queue : (session.filled queued).queue = queued := by rw [filled_queue, empty, List.nil_append]
  have size : (session.filled queued).queueSize = queued.length := by rw [sound.size, queue]
  have bytes : (session.filled queued).queueBytes = ((queued.map Outbound.bytes).sum : Nat) := by rw [sound.bytes, queue]
  have expired : (session.filled queued).queueExpired readings.expiryClock = false
      ↔ ∀ first ∈ queued.head?, readings.expiryClock - first.enqueuedAt ≤ session.config.sessionQueueMaxAgeMs := by
    unfold Buffer.queueExpired
    rw [size, queue, filled_config]
    rcases queued with _ | ⟨first, rest⟩
    · simp
    · have nonempty : ¬ (((first :: rest).length : Nat) : Int) = 0 := by
        rw [List.length_cons]
        omega
      simp only [nonempty, if_false, decide_eq_false_iff_not, Int.not_lt, List.head?_cons, Option.mem_def,
        Option.some.injEq, forall_eq']
  constructor
  · intro room
    refine ⟨expired.1 room.current, ?_, ?_, ?_⟩
    · have := room.capacity
      rwa [size, filled_config] at this
    · have := room.message
      rwa [filled_config] at this
    · have := room.bytes
      rw [bytes, filled_config] at this
      exact_mod_cast this
  · intro fits
    refine ⟨expired.2 fits.current, ?_, ?_, ?_⟩
    · rw [size, filled_config]
      exact fits.capacity
    · rw [filled_config]
      exact fits.message
    · rw [bytes, filled_config]
      exact_mod_cast fits.bytes

/-- The rows are news to the session: beyond its cursor, not remembered, and each of another event. -/
structure Expects (session : Session) (rows : List HandoffEvent) : Prop where
  beyond : ∀ row ∈ rows, session.lastAck < row.handoffId
  unseen : ∀ row ∈ rows, row.eventId ∉ session.seenEventSet
  distinct : rows.Pairwise fun row other => row.eventId ≠ other.eventId

section Deliveries

variable {row : HandoffEvent} {rest rows : List HandoffEvent}

theorem Expects.fresh (expects : session.Expects (row :: rest)) : session.Fresh (eventOfRow row) row.handoffId where
  handoffId := rfl
  beyond := expects.beyond row List.mem_cons_self
  unseen := expects.unseen row List.mem_cons_self

theorem Expects.push {outbound : Outbound} (expects : session.Expects (row :: rest))
    (pushed : outbound.eventId = row.eventId) :
    ({ session with toBuffer := session.push outbound } : Session).Expects rest where
  beyond := fun other member => expects.beyond other (List.mem_cons_of_mem row member)
  unseen := by
    intro other member seen
    rcases Finset.mem_insert.1 (Buffer.push_seenEventSet seen) with same | old
    · exact (List.pairwise_cons.1 expects.distinct).1 other member (pushed ▸ same.symm)
    · exact expects.unseen other (List.mem_cons_of_mem row member) old
  distinct := (List.pairwise_cons.1 expects.distinct).2

/-- A delivery for which there is room. -/
theorem deliver_of_room (fresh : session.Fresh (eventOfRow row) row.handoffId)
    (room : session.HasRoom encodedBytes readings (eventOfRow row) row.handoffId) :
    let outbound := session.outbound encodedBytes readings (eventOfRow row) row.handoffId
    handle encodedBytes { readings, message := .deliver (eventOfRow row) } session
      = .reply (.delivered .ok) { session with toBuffer := session.push outbound }
          (session.toConnection [outbound.frame]) := by
  simp only [handle, deliver, enqueueEvent_of_room fresh room]
  rfl

/-- A delivery for which there is no room. -/
theorem deliver_of_full (fresh : session.Fresh (eventOfRow row) row.handoffId)
    (full : ¬ session.HasRoom encodedBytes readings (eventOfRow row) row.handoffId) :
    ∃ next effects, handle encodedBytes { readings, message := .deliver (eventOfRow row) } session
      = .reply (.delivered .slowConsumer) next effects ∧ next.queue = [] := by
  simp only [handle, deliver, enqueueEvent_of_full fresh full]
  exact ⟨_, _, rfl, rfl⟩

theorem enqueueEvent_of_old (old : ¬ session.Fresh (eventOfRow row) row.handoffId) (readings : Readings) :
    session.enqueueEvent encodedBytes readings (eventOfRow row) = (.duplicate, session, []) := by
  refine enqueueEvent_of_stale fun sequence fresh => ?_
  have same : sequence = (row.handoffId : Int) := Option.some.inj fresh.handoffId.symm
  exact old (same ▸ fresh)

/-- A delivery of an event that is not fresh. -/
theorem deliver_of_old (old : ¬ session.Fresh (eventOfRow row) row.handoffId) (readings : Readings) :
    handle encodedBytes { readings, message := .deliver (eventOfRow row) } session
      = .reply (.delivered .duplicate) session [] := by
  simp only [handle, deliver, enqueueEvent_of_old old]

variable {clocks : Nat → Readings} {index : Nat} {fates : Nat → Fate}

/-- An answered delivery that is not refused for want of room lets the others follow. -/
theorem deliverAll_passes (answered : fates 0 = .answered)
    (finds : session.Fresh (eventOfRow row) row.handoffId →
      session.HasRoom encodedBytes (clocks index) (eventOfRow row) row.handoffId) :
    ∃ effects, (deliverAll clocks index (row :: rest)).serve (handle encodedBytes) fates (some session)
      = ((deliverAll clocks (index + 1) rest).serve (handle encodedBytes) (Fate.after 1 fates)
          (some (session.enqueueEvent encodedBytes (clocks index) (eventOfRow row)).2.1)).after
            { readings := clocks index, message := .deliver (eventOfRow row) } effects := by
  by_cases fresh : session.Fresh (eventOfRow row) row.handoffId
  · rw [enqueueEvent_of_room fresh (finds fresh)]
    exact ⟨_, serve_reply answered (deliver_of_room fresh (finds fresh))⟩
  · rw [enqueueEvent_of_old fresh]
    exact ⟨_, serve_reply answered (deliver_of_old fresh _)⟩

/-- One that is refused ends them. -/
theorem deliverAll_full (answered : fates 0 = .answered) (fresh : session.Fresh (eventOfRow row) row.handoffId)
    (full : ¬ session.HasRoom encodedBytes (clocks index) (eventOfRow row) row.handoffId) :
    ∃ next effects, (deliverAll clocks index (row :: rest)).serve (handle encodedBytes) fates (some session)
      = ⟨.error .slowConsumer, some next, [{ readings := clocks index, message := .deliver (eventOfRow row) }], effects⟩ := by
  obtain ⟨next, effects, handled, _⟩ := deliver_of_full fresh full
  exact ⟨next, effects ++ [], serve_reply answered handled⟩

theorem toConnection_cons (frame : Frame) (frames : List Frame) :
    session.toConnection (frame :: frames) = session.toConnection [frame] ++ session.toConnection frames := by
  unfold toConnection
  split <;> rfl

/-- One delivery that fits: what the session and the connection get. -/
theorem deliver_fits (empty : session.queue = []) (sound : (session.filled queued).Sound)
    (expects : (session.filled queued).Expects (row :: rest))
    (fits : FitsBehind session.config queued
      (session.outbound encodedBytes (clocks index) (eventOfRow row) row.handoffId) (clocks index).expiryClock) :
    let entry := session.outbound encodedBytes (clocks index) (eventOfRow row) row.handoffId
    let next := session.filled (queued ++ [entry])
    let input : Input := { readings := clocks index, message := .deliver (eventOfRow row) }
    (deliverAll clocks index (row :: rest)).exec (handle encodedBytes) true (some (session.filled queued))
        = ((deliverAll clocks (index + 1) rest).exec (handle encodedBytes) true (some next)).after input
          (session.toConnection [entry.frame])
      ∧ (∀ messages, enqueued encodedBytes (session.filled queued) (input :: messages)
        = entry :: enqueued encodedBytes next messages)
      ∧ next.Sound ∧ next.Expects rest := by
  have room := (hasRoom_filled sound empty).2 fits
  have fresh := expects.fresh
  intro entry next input
  have handled : handle encodedBytes input (session.filled queued)
      = .reply (.delivered .ok) next (session.toConnection [entry.frame]) :=
    (deliver_of_room fresh room).trans (by rw [← filled_concat]; rfl)
  refine ⟨exec_reply handled, fun messages => ?_, ?_, ?_⟩
  · have stepped := congrArg Outcome.next? handled
    rw [enqueued_cons stepped, filled_queue, filled_queue, ← List.append_assoc, List.drop_left]
    rfl
  · show (session.filled (queued ++ [entry])).Sound
    rw [filled_concat]
    exact sound.push fresh.beyond fresh.unseen room.capacity
  · show (session.filled (queued ++ [entry])).Expects rest
    rw [filled_concat]
    exact expects.push rfl

/-- **Deliveries that fit.** All rows are put in the queue and sent to the connection. -/
theorem deliverAll_fits {config : RuntimeConfig} (same : session.config = config) (empty : session.queue = [])
    (sound : (session.filled queued).Sound)
    (expects : (session.filled queued).Expects rows)
    (fits : Fits config queued (pageEntries encodedBytes session clocks index rows)) :
    let exchange := (deliverAll clocks index rows).exec (handle encodedBytes) true (some (session.filled queued))
    let entries := (pageEntries encodedBytes session clocks index rows).map Prod.fst
    exchange.value = .ok () ∧ exchange.state = some (session.filled (queued ++ entries))
      ∧ exchange.effects = session.toConnection (entries.map Outbound.frame)
      ∧ enqueued encodedBytes (session.filled queued) exchange.messages = entries := by
  subst same
  induction rows generalizing queued index with
  | nil =>
    refine ⟨rfl, ?_, ?_, rfl⟩
    · simp [deliverAll, Client.exec, pageEntries]
    · show [] = session.toConnection []
      unfold toConnection
      split <;> rfl
  | cons row rest ih =>
    obtain ⟨first, later⟩ := fits
    obtain ⟨ran, queues, sound', expects'⟩ := deliver_fits empty sound expects first
    obtain ⟨value, state, effects, new⟩ := ih sound' expects' later
    rw [ran]
    refine ⟨value, ?_, ?_, ?_⟩
    · rw [Exchange.after_state, state, List.append_assoc]
      rfl
    · rw [Exchange.after_effects, effects]
      exact (toConnection_cons _ _).symm
    · rw [Exchange.after_messages, queues, new]
      rfl

/-- **Deliveries that do not fit.** The first row without room ends them, and is not queued. -/
theorem deliverAll_overflows {config : RuntimeConfig} (same : session.config = config) (empty : session.queue = [])
    (sound : (session.filled queued).Sound)
    (expects : (session.filled queued).Expects rows)
    (full : ¬ Fits config queued (pageEntries encodedBytes session clocks index rows)) :
    let exchange := (deliverAll clocks index rows).exec (handle encodedBytes) true (some (session.filled queued))
    exchange.value = .error .slowConsumer ∧ ∃ row ∈ rows,
      row.eventId ∉ (enqueued encodedBytes (session.filled queued) exchange.messages).map Outbound.eventId := by
  subst same
  induction rows generalizing queued index with
  | nil => exact absurd trivial full
  | cons row rest ih =>
    by_cases first : FitsBehind session.config queued
        (session.outbound encodedBytes (clocks index) (eventOfRow row) row.handoffId) (clocks index).expiryClock
    · obtain ⟨ran, queues, sound', expects'⟩ := deliver_fits empty sound expects first
      obtain ⟨value, refused, member, missing⟩ := ih sound' expects' fun later => full ⟨first, later⟩
      rw [ran]
      refine ⟨value, refused, List.mem_cons_of_mem row member, ?_⟩
      rw [Exchange.after_messages, queues, List.map_cons, List.mem_cons]
      rintro (same | later)
      · exact (List.pairwise_cons.1 expects.distinct).1 refused member same.symm
      · exact missing later
    · have overflow : ¬ (session.filled queued).HasRoom encodedBytes (clocks index) (eventOfRow row) row.handoffId :=
        fun room => first ((hasRoom_filled sound empty).1 room)
      obtain ⟨next, effects, handled, cleared⟩ := deliver_of_full expects.fresh overflow
      have ran : (deliverAll clocks index (row :: rest)).exec (handle encodedBytes) true (some (session.filled queued))
          = (Client.exec (handle encodedBytes) true (.done (.error .slowConsumer)) _).after _ _ := exec_reply handled
      have stepped := congrArg Outcome.next? handled
      rw [ran]
      refine ⟨rfl, row, List.mem_cons_self, ?_⟩
      rw [Exchange.after_messages, enqueued_cons stepped, cleared]
      simp [Client.exec, enqueued, collect]

end Deliveries

end Session

/-! ## The repair -/

/-- The rows of the keys. -/
def relevantRows (keys : Finset String) (rows : List HandoffEvent) : List HandoffEvent :=
  rows.filter fun row => row.envelope.content.aggregateKey ∈ keys

/-- The page that a repair reads. -/
def repairPage (node : Node) (db : Db) (cursor : Nat) : List HandoffEvent :=
  db.handoffV1.page cursor node.config.sessionQueueCapacity.toNat

/-- The entries that a repair from the cursor would put in the queue of a session. -/
def repairEntries (encodedBytes : Frame → Nat) (node : Node) (db : Db) (cursor : Nat) (clocks : Nat → Readings)
    (session : Session) : List (Outbound × Int) :=
  pageEntries encodedBytes session clocks 0 (relevantRows session.subscriptions (repairPage node db cursor))

/-- The database answers a read of the page. -/
structure Readable (node : Node) (db : Db) (cursor : Nat) : Prop where
  log : Retains db.retainedAfterHandoffId db.handoffV1
  current : db.retainedAfterHandoffId ≤ cursor
  bigint : (cursor : Int) ≤ maxBigint
  size : node.config.sessionQueueCapacity ≤ 128

/-- The page is read and found complete, or empty. -/
structure Verifiable (node : Node) (db : Db) (cursor : Nat) : Prop extends Readable node db cursor where
  kernel : node.KernelUsable ∨ repairPage node db cursor = []

/-- The page is read and nothing is missing from it. -/
structure PageRead (node : Node) (db : Db) (cursor : Int) (rows : List HandoffEvent) : Prop where
  read : gapRead db cursor node.config.sessionQueueCapacity = .ok rows
  complete : verifySequenceWindow node rows cursor = .ok ()

/-- How a repair ends, from how its deliveries end. -/
structure Completes (encodedBytes : Frame → Nat) (session : Session)
    (ended : Exchange Session Input Effect (Except RepairError Unit))
    (exchange : Exchange Session Input Effect (Except RepairError Repair)) : Prop where
  done : ended.value = .ok () → ∃ result, exchange.value = .ok result
  failed : ∀ {failure}, ended.value = .error failure → exchange.value = .error failure
  state : exchange.state = ended.state
  effects : exchange.effects = ended.effects
  enqueued : Session.enqueued encodedBytes session exchange.messages = Session.enqueued encodedBytes session ended.messages

/-- A session with an empty queue that has acknowledged up to `cursor` and met nothing beyond it. -/
structure AtCursor (config : RuntimeConfig) (db : Db) (cursor : Nat) (session : Session) : Prop where
  sound : session.Sound
  config : session.config = config
  empty : session.queue = []
  lastAck : session.lastAck = cursor
  unseen : ∀ row ∈ db.handoffV1.events, cursor < row.handoffId → row.eventId ∉ session.seenEventSet

section Repair

variable {encodedBytes : Frame → Nat} {node : Node} {db : Db} {readings : RepairReadings} {cursor : Nat}
  {session : Session}

theorem mem_page {log : HandoffLog} {size : Nat} {row : HandoffEvent} (member : row ∈ log.page cursor size) :
    row ∈ log.events ∧ cursor < row.handoffId := by
  have selected := Table.mem_of_select member
  exact ⟨selected.1, by simpa using selected.2⟩

theorem AtCursor.expects (ready : AtCursor node.config db cursor session)
    (log : Retains db.retainedAfterHandoffId db.handoffV1) (keys : Finset String) :
    session.Expects (relevantRows keys (repairPage node db cursor)) where
  beyond := by
    intro row member
    rw [ready.lastAck]
    exact_mod_cast (mem_page (List.mem_of_mem_filter member)).2
  unseen := by
    intro row member
    obtain ⟨stored, beyond⟩ := mem_page (List.mem_of_mem_filter member)
    exact ready.unseen row stored beyond
  distinct := by
    have nodup : (repairPage node db cursor).Nodup := by
      unfold repairPage HandoffLog.page
      exact Table.select_nodup
    refine List.Pairwise.filter _ (List.Pairwise.imp_of_mem ?_ nodup)
    intro row other member another different same
    exact different (log.single row (mem_page member).1 other (mem_page another).1 same)

theorem filled_nil : session.filled [] = session := rfl

theorem Readable.verify (readable : Readable node db cursor) :
    (node.KernelUsable ∨ repairPage node db cursor = [] →
        verifySequenceWindow node (repairPage node db cursor) cursor = .ok ())
      ∧ (¬ (node.KernelUsable ∨ repairPage node db cursor = []) → ∃ failure,
        verifySequenceWindow node (repairPage node db cursor) cursor = .error (.sequenceKernel failure)) := by
  have size := readable.size
  exact verifySequenceWindow_page node readable.log readable.current readable.bigint (by omega)

/-- A page is empty exactly at the end of the log. -/
theorem Readable.page_eq_nil (readable : Readable node db cursor) :
    repairPage node db cursor = [] ↔ db.handoffV1.lastHandoffId ≤ cursor := by
  have page : (repairPage node db cursor).map HandoffEvent.handoffId = _ :=
    readable.log.page readable.current node.config.sessionQueueCapacity.toNat
  have capacity := node.config.queueCapacity
  rw [← List.map_eq_nil_iff (f := HandoffEvent.handoffId), page, List.range'_eq_nil_iff]
  omega

/-- A repair whose page is read goes on with the deliveries. -/
theorem PageRead.completes {cursor : Int} {rows : List HandoffEvent} (page : PageRead node db cursor rows)
    (fates : Nat → Fate) (answered : fates 0 = .answered) (encodedBytes : Frame → Nat)
    (readings : RepairReadings) (session : Session) : Completes encodedBytes session
      ((deliverAll readings.deliveries 0 (relevantRows session.subscriptions rows)).serve (Session.handle encodedBytes)
        (Fate.after 1 fates) (some session))
      ((repair node db readings cursor).serve (Session.handle encodedBytes) fates (some session)) := by
  have handled : Session.handle encodedBytes { readings := readings.snapshot, message := .snapshot } session
      = .reply (.snapshot session.snapshot) session [] := rfl
  have stepped := congrArg Outcome.next? handled
  unfold repair
  rw [page.read]
  dsimp only
  rw [page.complete, serve_reply answered handled]
  change Completes _ _ _ (((deliverAll readings.deliveries 0 (relevantRows session.subscriptions rows)).map _).serve
    _ _ _ |>.after _ _)
  rw [serve_map]
  generalize (deliverAll _ _ _).serve (Session.handle encodedBytes) (Fate.after 1 fates) (some session) = ended
  refine ⟨fun value => ?_, fun value => ?_, rfl, rfl, ?_⟩
  · rw [Exchange.after_value, value]
    exact ⟨_, rfl⟩
  · rw [Exchange.after_value, value]
  · rw [Exchange.after_messages, Session.enqueued_cons stepped, List.drop_length, List.nil_append]

/-- A repair whose first call is refused. -/
theorem PageRead.refused {fates : Nat → Fate} {cursor : Int} {rows : List HandoffEvent}
    (page : PageRead node db cursor rows) (refused : fates 0 = .refused) :
    (repair node db readings cursor).serve (Session.handle encodedBytes) fates (some session)
      = ⟨.error (.actor .overloaded), some session, [], []⟩ := by
  unfold repair
  rw [page.read]
  dsimp only
  rw [page.complete]
  exact serve_refused refused

theorem Verifiable.pageRead (verifiable : Verifiable node db cursor) :
    PageRead node db cursor (repairPage node db cursor) where
  read := gapRead_ok verifiable.current verifiable.bigint verifiable.size
  complete := verifiable.verify.1 verifiable.kernel

theorem Verifiable.completes (verifiable : Verifiable node db cursor) (encodedBytes : Frame → Nat)
    (readings : RepairReadings) (session : Session) : Completes encodedBytes session
      ((deliverAll readings.deliveries 0 (relevantRows session.subscriptions (repairPage node db cursor))).exec
        (Session.handle encodedBytes) true (some session))
      ((repair node db readings cursor).exec (Session.handle encodedBytes) true (some session)) := by
  rw [exec_eq_serve, exec_eq_serve]
  exact verifiable.pageRead.completes (fun _ => .answered) rfl encodedBytes readings session

/-- **A repair whose page fits.** -/
theorem repair_fits (ready : AtCursor node.config db cursor session) (verifiable : Verifiable node db cursor)
    (fits : Fits node.config [] (repairEntries encodedBytes node db cursor readings.deliveries session)) :
    let entries := (repairEntries encodedBytes node db cursor readings.deliveries session).map Prod.fst
    let exchange := (repair node db readings cursor).exec (Session.handle encodedBytes) true (some session)
    (∃ result, exchange.value = .ok result) ∧ exchange.state = some (session.filled entries)
      ∧ exchange.effects = session.toConnection (entries.map Outbound.frame)
      ∧ Session.enqueued encodedBytes session exchange.messages = entries := by
  obtain ⟨value, state, effects, new⟩ := Session.deliverAll_fits ready.config ready.empty (filled_nil ▸ ready.sound)
    (filled_nil ▸ ready.expects verifiable.log session.subscriptions) fits
  have completes := verifiable.completes encodedBytes readings session
  rw [filled_nil] at value state effects new
  exact ⟨completes.done value, completes.state.trans state, completes.effects.trans effects, completes.enqueued.trans new⟩

/-- **A repair whose page does not fit.** -/
theorem repair_overflows (ready : AtCursor node.config db cursor session) (verifiable : Verifiable node db cursor)
    (full : ¬ Fits node.config [] (repairEntries encodedBytes node db cursor readings.deliveries session)) :
    let exchange := (repair node db readings cursor).exec (Session.handle encodedBytes) true (some session)
    exchange.value = .error .slowConsumer ∧ ∃ row ∈ relevantRows session.subscriptions (repairPage node db cursor),
      row.eventId ∉ (Session.enqueued encodedBytes session exchange.messages).map Outbound.eventId := by
  obtain ⟨value, row, member, missing⟩ := Session.deliverAll_overflows ready.config ready.empty
    (filled_nil ▸ ready.sound) (filled_nil ▸ ready.expects verifiable.log session.subscriptions) full
  have completes := verifiable.completes encodedBytes readings session
  rw [filled_nil] at value missing
  exact ⟨completes.failed value, row, member, completes.enqueued ▸ missing⟩

theorem repair_refused (refused : 128 < node.config.sessionQueueCapacity ∨ maxBigint < (cursor : Int)) :
    ∃ failure, repair node db readings cursor = .done (.error (.handoff failure))
      ∧ failure ≠ .persistence .realtimeCursorGap := by
  obtain ⟨failure, read, other⟩ := gapRead_refused db refused
  unfold repair
  rw [read]
  exact ⟨failure, rfl, other⟩

theorem repair_gap (behind : cursor < db.retainedAfterHandoffId) (bigint : (cursor : Int) ≤ maxBigint)
    (size : node.config.sessionQueueCapacity ≤ 128) :
    repair node db readings cursor = .done (.error (.handoff (.persistence .realtimeCursorGap))) := by
  unfold repair
  rw [gapRead_gap behind bigint size]

theorem repair_unverified (readable : Readable node db cursor)
    (unusable : ¬ (node.KernelUsable ∨ repairPage node db cursor = [])) :
    ∃ failure, repair node db readings cursor = .done (.error (.sequenceKernel failure)) := by
  obtain ⟨failure, verified⟩ := readable.verify.2 unusable
  unfold repair
  rw [gapRead_ok readable.current readable.bigint readable.size]
  dsimp only
  rw [repairPage] at verified
  rw [verified]
  exact ⟨failure, rfl⟩

end Repair

end Liqi.Realtime
