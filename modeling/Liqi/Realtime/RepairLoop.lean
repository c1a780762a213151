import Liqi.Beam.Windows
import Liqi.Realtime.RepairPage

/-!
# Catching up by repair

A client that has joined repairs from the cursor of its latest resume token, acknowledges the highest
sequence that it received and takes the token of the acknowledgement. A page of the log counts all ids, but
the cursor moves only to relevant ones: where a whole page has none, the client reads it again for ever.
`catches_up_iff` is the exact condition under which the loop delivers every relevant event: the page size is
one that the database accepts, the kernel can be used, relevant ids are never further apart than a page, and
the events of each page fit in the queue.
-/

namespace Liqi.Realtime

open Postgres Liqi.Database Liqi.Runtime Liqi.Native Beam

/-! ## The loop -/

/-- A new session that has subscribed to the keys and is attached with a resume cursor. -/
def Session.joined (config : RuntimeConfig) (sessionId : String) (keys : Finset String) (deviceId : String)
    (connection : Pid) (cursor : Nat) : Session :=
  { Session.init config sessionId 0 with
    lastAck := cursor
    deviceId := some deviceId
    connectionPid := some connection
    subscriptions := keys
    idleTimer := none }

/-- What the session reads during one round. -/
structure RoundReadings extends RepairReadings where
  ack : Readings

/-- The client: its session, the cursor of its latest token, and what the session has handled since it joined. -/
structure ClientLoop where
  session : Option Session
  cursor : Int
  inputs : List Input

inductive RoundError where
  | repair (error : RepairError)
  | ack
  deriving DecidableEq

/-- The sequences of the event frames that the connection received. -/
def received (connection : Pid) (effects : List Effect) : List Int :=
  effects.filterMap fun
    | .frame target frame =>
      match frame.payload with
      | .event sequence _ _ => if target = connection then some sequence else none
      | _ => none
    | _ => none

/-- The call of `ack`. -/
def ackClient (readings : Readings) (sequence : Int) : SessionClient (Except CallError Reply) :=
  .call { readings, message := .ack (some sequence) } .done

section Loop

variable (encodedBytes : Frame → Nat) (node : Node) (db : Db) (connection : Pid)

/-- The client acknowledges a sequence and takes the token. -/
def ClientLoop.acknowledge (readings : Readings) (sequence : Int) (client : ClientLoop) : ClientLoop × Option RoundError :=
  let acked := callSession encodedBytes node.config 0 (ackClient readings sequence) client.session
  let after := { client with session := acked.state, inputs := client.inputs ++ acked.messages }
  match acked.value with
  | .ok (.acknowledged _ token) => ({ after with cursor := token.cursor }, none)
  | _ => (after, some .ack)

/-- One round. The calls find an empty mailbox: the session hears from nobody else. -/
def ClientLoop.round (readings : RoundReadings) (client : ClientLoop) : ClientLoop × Option RoundError :=
  let repaired := callSession encodedBytes node.config 0 (repair node db readings.toRepairReadings client.cursor)
    client.session
  let after := { client with session := repaired.state, inputs := client.inputs ++ repaired.messages }
  match repaired.value with
  | .error failure => (after, some (.repair failure))
  | .ok _ =>
    match (received connection repaired.effects).max? with
    | none => (after, none)
    | some highest => after.acknowledge encodedBytes node readings.ack highest

/-- The client after some rounds, and the error of the round that ended the loop. -/
def rounds (readings : Nat → RoundReadings) (start : ClientLoop) : Nat → ClientLoop × Option RoundError
  | 0 => (start, none)
  | n + 1 =>
    match rounds readings start n with
    | (client, none) => client.round encodedBytes node db connection (readings n)
    | (client, some failure) => (client, some failure)

end Loop

/-! ## The relevant ids -/

/-- The id is of a row of the keys. -/
def relevantId (db : Db) (keys : Finset String) (id : Nat) : Bool :=
  (db.handoffV1.events.get? id).any fun row => row.envelope.content.aggregateKey ∈ keys

section Relevant

variable {node : Node} {db : Db} {cursor : Nat} {keys : Finset String}

theorem relevantId_row {row : HandoffEvent} (stored : row ∈ db.handoffV1.events) :
    relevantId db keys row.handoffId = decide (row.envelope.content.aggregateKey ∈ keys) := by
  unfold relevantId
  rw [Table.get?_self stored, Option.any_some]

/-- The ids of the relevant rows of a page are those of a window of the log. -/
theorem relevantRows_ids (readable : Readable node db cursor) :
    (relevantRows keys (repairPage node db cursor)).map HandoffEvent.handoffId
      = window (relevantId db keys) db.handoffV1.lastHandoffId node.config.sessionQueueCapacity.toNat cursor := by
  have page : (repairPage node db cursor).map HandoffEvent.handoffId = _ :=
    readable.log.page readable.current node.config.sessionQueueCapacity.toNat
  unfold window
  rw [← page, List.filter_map]
  refine congrArg (List.map HandoffEvent.handoffId) (List.filter_congr fun row member => ?_)
  exact (relevantId_row (mem_page member).1).symm

theorem mem_relevantRows (readable : Readable node db cursor) {row : HandoffEvent} (stored : row ∈ db.handoffV1.events) :
    row ∈ relevantRows keys (repairPage node db cursor) ↔ row.handoffId
      ∈ window (relevantId db keys) db.handoffV1.lastHandoffId node.config.sessionQueueCapacity.toNat cursor := by
  rw [← relevantRows_ids readable, List.mem_map]
  constructor
  · exact fun member => ⟨row, member, rfl⟩
  · rintro ⟨other, member, same⟩
    rwa [← Table.eq_of_key (mem_page (List.mem_of_mem_filter member)).1 stored same]

end Relevant

section Entries

variable {encodedBytes : Frame → Nat} {session : Session} {clocks : Nat → Readings}

/-- What the entries of a page have from their rows. -/
theorem pageEntries_map {β : Type} {ofEntry : Outbound → β} {ofRow : HandoffEvent → β}
    (same : ∀ clock row, ofEntry (session.outbound encodedBytes clock (eventOfRow row) row.handoffId) = ofRow row)
    (index : Nat) (rows : List HandoffEvent) :
    ((pageEntries encodedBytes session clocks index rows).map Prod.fst).map ofEntry = rows.map ofRow := by
  induction rows generalizing index with
  | nil => rfl
  | cons row rest ih => exact congr (congrArg List.cons (same (clocks index) row)) (ih (index + 1))

theorem pageEntries_eventIds (index : Nat) (rows : List HandoffEvent) :
    ((pageEntries encodedBytes session clocks index rows).map Prod.fst).map Outbound.eventId
      = rows.map HandoffEvent.eventId :=
  pageEntries_map (fun _ _ => rfl) index rows

theorem pageEntries_sequences (index : Nat) (rows : List HandoffEvent) :
    ((pageEntries encodedBytes session clocks index rows).map Prod.fst).map Outbound.sequence
      = rows.map fun row => (row.handoffId : Int) :=
  pageEntries_map (fun _ _ => rfl) index rows

/-- The client receives the sequences of the entries. -/
theorem received_entries {connection : Pid} (connected : session.connectionPid = some connection) (index : Nat)
    (rows : List HandoffEvent) : received connection (session.toConnection
        (((pageEntries encodedBytes session clocks index rows).map Prod.fst).map Outbound.frame))
      = rows.map fun row => (row.handoffId : Int) := by
  unfold Session.toConnection
  rw [connected]
  dsimp only
  induction rows generalizing index with
  | nil => rfl
  | cons row rest ih =>
    have first : ∀ effects, received connection
        (.frame connection (session.eventFrame (clocks index) row.handoffId (eventOfRow row)) :: effects)
          = (row.handoffId : Int) :: received connection effects := by
      intro effects
      simp [received, Session.eventFrame, Session.frame]
    rw [pageEntries, List.map_cons, List.map_cons, List.map_cons, List.map_cons]
    exact (first _).trans (congrArg _ (ih (index + 1)))

end Entries

/-- The highest of the ids of a window is where the cursor goes. -/
theorem max_window {relevant : Nat → Bool} {last width cursor : Nat} (found : window relevant last width cursor ≠ []) :
    ((window relevant last width cursor).map fun id : Nat => (id : Int)).max?
      = some (advance relevant last width cursor : Int) := by
  rw [List.max?_eq_some_iff]
  constructor
  · rcases advance_cases relevant last width cursor with ⟨none, _⟩ | member
    · exact absurd none found
    · exact List.mem_map_of_mem member
  · intro id member
    obtain ⟨n, inside, rfl⟩ := List.mem_map.1 member
    exact_mod_cast le_advance_of_mem relevant last width inside

/-! ## A round -/

section Round

variable (encodedBytes : Frame → Nat) (node : Node) (db : Db) (connection : Pid) (start : Session) (first : Nat)

/-- The cursor after some rounds, if none fails. -/
def loopCursor (n : Nat) : Nat :=
  cursorAt (relevantId db start.subscriptions) db.handoffV1.lastHandoffId node.config.sessionQueueCapacity.toNat first n

/-- A session that has handled an acknowledgement. -/
def Session.acked (session : Session) (sequence : Int) : Session :=
  { session with toBuffer := session.acknowledge sequence (max session.lastAck sequence) }

/-- What does not change in a session that catches up. -/
structure SameClient (session : Session) : Prop where
  sessionId : session.sessionId = start.sessionId
  subscriptions : session.subscriptions = start.subscriptions
  gapRequired : session.gapRequired = start.gapRequired
  connectionPid : session.connectionPid = some connection

/-- The client when its cursor is at `reached`: exactly the relevant events up to it have been queued. -/
structure CaughtUp (reached : Nat) (client : ClientLoop) (session : Session) : Prop where
  current : client.session = some session
  cursor : client.cursor = reached
  ran : Beam.run (Session.handle encodedBytes) start client.inputs = some session
  ready : AtCursor node.config db reached session
  same : SameClient connection start session
  queued : ∀ row ∈ db.handoffV1.events, first < row.handoffId →
    row.envelope.content.aggregateKey ∈ start.subscriptions →
    (row.eventId ∈ (Session.enqueued encodedBytes start client.inputs).map Outbound.eventId ↔ row.handoffId ≤ reached)

/-- Where one round leads. -/
def loopAdvance (reached : Nat) : Nat :=
  advance (relevantId db start.subscriptions) db.handoffV1.lastHandoffId node.config.sessionQueueCapacity.toNat reached

variable {encodedBytes node db connection start first} {cursor reached : Nat} {client : ClientLoop} {session : Session}
  {readings : RoundReadings}

theorem SameClient.repairEntries (same : SameClient connection start session) (clocks : Nat → Readings) :
    repairEntries encodedBytes node db cursor clocks session = repairEntries encodedBytes node db cursor clocks start := by
  have entries : ∀ index rows, pageEntries encodedBytes session clocks index rows
      = pageEntries encodedBytes start clocks index rows := by
    intro index rows
    induction rows generalizing index with
    | nil => rfl
    | cons row rest ih =>
      simp only [pageEntries, ih, Session.outbound, Session.eventFrame, Session.frame, same.sessionId, same.gapRequired]
  unfold Liqi.Realtime.repairEntries
  rw [same.subscriptions, entries]

theorem admits_idle : admits node.config 0 = true := by
  have reject := node.config.mailboxReject
  simp only [admits, decide_eq_true_eq]
  omega

/-- A failed repair ends the loop. -/
theorem round_failed (connection : Pid) {failure : RepairError} (current : client.session = some session)
    (at_cursor : client.cursor = cursor)
    (failed : ((repair node db readings.toRepairReadings cursor).exec (Session.handle encodedBytes) true
      (some session)).value = .error failure) :
    (client.round encodedBytes node db connection readings).2 = some (.repair failure)
      ∧ (client.round encodedBytes node db connection readings).1.inputs = client.inputs
        ++ ((repair node db readings.toRepairReadings cursor).exec (Session.handle encodedBytes) true
          (some session)).messages := by
  unfold ClientLoop.round callSession
  rw [admits_idle, current, at_cursor]
  dsimp only
  rw [failed]
  exact ⟨rfl, rfl⟩

/-- The rows that a repair delivers are the relevant ones up to the next cursor. -/
theorem mem_delivered (readable : Readable node db reached) {row : HandoffEvent} (stored : row ∈ db.handoffV1.events)
    (relevant : row.envelope.content.aggregateKey ∈ start.subscriptions) (beyond : reached < row.handoffId) :
    row ∈ relevantRows start.subscriptions (repairPage node db reached) ↔ row.handoffId ≤ loopAdvance node db start reached := by
  rw [mem_relevantRows readable stored]
  constructor
  · exact le_advance_of_mem _ _ _
  · have matching : relevantId db start.subscriptions row.handoffId = true := by
      rw [relevantId_row stored]
      exact decide_eq_true relevant
    exact mem_window_of_le_advance _ _ _ matching beyond (readable.log.bounded row stored).2

/-- A session that acknowledges the last of its new entries is at the next cursor. -/
theorem AtCursor.acknowledge (ready : AtCursor node.config db reached session)
    (log : Retains db.retainedAfterHandoffId db.handoffV1) {entries : List Outbound} {rows : List HandoffEvent}
    (eventIds : entries.map Outbound.eventId = rows.map HandoffEvent.eventId)
    (sequences : entries.map Outbound.sequence = rows.map fun row => (row.handoffId : Int))
    {top : Nat} (stored : ∀ row ∈ rows, row ∈ db.handoffV1.events ∧ row.handoffId ≤ top) (above : reached ≤ top)
    (sound : (session.filled entries).Sound) : AtCursor node.config db top ((session.filled entries).acked top) := by
  refine ⟨sound.acknowledge (le_max_left _ _) le_rfl, ?_, ?_, ?_, ?_⟩
  · rw [Session.acked, Buffer.acknowledge_config, Session.filled_config, ready.config]
  · rw [Session.acked, Buffer.acknowledge_queue, Session.filled_queue, ready.empty, List.nil_append,
      List.dropWhile_eq_nil_iff]
    intro outbound member
    have listed : outbound.sequence ∈ rows.map fun row => (row.handoffId : Int) := by
      rw [← sequences]
      exact List.mem_map_of_mem member
    obtain ⟨row, delivered, same⟩ := List.mem_map.1 listed
    have within := (stored row delivered).2
    rw [← same]
    exact decide_eq_true (by exact_mod_cast within)
  · rw [Session.acked, Buffer.acknowledge_lastAck, Session.filled_lastAck, ready.lastAck]
    omega
  · intro row present beyond seen
    rcases Session.filled_seenEventSet seen with old | new
    · exact ready.unseen row present (by omega) old
    · rw [eventIds] at new
      obtain ⟨other, member, same⟩ := List.mem_map.1 new
      have delivered := stored other member
      rw [log.single other delivered.1 row present same] at delivered
      omega

/-- An acknowledgement of a sequence that the session has seen. -/
theorem handle_ack_seen (encodedBytes : Frame → Nat) (clock : Readings) {top : Nat} (seen : (top : Int) ≤ session.latestSeen) :
    Session.handle encodedBytes { readings := clock, message := .ack (some (top : Int)) } session
      = .reply (.acknowledged (max session.lastAck top) (session.sign clock session.deviceId (max session.lastAck top)))
        (session.acked top) [] := by
  have natural : ¬ (top : Int) < 0 := by omega
  simp only [Session.handle, Session.ack, if_neg natural, if_neg (not_lt.2 seen), Session.acked]

theorem acknowledge_seen {clock : Readings} {top : Nat} (current : client.session = some session)
    (seen : (top : Int) ≤ session.latestSeen) :
    client.acknowledge encodedBytes node clock top
      = ({ session := some (session.acked top)
           cursor := max session.lastAck top
           inputs := client.inputs ++ [{ readings := clock, message := .ack (some (top : Int)) }] }, none) := by
  unfold ClientLoop.acknowledge callSession ackClient
  rw [admits_idle, current, exec_reply (handle_ack_seen _ _ seen)]
  rfl

theorem SameClient.within (same : SameClient connection start session) (readable : Readable node db reached)
    {row : HandoffEvent} (listed : row ∈ relevantRows session.subscriptions (repairPage node db reached)) :
    row ∈ db.handoffV1.events ∧ row.handoffId ≤ loopAdvance node db start reached := by
  obtain ⟨stored, beyond⟩ := mem_page (List.mem_of_mem_filter listed)
  rw [same.subscriptions] at listed
  have relevant : row.envelope.content.aggregateKey ∈ start.subscriptions :=
    of_decide_eq_true (List.mem_filter.1 listed).2
  exact ⟨stored, (mem_delivered readable stored relevant beyond).1 listed⟩

variable (caught : CaughtUp encodedBytes node db connection start first reached client session)

include caught

/-- After the deliveries of a round exactly the relevant events up to the next cursor have been queued. -/
theorem CaughtUp.queued_after (readable : Readable node db reached) (clocks : Nat → Readings) {row : HandoffEvent}
    (stored : row ∈ db.handoffV1.events) (beyond : first < row.handoffId)
    (relevant : row.envelope.content.aggregateKey ∈ start.subscriptions) :
    row.eventId ∈ (Session.enqueued encodedBytes start client.inputs
        ++ (repairEntries encodedBytes node db reached clocks session).map Prod.fst).map Outbound.eventId
      ↔ row.handoffId ≤ loopAdvance node db start reached := by
  have above : reached ≤ loopAdvance node db start reached := le_advance _ _ _ _
  rw [List.map_append, List.mem_append, caught.queued row stored beyond relevant, repairEntries, pageEntries_eventIds,
    caught.same.subscriptions]
  by_cases old : row.handoffId ≤ reached
  · exact iff_of_true (.inl old) (old.trans above)
  · rw [← mem_delivered readable stored relevant (by omega)]
    constructor
    · rintro (earlier | listed)
      · exact absurd earlier old
      · obtain ⟨other, member, same⟩ := List.mem_map.1 listed
        rwa [readable.log.single row stored other (mem_page (List.mem_of_mem_filter member)).1 same.symm]
    · exact fun member => .inr (List.mem_map_of_mem member)

/-- A session that has taken the entries of the page and is ready for the next one is at the next cursor. -/
theorem CaughtUp.next (readable : Readable node db reached) (clocks : Nat → Readings) {client' : ClientLoop}
    {session' : Session} {inputs : List Input} (current : client'.session = some session')
    (cursor : client'.cursor = loopAdvance node db start reached) (handled : client'.inputs = client.inputs ++ inputs)
    (ran : Beam.run (Session.handle encodedBytes) session inputs = some session')
    (new : Session.enqueued encodedBytes session inputs
      = (repairEntries encodedBytes node db reached clocks session).map Prod.fst)
    (ready : AtCursor node.config db (loopAdvance node db start reached) session')
    (same : SameClient connection start session') :
    CaughtUp encodedBytes node db connection start first (loopAdvance node db start reached) client' session' where
  current := current
  cursor := cursor
  ran := by rw [handled, run_append, caught.ran, Option.bind_some, ran]
  ready := ready
  same := same
  queued := by
    intro row stored beyond relevant
    rw [handled, Session.enqueued_append inputs caught.ran, new, caught.queued_after readable clocks stored beyond relevant]

/-- The deliveries of a round, before the client acknowledges them. -/
theorem CaughtUp.deliveries (verifiable : Verifiable node db reached)
    (fits : Fits node.config [] (repairEntries encodedBytes node db reached readings.deliveries start)) :
    ∃ inputs,
      let entries := (repairEntries encodedBytes node db reached readings.deliveries session).map Prod.fst
      let after := { client with session := some (session.filled entries), inputs := client.inputs ++ inputs }
      Beam.run (Session.handle encodedBytes) session inputs = some (session.filled entries)
      ∧ Session.enqueued encodedBytes session inputs = entries
      ∧ client.round encodedBytes node db connection readings
        = match ((relevantRows session.subscriptions (repairPage node db reached)).map
            fun row => (row.handoffId : Int)).max? with
          | none => (after, none)
          | some highest => after.acknowledge encodedBytes node readings.ack highest := by
  rw [← caught.same.repairEntries] at fits
  obtain ⟨⟨result, value⟩, state, effects, new⟩ := repair_fits caught.ready verifiable fits
  refine ⟨_, (exec_run _).symm.trans state, new, ?_⟩
  unfold ClientLoop.round callSession
  rw [admits_idle, caught.current, caught.cursor]
  dsimp only
  rw [value, effects, state]
  rw [repairEntries, received_entries caught.same.connectionPid]

/-- A round over a page with relevant rows moves the cursor to the last of them. -/
theorem CaughtUp.acked (readable : Readable node db reached) {inputs : List Input} {entries : List Outbound}
    {clocks : Nat → Readings} {clock : Readings}
    (page : entries = (repairEntries encodedBytes node db reached clocks session).map Prod.fst)
    (ran : Beam.run (Session.handle encodedBytes) session inputs = some (session.filled entries))
    (new : Session.enqueued encodedBytes session inputs = entries)
    (seen : ((loopAdvance node db start reached : Nat) : Int) ≤ (session.filled entries).latestSeen) :
    let after := { client with session := some (session.filled entries), inputs := client.inputs ++ inputs }
    let acked := after.acknowledge encodedBytes node clock (loopAdvance node db start reached : Nat)
    acked.2 = none ∧ ∃ session', CaughtUp encodedBytes node db connection start first
      (loopAdvance node db start reached) acked.1 session' := by
  have above : reached ≤ loopAdvance node db start reached := le_advance _ _ _ _
  have sound : (session.filled entries).Sound :=
    run_invariant (P := fun session : Session => session.Sound) caught.ready.sound
      (fun _ _ _ sound stepped => (Session.handle_bufferStep stepped).sound sound) ran
  have ready : AtCursor node.config db (loopAdvance node db start reached)
      ((session.filled entries).acked (loopAdvance node db start reached : Nat)) := by
    refine caught.ready.acknowledge readable.log ?_ ?_ (fun row listed => caught.same.within readable listed) above sound
    · rw [page, repairEntries, pageEntries_eventIds]
    · rw [page, repairEntries, pageEntries_sequences]
  have stepped := congrArg Outcome.next? (handle_ack_seen encodedBytes clock seen)
  have nothing : ((session.filled entries).acked (loopAdvance node db start reached : Nat)).queue = [] := ready.empty
  dsimp only
  rw [acknowledge_seen rfl seen]
  refine ⟨rfl, _, caught.next readable clocks rfl ?_ (List.append_assoc _ _ _) ?_ ?_ ready
    ⟨caught.same.1, caught.same.2, caught.same.3, caught.same.4⟩⟩
  · dsimp only
    rw [Session.filled_lastAck, caught.ready.lastAck]
    omega
  · rw [run_concat, ran]
    exact stepped
  · rw [Session.enqueued_append _ ran, new, Session.enqueued_cons stepped, nothing, List.drop_nil, List.nil_append]
    simpa only [Session.enqueued, collect, List.append_nil] using page

/-- **One round.** If the page can be read and fits, the round ends at the next cursor. -/
theorem CaughtUp.round (verifiable : Verifiable node db reached)
    (fits : Fits node.config [] (repairEntries encodedBytes node db reached readings.deliveries start)) :
    (client.round encodedBytes node db connection readings).2 = none ∧ ∃ session',
      CaughtUp encodedBytes node db connection start first (loopAdvance node db start reached)
        (client.round encodedBytes node db connection readings).1 session' := by
  have readable := verifiable.toReadable
  obtain ⟨inputs, ran, new, round⟩ := caught.deliveries verifiable fits
  have ids : (relevantRows start.subscriptions (repairPage node db reached)).map HandoffEvent.handoffId = _ :=
    relevantRows_ids readable
  have sequences : (relevantRows session.subscriptions (repairPage node db reached)).map
      (fun row => (row.handoffId : Int)) = (window (relevantId db start.subscriptions) db.handoffV1.lastHandoffId
        node.config.sessionQueueCapacity.toNat reached).map fun id : Nat => (id : Int) := by
    rw [caught.same.subscriptions, ← ids, List.map_map]
    rfl
  rw [round, sequences]
  rcases advance_cases (relevantId db start.subscriptions) db.handoffV1.lastHandoffId
    node.config.sessionQueueCapacity.toNat reached with ⟨nothing, stays⟩ | member
  · have nothingListed : repairEntries encodedBytes node db reached readings.deliveries session = [] := by
      rw [nothing, List.map_eq_nil_iff] at ids
      rw [repairEntries, caught.same.subscriptions, ids, pageEntries]
    rw [nothingListed] at ran
    have same : loopAdvance node db start reached = reached := stays
    rw [nothing, nothingListed]
    exact ⟨rfl, session, caught.next readable _ rfl (caught.cursor.trans (congrArg _ same.symm)) rfl ran new
      (same.symm ▸ caught.ready) caught.same⟩
  · rw [max_window (List.ne_nil_of_mem member)]
    refine caught.acked readable rfl ran new ?_
    have listed : ((loopAdvance node db start reached : Nat) : Int)
        ∈ ((repairEntries encodedBytes node db reached readings.deliveries session).map Prod.fst).map Outbound.sequence := by
      rw [repairEntries, pageEntries_sequences, sequences]
      exact List.mem_map_of_mem member
    obtain ⟨outbound, queued, same⟩ := List.mem_map.1 listed
    rw [← same]
    exact Session.le_filled_latestSeen queued

/-- **A round that fails.** An event of the page does not fit; it has not been queued before and is not now. -/
theorem CaughtUp.overflows (above : first ≤ reached) (verifiable : Verifiable node db reached)
    (full : ¬ Fits node.config [] (repairEntries encodedBytes node db reached readings.deliveries start)) :
    (client.round encodedBytes node db connection readings).2 = some (.repair .slowConsumer)
      ∧ ∃ row ∈ db.handoffV1.events, reached < row.handoffId ∧ row.envelope.content.aggregateKey ∈ start.subscriptions
        ∧ row.eventId ∉ (Session.enqueued encodedBytes start
          (client.round encodedBytes node db connection readings).1.inputs).map Outbound.eventId := by
  rw [← caught.same.repairEntries] at full
  obtain ⟨value, row, listed, missing⟩ := repair_overflows caught.ready verifiable full
  obtain ⟨failed, inputs⟩ := round_failed connection caught.current caught.cursor value
  obtain ⟨stored, beyond⟩ := mem_page (List.mem_of_mem_filter listed)
  rw [caught.same.subscriptions] at listed
  have relevant : row.envelope.content.aggregateKey ∈ start.subscriptions :=
    of_decide_eq_true (List.mem_filter.1 listed).2
  refine ⟨failed, row, stored, beyond, relevant, ?_⟩
  rw [inputs, Session.enqueued_append _ caught.ran, List.map_append, List.mem_append,
    caught.queued row stored (by omega) relevant]
  rintro (old | new)
  · omega
  · exact missing new

end Round

/-! ## The whole loop -/

/-- A log from which nothing was pruned. -/
structure IntactLog (db : Db) : Prop where
  log : Retains 0 db.handoffV1
  watermark : db.retainedAfterHandoffId = 0
  bigint : (db.handoffV1.lastHandoffId : Int) ≤ maxBigint

section Whole

variable {encodedBytes : Frame → Nat} {node : Node} {db : Db} {connection : Pid} {start : Session} {first : Nat}
  {readings : Nat → RoundReadings} {joined : ClientLoop}

/-- A cursor that a round does not move stays where it is. -/
theorem loopCursor_idle {n cursor : Nat} (reached : loopCursor node db start first n = cursor)
    (idle : loopAdvance node db start cursor = cursor) (m : Nat) : loopCursor node db start first (n + m) = cursor := by
  induction m with
  | zero => exact reached
  | succ m ih => exact (congrArg (loopAdvance node db start) ih).trans idle

theorem rounds_stuck {n : Nat} {failure : RoundError}
    (failed : (rounds encodedBytes node db connection readings joined n).2 = some failure) {m : Nat} (later : n ≤ m) :
    rounds encodedBytes node db connection readings joined m = rounds encodedBytes node db connection readings joined n := by
  induction later with
  | refl => rfl
  | step _ ih =>
    rw [rounds, ih]
    rcases ended : rounds encodedBytes node db connection readings joined n with ⟨client, _ | other⟩
    · rw [ended] at failed
      cases failed
    · rfl

theorem rounds_succ {n : Nat} (running : (rounds encodedBytes node db connection readings joined n).2 = none) :
    rounds encodedBytes node db connection readings joined (n + 1)
      = (rounds encodedBytes node db connection readings joined n).1.round encodedBytes node db connection (readings n) := by
  rw [rounds]
  rcases reached : rounds encodedBytes node db connection readings joined n with ⟨client, _ | failure⟩
  · rfl
  · rw [reached] at running
    cases running

theorem IntactLog.readable (intact : IntactLog db) {cursor : Nat} (bigint : (cursor : Int) ≤ maxBigint)
    (size : node.config.sessionQueueCapacity ≤ 128) : Readable node db cursor where
  log := by
    rw [intact.watermark]
    exact intact.log
  current := by
    rw [intact.watermark]
    exact Nat.zero_le _
  bigint := bigint
  size := size

/-- The cursor never leaves the range of the ids, or stays at the start. -/
theorem loopCursor_bigint (intact : IntactLog db) (bigint : (first : Int) ≤ maxBigint) (n : Nat) :
    (loopCursor node db start first n : Int) ≤ maxBigint := by
  have last := intact.bigint
  have cases : loopCursor node db start first n = first ∨ _ := cursorAt_cases _ _ _ n
  rcases cases with stays | ⟨_, _, inside⟩
  · rw [stays]
    exact bigint
  · rw [loopCursor]
    omega

theorem loopCursor_mono {m n : Nat} (le : m ≤ n) :
    loopCursor node db start first m ≤ loopCursor node db start first n :=
  cursorAt_mono _ _ _ le

/-- The pages of the loop can be read, whatever they hold. -/
structure PagesReadable (node : Node) (db : Db) (first : Nat) : Prop where
  size : node.config.sessionQueueCapacity ≤ 128
  bigint : (first : Int) ≤ maxBigint
  kernel : node.KernelUsable ∨ db.handoffV1.lastHandoffId ≤ first

theorem PagesReadable.verifiable (pages : PagesReadable node db first) (intact : IntactLog db) (n : Nat) :
    Verifiable node db (loopCursor node db start first n) := by
  have readable : Readable node db (loopCursor node db start first n) :=
    intact.readable (loopCursor_bigint intact pages.bigint n) pages.size
  refine ⟨readable, pages.kernel.imp_right fun ended => readable.page_eq_nil.2 (ended.trans ?_)⟩
  exact loopCursor_mono (Nat.zero_le n)

/-- **The run.** As long as the pages fit, the rounds go on. -/
theorem CaughtUp.rounds {session : Session}
    (caught : CaughtUp encodedBytes node db connection start first first joined session)
    (intact : IntactLog db) (pages : PagesReadable node db first) {n : Nat}
    (fits : ∀ m < n, Fits node.config []
      (repairEntries encodedBytes node db (loopCursor node db start first m) (readings m).deliveries start)) :
    (rounds encodedBytes node db connection readings joined n).2 = none ∧ ∃ session',
      CaughtUp encodedBytes node db connection start first (loopCursor node db start first n)
        (rounds encodedBytes node db connection readings joined n).1 session' := by
  induction n with
  | zero => exact ⟨rfl, session, caught⟩
  | succ n ih =>
    obtain ⟨running, _, reached⟩ := ih fun m before => fits m (Nat.lt_succ_of_lt before)
    rw [rounds_succ running]
    exact reached.round (pages.verifiable intact n) (fits n (Nat.lt_succ_self n))

/-- Every relevant event beyond the start has been queued. -/
def AllQueued (encodedBytes : Frame → Nat) (db : Db) (start : Session) (first : Nat) (client : ClientLoop) : Prop :=
  ∀ row ∈ db.handoffV1.events, first < row.handoffId → row.envelope.content.aggregateKey ∈ start.subscriptions →
    row.eventId ∈ (Session.enqueued encodedBytes start client.inputs).map Outbound.eventId

theorem CaughtUp.allQueued_iff {session : Session} {client : ClientLoop} {reached : Nat} (intact : IntactLog db)
    (caught : CaughtUp encodedBytes node db connection start first reached client session) :
    AllQueued encodedBytes db start first client
      ↔ Covered (relevantId db start.subscriptions) db.handoffV1.lastHandoffId first reached := by
  constructor
  · intro all id matching beyond _
    unfold relevantId at matching
    rcases found : db.handoffV1.events.get? id with _ | row
    · rw [found] at matching
      cases matching
    · rw [found, Option.any_some, decide_eq_true_eq] at matching
      obtain ⟨stored, rfl⟩ := Table.get?_eq_some.1 found
      exact (caught.queued row stored beyond matching).1 (all row stored beyond matching)
  · intro covered row stored beyond relevant
    rw [caught.queued row stored beyond relevant]
    refine covered row.handoffId ?_ beyond (intact.log.bounded row stored).2
    rw [relevantId_row stored]
    exact decide_eq_true relevant

theorem joined_sound (config : RuntimeConfig) (sessionId : String) (keys : Finset String) (deviceId : String)
    (connection : Pid) (first : Nat) : (Session.joined config sessionId keys deviceId connection first).Sound := by
  have acknowledged : ((Session.init config sessionId 0).acknowledge first first).Sound :=
    Session.init_sound.acknowledge (Int.natCast_nonneg first) (le_max_right _ _)
  exact acknowledged

theorem caughtUp_joined (encodedBytes : Frame → Nat) (node : Node) (db : Db) (sessionId : String) (keys : Finset String)
    (deviceId : String) (connection : Pid) (first : Nat) :
    let start := Session.joined node.config sessionId keys deviceId connection first
    CaughtUp encodedBytes node db connection start first first { session := some start, cursor := first, inputs := [] }
      start where
  current := rfl
  cursor := rfl
  ran := rfl
  ready := ⟨joined_sound .., rfl, rfl, rfl, fun _ _ _ => Finset.notMem_empty _⟩
  same := ⟨rfl, rfl, rfl, rfl⟩
  queued := by
    intro row _ beyond _
    exact iff_of_false List.not_mem_nil (by omega)

/-- A first round that fails, and not for want of room. -/
theorem rounds_first {session : Session} {failure : RepairError} (current : joined.session = some session)
    (cursor : joined.cursor = first)
    (failed : repair node db (readings 0).toRepairReadings first = .done (.error failure)) :
    (rounds encodedBytes node db connection readings joined 1).2 = some (.repair failure) := by
  refine (round_failed connection current cursor ?_).1
  rw [failed]
  rfl

/-- A loop in which no round fails for another reason than a full queue has readable pages. -/
theorem pagesReadable_of_rounds {session : Session} (intact : IntactLog db) (current : joined.session = some session)
    (cursor : joined.cursor = first)
    (only : ∀ n failure, (rounds encodedBytes node db connection readings joined n).2 = some failure →
      failure = .repair .slowConsumer) : PagesReadable node db first := by
  have accepted : ¬ (128 < node.config.sessionQueueCapacity ∨ maxBigint < (first : Int)) := by
    intro refused
    have refusal : ∃ failure, repair node db (readings 0).toRepairReadings first = .done (.error (.handoff failure)) ∧ _ :=
      repair_refused refused
    obtain ⟨failure, failed, _⟩ := refusal
    cases only 1 _ (rounds_first current cursor failed)
  obtain ⟨size, bigint⟩ := not_or.1 accepted
  have readable : Readable node db first := intact.readable (not_lt.1 bigint) (not_lt.1 size)
  refine ⟨not_lt.1 size, not_lt.1 bigint, ?_⟩
  by_contra unusable
  rw [← readable.page_eq_nil] at unusable
  have unverified : ∃ failure, repair node db (readings 0).toRepairReadings first
      = .done (.error (.sequenceKernel failure)) := repair_unverified readable unusable
  obtain ⟨failure, failed⟩ := unverified
  cases only 1 _ (rounds_first current cursor failed)

/-- A loop that has queued everything has found room for every page. -/
theorem CaughtUp.fits_of_allQueued {session : Session}
    (caught : CaughtUp encodedBytes node db connection start first first joined session)
    (intact : IntactLog db) (pages : PagesReadable node db first) {last : Nat}
    (all : AllQueued encodedBytes db start first (Liqi.Realtime.rounds encodedBytes node db connection readings joined last).1)
    (n : Nat) : Fits node.config []
      (repairEntries encodedBytes node db (loopCursor node db start first n) (readings n).deliveries start) := by
  induction n using Nat.strong_induction_on with
  | _ n fits =>
    by_contra full
    obtain ⟨running, _, reached⟩ := caught.rounds intact pages fits
    obtain ⟨failed, row, stored, beyond, relevant, missing⟩ :=
      reached.overflows (loopCursor_mono (Nat.zero_le n)) (pages.verifiable intact n) full
    rw [← rounds_succ running] at failed missing
    have above : first < row.handoffId := lt_of_le_of_lt (loopCursor_mono (Nat.zero_le n)) beyond
    rcases Nat.lt_or_ge n last with after | before
    · rw [rounds_stuck failed after] at all
      exact missing (all row stored above relevant)
    · obtain ⟨_, _, earlier⟩ := caught.rounds intact pages fun m less => fits m (lt_of_lt_of_le less before)
      have queued := (earlier.queued row stored above relevant).1 (all row stored above relevant)
      have behind : loopCursor node db start first last ≤ loopCursor node db start first n := loopCursor_mono before
      omega

/-- **Catching up.** For every node, every intact log, all keys and every cursor from which a client joins:
the loop queues every relevant event beyond the cursor, and no round fails unless the queue is full, exactly
if the pages can be read, no two neighbouring relevant ids are further apart than a page, and the events of
each page fit. -/
theorem catches_up_iff (encodedBytes : Frame → Nat) (node : Node) (db : Db) (intact : IntactLog db) (sessionId : String)
    (keys : Finset String) (deviceId : String) (connection : Pid) (first : Nat) (readings : Nat → RoundReadings) :
    let start := Session.joined node.config sessionId keys deviceId connection first
    let loop := rounds encodedBytes node db connection readings { session := some start, cursor := first, inputs := [] }
    ((∃ n, AllQueued encodedBytes db start first (loop n).1)
        ∧ ∀ n failure, (loop n).2 = some failure → failure = .repair .slowConsumer)
      ↔ PagesReadable node db first
        ∧ Spaced (relevantId db keys) db.handoffV1.lastHandoffId node.config.sessionQueueCapacity.toNat first
        ∧ ∀ n, Fits node.config []
          (repairEntries encodedBytes node db (loopCursor node db start first n) (readings n).deliveries start) := by
  intro start loop
  have caught := caughtUp_joined encodedBytes node db sessionId keys deviceId connection first
  constructor
  · rintro ⟨⟨last, all⟩, only⟩
    have pages := pagesReadable_of_rounds intact caught.current caught.cursor only
    have fits := caught.fits_of_allQueued intact pages all
    obtain ⟨_, _, reached⟩ := caught.rounds (n := last) intact pages fun m _ => fits m
    exact ⟨pages, covers_iff.1 ⟨last, (reached.allQueued_iff intact).1 all⟩, fits⟩
  · rintro ⟨pages, spaced, fits⟩
    obtain ⟨last, covered⟩ := covers_iff.2 spaced
    have reach : ∀ n, (loop n).2 = none ∧ ∃ session', CaughtUp encodedBytes node db connection start first
        (loopCursor node db start first n) (loop n).1 session' :=
      fun n => caught.rounds intact pages fun m _ => fits m
    refine ⟨⟨last, ?_⟩, fun n failure failed => ?_⟩
    · obtain ⟨_, _, reached⟩ := reach last
      exact (reached.allQueued_iff intact).2 covered
    · have running : (loop n).2 = none := (reach n).1
      rw [running] at failed
      cases failed

end Whole

/-- Two events of one key, then one of another. -/
def sparseLog : Db := runCalls (samplePublish 1 "busy" ++ samplePublish 2 "busy" ++ samplePublish 3 "rare")

theorem sparseLog_intact : IntactLog sparseLog where
  log := by
    have retained : Retains sparseLog.retainedAfterHandoffId sparseLog.handoffV1 := runCalls_logsRetained _ .v1
    have unpruned : sparseLog.retainedAfterHandoffId = 0 := by decide
    rwa [unpruned] at retained
  watermark := by decide
  bigint := by decide

def sampleNode : Node where
  config := smallConfig
  nif := .notLoaded
  nativeInUse := 0
  databaseInUse := 0

def sampleRound : RoundReadings where
  snapshot := sampleReadings
  deliveries := fun _ => sampleReadings
  ack := sampleReadings

theorem sparseLog_readable : PagesReadable sampleNode sparseLog 0 where
  size := by decide
  bigint := by decide
  kernel := Or.inl ⟨by decide, by decide⟩

/-- A client of the keys at the start of the log. -/
def sampleStart (keys : Finset String) : Session := Session.joined sampleNode.config "session" keys "device" 7 0

def sampleLoop (keys : Finset String) : Nat → ClientLoop × Option RoundError :=
  rounds (fun _ => 200) sampleNode sparseLog 7 (fun _ => sampleRound)
    { session := some (sampleStart keys), cursor := 0, inputs := [] }

/-- A page of two ids never reaches the third: the client of its key reads the first two for ever. -/
theorem rare_event_never_queued : IntactLog sparseLog ∧ ∀ n, (sampleLoop {"rare"} n).2 = none
    ∧ ¬ AllQueued (fun _ => 200) sparseLog (sampleStart {"rare"}) 0 (sampleLoop {"rare"} n).1 := by
  refine ⟨sparseLog_intact, fun n => ?_⟩
  have caught := caughtUp_joined (fun _ => 200) sampleNode sparseLog "session" {"rare"} "device" 7 0
  have stays : ∀ m, loopCursor sampleNode sparseLog (sampleStart {"rare"}) 0 m = 0 := by
    intro m
    rw [← Nat.zero_add m]
    exact loopCursor_idle rfl (by decide) m
  have nothing : repairEntries (fun _ => 200) sampleNode sparseLog 0 sampleRound.deliveries (sampleStart {"rare"}) = [] := by
    decide
  have fits : ∀ m < n, Fits sampleNode.config [] (repairEntries (fun _ => 200) sampleNode sparseLog
      (loopCursor sampleNode sparseLog (sampleStart {"rare"}) 0 m) sampleRound.deliveries (sampleStart {"rare"})) := by
    intro m _
    rw [stays, nothing]
    trivial
  obtain ⟨running, _, reached⟩ := caught.rounds sparseLog_intact sparseLog_readable fits
  refine ⟨running, fun all => ?_⟩
  have covered : Covered _ _ 0 (loopCursor sampleNode sparseLog (sampleStart {"rare"}) 0 n) :=
    (reached.allQueued_iff sparseLog_intact).1 all
  rw [stays] at covered
  exact absurd (covered 3 (by decide) (by decide) (by decide)) (by decide)

/-- The client of the other key gets both events in its first round. -/
theorem busy_events_queued : IntactLog sparseLog
    ∧ (∃ n, AllQueued (fun _ => 200) sparseLog (sampleStart {"busy"}) 0 (sampleLoop {"busy"} n).1)
    ∧ ∀ n failure, (sampleLoop {"busy"} n).2 = some failure → failure = .repair .slowConsumer := by
  refine ⟨sparseLog_intact, (catches_up_iff (fun _ => 200) sampleNode sparseLog sparseLog_intact "session" {"busy"}
    "device" 7 0 fun _ => sampleRound).2 ⟨sparseLog_readable, ?_, ?_⟩⟩
  · intro id relevant above within
    have last : sparseLog.handoffV1.lastHandoffId = 3 := by decide
    have rare : relevantId sparseLog {"busy"} 3 = false := by decide
    rcases Nat.lt_or_ge id 3 with near | far
    · exact ⟨0, .inl rfl, above, Nat.le_of_lt_succ near⟩
    · rw [show id = 3 by omega, rare] at relevant
      cases relevant
  · intro n
    have reached : ∀ m, loopCursor sampleNode sparseLog (sampleStart {"busy"}) 0 (m + 1) = 2 := by
      intro m
      rw [Nat.add_comm]
      exact loopCursor_idle (by decide) (by decide) m
    cases n with
    | zero => exact ⟨⟨by decide, by decide, by decide, by decide⟩, ⟨by decide, by decide, by decide, by decide⟩, trivial⟩
    | succ m =>
      have nothing : repairEntries (fun _ => 200) sampleNode sparseLog 2 sampleRound.deliveries (sampleStart {"busy"}) = [] := by
        decide
      show Fits sampleNode.config [] (repairEntries (fun _ => 200) sampleNode sparseLog
        (loopCursor sampleNode sparseLog (sampleStart {"busy"}) 0 (m + 1)) sampleRound.deliveries (sampleStart {"busy"}))
      rw [reached, nothing]
      trivial

end Liqi.Realtime
