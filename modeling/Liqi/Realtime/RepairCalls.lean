import Liqi.Realtime.RepairPage

/-!
# A repair whose calls may be refused

`ActorRouter.call` looks at the mailbox of the session before every call, so a repair can be cut off between
two of its deliveries. It then ends with an error and leaves in the queue what it delivered so far. A session
that handles its calls in time ends a repair in no other way: it is refused before any delivery, it is cut off,
or it runs until it is done or the queue has no room.
-/

namespace Liqi.Realtime

open Postgres Liqi.Database Liqi.Runtime Liqi.Native Beam

section Deliveries

variable {encodedBytes : Frame → Nat} {clocks : Nat → Readings} {fates : Nat → Fate} {index : Nat} {row : HandoffEvent}
  {rows : List HandoffEvent} {session : Session}

/-- The deliveries from `index` on are answered until one of them finds no room. -/
def Uninterrupted (encodedBytes : Frame → Nat) (clocks : Nat → Readings) :
    (Nat → Fate) → Nat → List HandoffEvent → Session → Prop
  | _, _, [], _ => True
  | fates, index, row :: rest, session =>
    fates 0 = .answered
      ∧ ((session.Fresh (eventOfRow row) row.handoffId →
          session.HasRoom encodedBytes (clocks index) (eventOfRow row) row.handoffId) →
        Uninterrupted encodedBytes clocks (Fate.after 1 fates) (index + 1) rest
          (session.enqueueEvent encodedBytes (clocks index) (eventOfRow row)).2.1)

/-- The session with more in its queue, for the same connection. -/
structure Session.Extends (session next : Session) : Prop where
  queue : session.queue <+: next.queue
  connection : next.connectionPid = session.connectionPid

theorem Session.Extends.refl (session : Session) : session.Extends session := ⟨List.prefix_rfl, rfl⟩

theorem deliverAll_uninterrupted (through : Uninterrupted encodedBytes clocks fates index rows session) :
    let ended := (deliverAll clocks index rows).serve (Session.handle encodedBytes) fates (some session)
    (∃ next, ended.state = some next) ∧ (ended.value = .ok () ∨ ended.value = .error .slowConsumer) := by
  induction rows generalizing fates index session with
  | nil => exact ⟨⟨session, rfl⟩, .inl rfl⟩
  | cons row rest ih =>
    obtain ⟨answered, onward⟩ := through
    by_cases finds : session.Fresh (eventOfRow row) row.handoffId →
        session.HasRoom encodedBytes (clocks index) (eventOfRow row) row.handoffId
    · obtain ⟨effects, ran⟩ := Session.deliverAll_passes answered finds
      rw [ran]
      exact ih (onward finds)
    · obtain ⟨fresh, full⟩ := Classical.not_imp.1 finds
      obtain ⟨next, effects, ran⟩ := Session.deliverAll_full answered fresh full
      rw [ran]
      exact ⟨⟨next, rfl⟩, .inr rfl⟩

/-- Deliveries that are cut off: what was delivered stays, and that is nothing exactly if it was nothing new. -/
theorem deliverAll_interrupted (inTime : InTime fates) (cut : ¬ Uninterrupted encodedBytes clocks fates index rows session) :
    let ended := (deliverAll clocks index rows).serve (Session.handle encodedBytes) fates (some session)
    ended.value = .error (.actor .overloaded) ∧ ∃ next, ended.state = some next ∧ session.Extends next
      ∧ ((∀ row ∈ beforeRefusal fates rows, ¬ session.Fresh (eventOfRow row) row.handoffId) → next = session)
      ∧ ((∃ row ∈ beforeRefusal fates rows, session.Fresh (eventOfRow row) row.handoffId) →
        session.queue.length < next.queue.length) := by
  induction rows generalizing fates index session with
  | nil => exact absurd trivial cut
  | cons row rest ih =>
    by_cases answered : fates 0 = .answered
    swap
    · simp only [deliverAll]
      rw [serve_refused (inTime.refused answered), beforeRefusal_nil answered]
      exact ⟨rfl, session, rfl, .refl session, fun _ => rfl, by simp⟩
    have finds : session.Fresh (eventOfRow row) row.handoffId →
        session.HasRoom encodedBytes (clocks index) (eventOfRow row) row.handoffId := by
      by_contra full
      exact cut ⟨answered, fun finds => absurd finds full⟩
    have later := ih (inTime.after 1) fun through => cut ⟨answered, fun _ => through⟩
    obtain ⟨effects, ran⟩ := Session.deliverAll_passes answered finds
    rw [ran, beforeRefusal_cons answered]
    by_cases fresh : session.Fresh (eventOfRow row) row.handoffId
    · rw [Session.enqueueEvent_of_room fresh (finds fresh)] at later ⊢
      obtain ⟨value, next, state, extended, _, _⟩ := later
      have pushed := extended.queue.length_le
      simp only [Buffer.push, List.length_append, List.length_singleton] at pushed
      refine ⟨value, next, state, ⟨?_, extended.connection⟩, fun none => absurd fresh (none row (by simp)), fun _ => by omega⟩
      exact (List.prefix_append _ _).trans extended.queue
    · rw [Session.enqueueEvent_of_old fresh] at later ⊢
      obtain ⟨value, next, state, extended, kept, grown⟩ := later
      refine ⟨value, next, state, extended, fun none => kept fun other member => none other (by simp [member]), ?_⟩
      rintro ⟨other, member, new⟩
      rcases List.mem_cons.1 member with rfl | member
      · exact absurd new fresh
      · exact grown ⟨other, member, new⟩

end Deliveries

section Repair

variable {encodedBytes : Frame → Nat} {node : Node} {db : Db} {readings : RepairReadings} {fates : Nat → Fate}
  {cursor : Int} {rows : List HandoffEvent} {session : Session}

/-- The repair reaches its end, or a delivery that finds no room. -/
structure RepairServed (encodedBytes : Frame → Nat) (node : Node) (db : Db) (readings : RepairReadings)
    (fates : Nat → Fate) (cursor : Int) (session : Session) (rows : List HandoffEvent) : Prop where
  page : PageRead node db cursor rows
  snapshot : fates 0 = .answered
  deliveries : Uninterrupted encodedBytes readings.deliveries (Fate.after 1 fates) 0
    (relevantRows session.subscriptions rows) session

/-- The repair delivers an event that is new to the session. -/
structure RepairDisturbs (node : Node) (db : Db) (fates : Nat → Fate) (cursor : Int) (session : Session)
    (rows : List HandoffEvent) : Prop where
  page : PageRead node db cursor rows
  snapshot : fates 0 = .answered
  fresh : ∃ row ∈ beforeRefusal (Fate.after 1 fates) (relevantRows session.subscriptions rows),
    session.Fresh (eventOfRow row) row.handoffId

/-- The read raises only for a cursor that is no `bigint`. -/
theorem gapRead_raised (nonneg : 0 ≤ cursor) :
    gapRead db cursor node.config.sessionQueueCapacity = .error .raised ↔ maxBigint < cursor := by
  obtain ⟨cursor, rfl⟩ := Int.eq_ofNat_of_zero_le nonneg
  constructor
  · intro raised
    by_contra bigint
    rw [gapRead_eq (not_lt.1 bigint)] at raised
    rcases read : readRealtimeHandoffV1 (some (cursor : Int)) (some node.config.sessionQueueCapacity) db with failure | rows
    · rw [read] at raised
      cases raised
    · rw [read] at raised
      cases raised
  · intro beyond
    have positive : ¬ (cursor : Int) < 0 := by omega
    unfold gapRead readHandoff
    rw [if_neg positive, if_pos (.inr (.inl beyond))]

/-- A repair that fails before its first call. -/
theorem repair_unread (unread : ∀ rows, ¬ PageRead node db cursor rows) :
    ∃ failure, repair node db readings cursor = .done (.error failure) ∧ failure ≠ .slowConsumer ∧ failure ≠ .raised
      ∧ (failure = .handoff .raised ↔ gapRead db cursor node.config.sessionQueueCapacity = .error .raised) := by
  unfold repair
  rcases read : gapRead db cursor node.config.sessionQueueCapacity with failure | rows
  · exact ⟨.handoff failure, rfl, nofun, nofun, by simp⟩
  · dsimp only
    have incomplete : ∀ failure, verifySequenceWindow node rows cursor = .error failure →
        failure ≠ .slowConsumer ∧ failure ≠ .raised ∧ failure ≠ .handoff .raised := by
      intro failure failed
      unfold verifySequenceWindow at failed
      split at failed
      · cases failed
      · split at failed
        · cases failed
        · cases failed
          exact ⟨nofun, nofun, nofun⟩
        · cases failed
          exact ⟨nofun, nofun, nofun⟩
    rcases complete : verifySequenceWindow node rows cursor with failure | _
    · obtain ⟨first, second, third⟩ := incomplete failure complete
      exact ⟨failure, rfl, first, second, iff_of_false third nofun⟩
    · exact absurd ⟨read, complete⟩ (unread rows)

theorem RepairServed.ends (served : RepairServed encodedBytes node db readings fates cursor session rows) :
    let ended := (repair node db readings cursor).serve (Session.handle encodedBytes) fates (some session)
    (∃ next, ended.state = some next) ∧ ((∃ result, ended.value = .ok result) ∨ ended.value = .error .slowConsumer) := by
  obtain ⟨⟨next, state⟩, value⟩ := deliverAll_uninterrupted served.deliveries
  have completes := served.page.completes fates served.snapshot encodedBytes readings session
  exact ⟨⟨next, completes.state.trans state⟩, value.imp completes.done completes.failed⟩

/-- **A repair that fails.** It leaves a live session for the same connection; the session is as it was exactly
if no new event reached it. -/
theorem repair_unserved (inTime : InTime fates)
    (unserved : ∀ rows, ¬ RepairServed encodedBytes node db readings fates cursor session rows) :
    let ended := (repair node db readings cursor).serve (Session.handle encodedBytes) fates (some session)
    ∃ failure next, ended.value = .error failure ∧ ended.state = some next
      ∧ (failure ≠ .slowConsumer ∧ failure ≠ .raised
        ∧ (failure = .handoff .raised ↔ gapRead db cursor node.config.sessionQueueCapacity = .error .raised))
      ∧ session.Extends next
      ∧ ((∀ rows, ¬ RepairDisturbs node db fates cursor session rows) → next = session)
      ∧ ((∃ rows, RepairDisturbs node db fates cursor session rows) → next.queue ≠ session.queue) := by
  by_cases read : ∃ rows, PageRead node db cursor rows
  swap
  · have refused : ∃ failure, repair node db readings cursor = .done (.error failure) ∧ _ :=
      repair_unread (not_exists.1 read)
    obtain ⟨failure, failed, shape⟩ := refused
    rw [failed]
    refine ⟨failure, session, rfl, rfl, shape, .refl session, fun _ => rfl, ?_⟩
    rintro ⟨rows, disturbs⟩
    exact absurd ⟨rows, disturbs.page⟩ read
  obtain ⟨rows, page⟩ := read
  have same : ∀ {other}, PageRead node db cursor other → other = rows := fun found =>
    Except.ok.inj (found.read.symm.trans page.read)
  have shape : RepairError.actor .overloaded ≠ .slowConsumer ∧ RepairError.actor .overloaded ≠ .raised
      ∧ (RepairError.actor .overloaded = .handoff .raised
        ↔ gapRead db cursor node.config.sessionQueueCapacity = .error .raised) := by
    rw [page.read]
    exact ⟨nofun, nofun, iff_of_false nofun nofun⟩
  by_cases answered : fates 0 = .answered
  swap
  · rw [page.refused (inTime.refused answered)]
    refine ⟨_, session, rfl, rfl, shape, .refl session, fun _ => rfl, ?_⟩
    rintro ⟨other, disturbs⟩
    exact absurd disturbs.snapshot answered
  obtain ⟨value, next, state, extended, kept, grown⟩ := deliverAll_interrupted (inTime.after 1) fun through =>
    unserved rows ⟨page, answered, through⟩
  have completes := page.completes fates answered encodedBytes readings session
  refine ⟨.actor .overloaded, next, completes.failed value, completes.state.trans state, shape, extended, ?_, ?_⟩
  · exact fun undisturbed => kept fun row member new => undisturbed rows ⟨page, answered, row, member, new⟩
  · rintro ⟨other, disturbs⟩ unchanged
    obtain rfl := same disturbs.page
    have longer := grown disturbs.fresh
    rw [unchanged] at longer
    omega

end Repair

end Liqi.Realtime
