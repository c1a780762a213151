import Liqi.Database.HandoffRetention
import Liqi.Postgres.Interleaving

/-!
# Publishing among other transactions

A producer transaction publishes while others commit around it. `Ready` is what it carries from
statement to statement: whatever the others commit meanwhile, its own writes so far would leave the
logs gap-free. Inside a publication the counter is ahead of the log, and `Ready` is restored by the
insert: the counter's row lock keeps the id current, the unique index entry keeps the event
unpublished by anyone else.
-/

namespace Liqi.Database

open Postgres Store

/-- Both logs hold every id from 1 to their counter. -/
structure Unpruned (db : Db) : Prop where
  watermark : db.retainedAfterHandoffId = 0
  logs : ∀ version, Retains 0 (db.handoff version)

theorem Unpruned.sameLogs {db db' : Db} (inv : Unpruned db) (same : SameLogs db db') : Unpruned db' where
  watermark := same.watermark.trans inv.watermark
  logs version := by
    rw [same.handoff]
    exact inv.logs version

theorem Unpruned.append {db : Db} (inv : Unpruned db) {version : Version} {row : HandoffEvent}
    (next : row.handoffId = (db.handoff version).lastHandoffId + 1)
    (missing : (db.handoff version).find row.eventId = none) :
    Unpruned (db.setHandoff version ((db.handoff version).append row)) where
  watermark := by
    rw [Db.retained_setHandoff]
    exact inv.watermark
  logs other := by
    by_cases h : other = version
    · subst h
      rw [Db.handoff_setHandoff_self]
      exact (inv.logs other).append next missing
    · rw [Db.handoff_setHandoff_of_ne _ _ h]
      exact inv.logs other

/-- Whatever others commit without touching `held`, the writes `ws` keep the logs gap-free. -/
def Ready (held : List Lock) (ws : List Write) (db : Db) : Prop :=
  ∀ now, Undisturbed held db now → Unpruned now → Unpruned (applyAll now ws)

theorem Ready.later {held : List Lock} {ws : List Write} {db now : Db} (ready : Ready held ws db)
    (since : Undisturbed held db now) (more : List Lock) : Ready (held ++ more) ws now := by
  intro later after inv
  exact ready later (since.trans (after.mono fun l h => List.mem_append_left more h)) inv

/-- A further write outside the logs. -/
theorem Ready.write {held : List Lock} {ws : List Write} {db : Db} (ready : Ready held ws db) {w : Write}
    (outside : ∀ db, SameLogs db (Write.apply db w)) : Ready held (ws ++ [w]) db := by
  intro now since inv
  rw [applyAll_append]
  exact (ready now since inv).sameLogs (outside _)

/-! ## What others cannot change -/

section Stability

variable {ws : List Write} {version : Version} {eventId : Uuid} {held : List Lock} {db now : Db}

theorem isSome_get?_apply {db db' : Db} (mono : ∀ k, (db.outboxEvents.get? k).isSome → (db'.outboxEvents.get? k).isSome)
    (w : Write) (k : Uuid) :
    ((Write.apply db w).outboxEvents.get? k).isSome → ((Write.apply db' w).outboxEvents.get? k).isSome := by
  cases w with
  | insertOutboxEvent row =>
    simp only [Write.apply, Table.isSome_get?_insert]
    exact Or.imp_right (mono k)
  | insertProbeState row => exact mono k
  | setLastHandoffId | insertHandoffEvent =>
    simp only [Write.apply, Db.outboxEvents_setHandoff]
    exact mono k
  | insertIdempotency row => exact mono k

theorem isSome_get?_applyAll {db db' : Db}
    (mono : ∀ k, (db.outboxEvents.get? k).isSome → (db'.outboxEvents.get? k).isSome) (k : Uuid) :
    ((applyAll db ws).outboxEvents.get? k).isSome → ((applyAll db' ws).outboxEvents.get? k).isSome := by
  induction ws generalizing db db' with
  | nil => exact mono k
  | cons w ws ih => exact ih (isSome_get?_apply mono w)

/-- An event that the transaction sees stays visible: no producer deletes events. -/
theorem stored_of_undisturbed (stored : ((applyAll db ws).outboxEvents.get? eventId).isSome)
    (since : Undisturbed held db now) : ((applyAll now ws).outboxEvents.get? eventId).isSome := by
  refine since.stable (P := fun d => ((applyAll d ws).outboxEvents.get? eventId).isSome) (fun d w present _ => ?_) stored
  refine isSome_get?_applyAll (fun k present => ?_) eventId present
  cases w with
  | insertOutboxEvent row =>
    simp only [Store.apply, Write.apply, Table.isSome_get?_insert]
    exact .inr present
  | insertProbeState row => exact present
  | setLastHandoffId | insertHandoffEvent =>
    simp only [Store.apply, Write.apply, Db.outboxEvents_setHandoff]
    exact present
  | insertIdempotency row => exact present

/-- A write outside the counter's row keeps the counter. -/
theorem lastHandoffId_apply {w : Write} (clear : Lock.handoffCounter version ∉ Write.touches w) (db : Db) :
    ((Write.apply db w).handoff version).lastHandoffId = (db.handoff version).lastHandoffId := by
  cases w with
  | insertOutboxEvent | insertProbeState => cases version <;> rfl
  | setLastHandoffId other id =>
    have ne : version ≠ other := by simpa [Write.touches] using clear
    rw [Write.apply, Db.handoff_setHandoff_of_ne _ _ ne]
  | insertHandoffEvent other row =>
    by_cases h : version = other
    · subst h
      rw [Write.apply, Db.handoff_setHandoff_self]
    · rw [Write.apply, Db.handoff_setHandoff_of_ne _ _ h]
  | insertIdempotency row => cases version <;> rfl

theorem lastHandoffId_apply_congr {db db' : Db}
    (same : (db.handoff version).lastHandoffId = (db'.handoff version).lastHandoffId) (w : Write) :
    ((Write.apply db w).handoff version).lastHandoffId = ((Write.apply db' w).handoff version).lastHandoffId := by
  by_cases clear : Lock.handoffCounter version ∉ Write.touches w
  · rw [lastHandoffId_apply clear, lastHandoffId_apply clear, same]
  · cases w with
    | setLastHandoffId other id =>
      have e : version = other := by simpa [Write.touches] using clear
      subst e
      simp only [Write.apply, Db.handoff_setHandoff_self]
    | _ => exact absurd (by simp [Write.touches]) clear

/-- The counter that the transaction sees is current while it holds the counter's row. -/
theorem lastHandoffId_of_undisturbed (counter : Lock.handoffCounter version ∈ held) (since : Undisturbed held db now) :
    ((applyAll now ws).handoff version).lastHandoffId = ((applyAll db ws).handoff version).lastHandoffId := by
  have committed : (now.handoff version).lastHandoffId = (db.handoff version).lastHandoffId := by
    refine since.stable (P := fun d => (d.handoff version).lastHandoffId = (db.handoff version).lastHandoffId)
      (fun d w same clear => ?_) rfl
    exact (lastHandoffId_apply (fun touched => clear _ touched counter) d).trans same
  induction ws using List.reverseRecOn with
  | nil => exact committed
  | append_singleton ws w ih =>
    rw [applyAll_append, applyAll_append]
    exact lastHandoffId_apply_congr ih w

/-- `db'` has no publication of the event beyond those of `db`. -/
structure NoNewer (version : Version) (eventId : Uuid) (db db' : Db) : Prop where
  rows : ∀ row ∈ (db'.handoff version).events, row.eventId = eventId → row ∈ (db.handoff version).events
  ids : ∀ id, ((db.handoff version).events.get? id).isSome → ((db'.handoff version).events.get? id).isSome

theorem handoff_events_apply {w : Write} (other : ∀ row, w ≠ .insertHandoffEvent version row) (db : Db) :
    ((Write.apply db w).handoff version).events = (db.handoff version).events := by
  cases w with
  | insertOutboxEvent | insertProbeState => cases version <;> rfl
  | setLastHandoffId changed id =>
    by_cases h : version = changed
    · subst h
      rw [Write.apply, Db.handoff_setHandoff_self]
    · rw [Write.apply, Db.handoff_setHandoff_of_ne _ _ h]
  | insertHandoffEvent changed row =>
    have ne : version ≠ changed := fun e => other row (by rw [e])
    rw [Write.apply, Db.handoff_setHandoff_of_ne _ _ ne]
  | insertIdempotency row => cases version <;> rfl

theorem handoff_events_insert (db : Db) (version : Version) (row : HandoffEvent) :
    ((Write.apply db (.insertHandoffEvent version row)).handoff version).events
      = (db.handoff version).events.insert row := by
  rw [Write.apply, Db.handoff_setHandoff_self]

theorem NoNewer.apply {db db' : Db} (h : NoNewer version eventId db db') (w : Write) :
    NoNewer version eventId (Write.apply db w) (Write.apply db' w) := by
  by_cases other : ∀ row, w ≠ .insertHandoffEvent version row
  · constructor
    · rw [handoff_events_apply other, handoff_events_apply other]
      exact h.rows
    · rw [handoff_events_apply other, handoff_events_apply other]
      exact h.ids
  · obtain ⟨row, rfl⟩ : ∃ row, w = .insertHandoffEvent version row := by simpa using other
    constructor
    · rw [handoff_events_insert, handoff_events_insert]
      intro r stored same
      by_cases absent : (db'.handoff version).events.get? row.handoffId = none
      · have absent' : (db.handoff version).events.get? row.handoffId = none := by
          by_contra present
          exact Option.isSome_iff_ne_none.1 (h.ids _ (Option.isSome_iff_ne_none.2 present)) absent
        rcases (Table.mem_insert absent).1 stored with old | rfl
        · exact (Table.mem_insert absent').2 (.inl (h.rows r old same))
        · exact (Table.mem_insert absent').2 (.inr rfl)
      · rw [Table.insert_of_present (Option.isSome_iff_ne_none.2 absent)] at stored
        exact Table.mem_insert_of_mem (h.rows r stored same)
    · rw [handoff_events_insert, handoff_events_insert]
      intro id
      simp only [Table.isSome_get?_insert]
      exact Or.imp_right (h.ids id)

/-- One write of another transaction, which holds no index entry of the event. -/
theorem NoNewer.write {w : Write} (clear : Lock.handoffEvent version eventId ∉ Write.touches w) (db : Db) :
    NoNewer version eventId db (Write.apply db w) := by
  by_cases other : ∀ row, w ≠ .insertHandoffEvent version row
  · constructor
    · rw [handoff_events_apply other]
      exact fun _ stored _ => stored
    · rw [handoff_events_apply other]
      exact fun _ present => present
  · obtain ⟨row, rfl⟩ : ∃ row, w = .insertHandoffEvent version row := by simpa using other
    constructor
    · rw [handoff_events_insert]
      intro r stored same
      by_cases absent : (db.handoff version).events.get? row.handoffId = none
      · rcases (Table.mem_insert absent).1 stored with old | rfl
        · exact old
        · simp [Write.touches, same] at clear
      · rwa [Table.insert_of_present (Option.isSome_iff_ne_none.2 absent)] at stored
    · rw [handoff_events_insert]
      intro id present
      exact (Table.isSome_get?_insert row id).2 (.inr present)

theorem NoNewer.applyAll {db db' : Db} (h : NoNewer version eventId db db') :
    NoNewer version eventId (Store.applyAll db ws) (Store.applyAll db' ws) := by
  induction ws generalizing db db' with
  | nil => exact h
  | cons w ws ih => exact ih (h.apply w)

/-- The event stays unpublished while the transaction holds its unique index entry. -/
theorem find_of_undisturbed (entry : Lock.handoffEvent version eventId ∈ held) (since : Undisturbed held db now)
    (missing : ((applyAll db ws).handoff version).find eventId = none) :
    ((applyAll now ws).handoff version).find eventId = none := by
  refine since.stable (P := fun d => ((Store.applyAll d ws).handoff version).find eventId = none)
    (fun d w missing clear => ?_) missing
  have newer : NoNewer version eventId (Store.applyAll d ws) (Store.applyAll (Store.apply d w) ws) :=
    (NoNewer.write (fun touched => clear _ touched entry) d).applyAll
  rw [HandoffLog.find_eq_none] at missing ⊢
  intro row stored same
  exact missing row (newer.rows row stored same) same

end Stability

/-! ## Programs that keep the logs -/

/-- Started with `needed` held and the logs `Ready`, the program ends so if it returns. -/
def KeepsLogs {α : Type} (needed : List Lock) (p : Body α) : Prop :=
  ∀ held ws db, needed ⊆ held → Ready held ws db →
    p.Safe Unpruned (fun r held ws db => needed ⊆ held ∧ ∀ a, r = .ok a → Ready held ws db) held ws db

section Rules

variable {α β : Type} {needed : List Lock}

theorem KeepsLogs.ret (a : α) : KeepsLogs needed (.ret a) :=
  fun _ _ _ has ready => ⟨has, fun _ _ => ready⟩

theorem KeepsLogs.raise (e : SqlError) : KeepsLogs needed (.raise e : Body α) :=
  fun _ _ _ has _ => ⟨has, nofun⟩

theorem KeepsLogs.query {next : Db → Body α} (h : ∀ db, KeepsLogs needed (next db)) : KeepsLogs needed (.query next) := by
  intro held ws db has ready
  apply Program.Safe.query
  intro now since _
  exact h _ held ws now has (by simpa using ready.later since [])

theorem KeepsLogs.lock {next : Body α} {l : Lock} (h : KeepsLogs (l :: needed) next) :
    KeepsLogs needed (.lock l next) := by
  intro held ws db has ready
  apply Program.Safe.lock
  intro now since _
  have more : l :: needed ⊆ held ++ [l] := by
    intro k hk
    rcases List.mem_cons.1 hk with rfl | hk
    · simp
    · exact List.mem_append_left _ (has hk)
  refine Program.Safe.mono ?_ (h _ ws now more (ready.later since [l]))
  intro r held ws db ending
  exact ⟨fun k hk => ending.1 (List.mem_cons_of_mem l hk), ending.2⟩

/-- A statement that locks rows and writes nothing. -/
theorem KeepsLogs.select {locks : Db → List Lock} {next : Db → Body α} (h : ∀ db, KeepsLogs needed (next db)) :
    KeepsLogs needed (.stmt locks (fun _ => []) next) := by
  intro held ws db has ready now since _
  refine ⟨fun w hw => absurd hw List.not_mem_nil, ?_⟩
  simp only [List.append_nil]
  exact h _ _ ws now (fun k hk => List.mem_append_left _ (has hk)) (ready.later since _)

theorem KeepsLogs.insert {ρ : Type} {attempt : Db → Except SqlError (Option ρ)} {keys : ρ → List Lock}
    {write : ρ → Write} {next : Option ρ → Body α}
    (covered : ∀ row, ∀ l ∈ Write.touches (write row), l ∈ keys row ∨ l ∈ needed)
    (outside : ∀ row db, SameLogs db (Write.apply db (write row))) (h : ∀ row, KeepsLogs needed (next row)) :
    KeepsLogs needed (.insert attempt keys write next) := by
  intro held ws db has ready
  apply Program.Safe.insert
  intro now since _
  rcases attempt (applyAll now ws) with e | _ | row
  · exact ⟨has, nofun⟩
  · exact h none held ws now has (by simpa using ready.later since [])
  · refine ⟨fun l hl => ?_, h (some row) _ _ now (fun k hk => List.mem_append_left _ (has hk))
      ((ready.later since (keys row)).write (outside row))⟩
    rcases covered row l hl with key | held'
    · exact List.mem_append_right _ key
    · exact List.mem_append_left _ (has held')

theorem KeepsLogs.bind {p : Body α} {f : α → Body β} (first : KeepsLogs needed p) (rest : ∀ a, KeepsLogs needed (f a)) :
    KeepsLogs needed (p.bind f) := by
  intro held ws db has ready
  apply Program.Safe.bind
  refine Program.Safe.mono ?_ (first held ws db has ready)
  intro r held ws db ending
  cases r with
  | ok a => exact rest a held ws db ending.1 (ending.2 a rfl)
  | error e => exact ⟨ending.1, nofun⟩

end Rules

section Programs

variable {needed : List Lock}

theorem keepsLogs_enqueue (same : OutboxEvent → OutboxEvent → Bool) (d : EventDraft) (now : Timestamp) :
    KeepsLogs needed (enqueue same d now) := by
  unfold enqueue
  split
  · exact .raise _
  · apply KeepsLogs.insert
    · exact fun row l hl => .inl hl
    · exact fun row db => ⟨rfl, rfl, rfl⟩
    · intro inserted
      cases inserted with
      | some row => exact .ret _
      | none =>
        apply KeepsLogs.query
        intro db
        split
        · exact .ret _
        · exact .raise _

/-- The insert that follows the counter. -/
theorem insertHandoff_safe {version : Version} {now : Timestamp} {eventId : Uuid} {id : Nat} {held : List Lock}
    {ws : List Write} {db : Db} (has : needed ⊆ held) (ready : Ready held ws db)
    (counter : Lock.handoffCounter version ∈ held)
    (current : id = ((applyAll db ws).handoff version).lastHandoffId + 1)
    (stored : ((applyAll db ws).outboxEvents.get? eventId).isSome) :
    (insertHandoff version now id eventId).Safe Unpruned
      (fun r held ws db => needed ⊆ held ∧ ∀ a, r = .ok a → Ready held ws db)
      held (ws ++ [.setLastHandoffId version id]) db := by
  apply Program.Safe.insert
  intro later since _
  have view : applyAll later (ws ++ [.setLastHandoffId version id])
      = (applyAll later ws).setHandoff version { (applyAll later ws).handoff version with lastHandoffId := id } := by
    rw [applyAll_append]
    rfl
  obtain ⟨event, found⟩ := Option.isSome_iff_exists.1 (stored_of_undisturbed stored since)
  rw [view]
  simp only [Db.outboxEvents_setHandoff, found, Db.handoff_setHandoff_self]
  rcases clash : HandoffLog.violation { (applyAll later ws).handoff version with lastHandoffId := id }
      ⟨id, eventId, event.envelope, now⟩ with _ | e
  · refine ⟨fun l hl => List.mem_append_right _ hl, fun k hk => List.mem_append_left _ (has hk), fun _ _ => ?_⟩
    have missing : ((applyAll later ws).handoff version).find eventId = none := (violation_eq_none.1 clash).2
    intro ending after inv
    -- the counter and the event's absence are read off the database the transaction ends in
    have clear := (after.mono fun l h => List.mem_append_left _ h : Undisturbed held later ending)
    have intact := ready ending (since.trans clear) inv
    have last : ((applyAll ending ws).handoff version).lastHandoffId + 1 = id := by
      rw [current, lastHandoffId_of_undisturbed counter (since.trans clear)]
    have missing := find_of_undisturbed (by simp) after missing
    have written : applyAll ending (ws ++ [.setLastHandoffId version id] ++
        [.insertHandoffEvent version ⟨id, eventId, event.envelope, now⟩])
        = (applyAll ending ws).setHandoff version
          (((applyAll ending ws).handoff version).append ⟨id, eventId, event.envelope, now⟩) := by
      rw [applyAll_append, applyAll_append]
      simp only [applyAll_cons, applyAll_nil, Store.apply, Write.apply, Db.handoff_setHandoff_self,
        Db.setHandoff_setHandoff, HandoffLog.append]
    rw [written]
    exact intact.append last.symm missing
  · exact ⟨has, fun _ done => by cases done⟩

theorem nextHandoffId_safe {version : Version} {now : Timestamp} {eventId : Uuid} {held : List Lock} {ws : List Write}
    {db : Db} (has : needed ⊆ held) (ready : Ready held ws db)
    (stored : ((applyAll db ws).outboxEvents.get? eventId).isSome) :
    (nextHandoffId version fun id => insertHandoff version now id eventId).Safe Unpruned
      (fun r held ws db => needed ⊆ held ∧ ∀ a, r = .ok a → Ready held ws db) held ws db := by
  intro later since _
  have more : needed ⊆ held ++ [Lock.handoffCounter version] := fun k hk => List.mem_append_left _ (has hk)
  dsimp only
  split
  · refine ⟨?_, insertHandoff_safe more (ready.later since _) (by simp) rfl (stored_of_undisturbed stored since)⟩
    intro w hw l hl
    obtain rfl := List.mem_singleton.1 hw
    exact List.mem_append_right _ hl
  · exact ⟨fun w hw => absurd hw List.not_mem_nil, more, nofun⟩

/-- The checks before the counter end with the event visible. -/
theorem requireSupported_safe {version : Version} {eventId : Uuid} {next : Body Nat} {held : List Lock}
    {ws : List Write} {db : Db} (has : needed ⊆ held) (ready : Ready held ws db)
    (rest : ∀ now, Ready held ws now → ((applyAll now ws).outboxEvents.get? eventId).isSome →
      next.Safe Unpruned (fun r held ws db => needed ⊆ held ∧ ∀ a, r = .ok a → Ready held ws db) held ws now) :
    (version.requireSupported eventId next).Safe Unpruned
      (fun r held ws db => needed ⊆ held ∧ ∀ a, r = .ok a → Ready held ws db) held ws db := by
  have refused : ∀ (e : SqlError) (now : Db), (Program.raise e : Body Nat).Safe Unpruned
      (fun r held ws db => needed ⊆ held ∧ ∀ a, r = .ok a → Ready held ws db) held ws now :=
    fun e now => ⟨has, nofun⟩
  cases version with
  | v0 =>
    apply Program.Safe.query
    intro now since _
    split
    · exact refused _ now
    · apply Program.Safe.query
      intro later after _
      split
      · rename_i supported
        have ready := ready.later (since.trans after) []
        rw [List.append_nil] at ready
        refine rest later ready ?_
        obtain ⟨present, _⟩ := (Option.any_eq_true_iff_get _ _).1 supported
        exact present
      · exact refused _ later
  | v1 =>
    apply Program.Safe.query
    intro now since _
    rcases found : (applyAll now ws).outboxEvents.get? eventId with _ | event
    · exact refused _ now
    · split
      · exact refused _ now
      · have ready := ready.later since []
        rw [List.append_nil] at ready
        exact rest now ready (by rw [found]; rfl)
      · exact refused _ now

theorem keepsLogs_publish (version : Version) (now : Timestamp) (eventId : Option Uuid) :
    KeepsLogs needed (publishRealtimeHandoff version now eventId) := by
  rcases eventId with _ | eventId
  · exact .raise _
  · apply KeepsLogs.lock
    apply KeepsLogs.query
    intro db
    split
    · exact .ret _
    · intro held ws db has ready
      exact requireSupported_safe has ready fun now ready stored => nextHandoffId_safe has ready stored

theorem keepsLogs_requestV0 (a : RequestProbeV0) (clock : RequestClock) : KeepsLogs needed (requestProbeV0 a clock) := by
  unfold requestProbeV0
  split
  · exact .raise _
  · apply KeepsLogs.insert
    · exact fun row l hl => .inl hl
    · exact fun row db => ⟨rfl, rfl, rfl⟩
    · intro _
      apply KeepsLogs.query
      intro db
      split
      · exact (keepsLogs_enqueue _ _ _).bind fun _ => (keepsLogs_publish _ _ _).bind fun _ => .ret _
      · exact .raise _

theorem keepsLogs_createProbe (a : RequestProbeV1) (id : CommandIdentity) (clock : RequestClock) (state : ProbeState)
    (command : Lock.advisory (commandLockText id.scope id.idempotencyKey) ∈ needed) :
    KeepsLogs needed (createProbe a id clock state) := by
  apply KeepsLogs.insert
  · exact fun row l hl => .inl hl
  · exact fun row db => ⟨rfl, rfl, rfl⟩
  · intro _
    refine (keepsLogs_enqueue _ _ _).bind fun _ => (keepsLogs_publish _ _ _).bind fun cursor => ?_
    intro held ws db has ready
    apply Program.Safe.insert
    intro now since _
    split
    · exact ⟨has, nofun⟩
    · rename_i inserted
      split at inserted
      · cases inserted
      · split at inserted <;> cases inserted
    · rename_i row inserted
      have same : row = idempotencyRow id state cursor clock.recorded := by
        split at inserted
        · cases inserted
        · split at inserted
          · cases inserted
          · cases inserted; rfl
      subst same
      refine ⟨?_, fun k hk => List.mem_append_left _ (has hk), fun _ _ =>
        (ready.later since _).write fun db => ⟨rfl, rfl, rfl⟩⟩
      intro l hl
      rcases List.mem_cons.1 hl with rfl | hl
      · exact List.mem_append_left _ (has command)
      · exact List.mem_append_right _ hl

theorem keepsLogs_requestV1 (a : RequestProbeV1) (clock : RequestClock) : KeepsLogs needed (requestProbeV1 a clock) := by
  unfold requestProbeV1
  split
  · exact .raise _
  · apply KeepsLogs.lock
    apply KeepsLogs.query
    intro db
    split
    · split
      · exact .raise _
      · split
        · exact .ret _
        · exact .raise _
    · apply KeepsLogs.select
      intro db
      dsimp only
      split
      · exact .raise _
      split
      · exact .raise _
      split
      · exact .raise _
      · exact keepsLogs_createProbe _ _ _ _ (by simp)

end Programs

end Liqi.Database
