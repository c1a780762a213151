import Liqi.Database.PublishSafety

/-!
# Commit order of the handoff log

Any number of producer transactions, each a list of calls, run side by side with any number of
pollers. A poller reads a page after its cursor and later moves the cursor to the largest id it
read; producers may commit in between. An id that a poller has passed was committed before: the
counter's row lock makes ids commit in their order.
-/

namespace Liqi.Database

open Postgres

/-- What a producer transaction may call. -/
inductive ProducerCall where
  | enqueueV0 (a : EnqueueV0) (now : Timestamp)
  | enqueueV1 (a : EnqueueV1) (now : Timestamp)
  | publish (version : Version) (now : Timestamp) (eventId : Option Uuid)
  | requestV0 (a : RequestProbeV0) (clock : RequestClock)
  | requestV1 (a : RequestProbeV1) (clock : RequestClock)

def ProducerCall.body : ProducerCall → Body Unit
  | .enqueueV0 a now => (enqueueOutboxV0 a now).bind fun _ => .ret ()
  | .enqueueV1 a now => (enqueueOutboxV1 a now).bind fun _ => .ret ()
  | .publish version now eventId => (publishRealtimeHandoff version now eventId).bind fun _ => .ret ()
  | .requestV0 a clock => (requestProbeV0 a clock).bind fun _ => .ret ()
  | .requestV1 a clock => (requestProbeV1 a clock).bind fun _ => .ret ()

/-- A producer transaction makes its calls in order. -/
def transaction : List ProducerCall → Body Unit
  | [] => .ret ()
  | call :: calls => call.body.bind fun _ => transaction calls

theorem ProducerCall.keepsLogs (call : ProducerCall) : KeepsLogs [] call.body := by
  cases call with
  | enqueueV0 | enqueueV1 => exact (keepsLogs_enqueue _ _ _).bind fun _ => .ret _
  | publish version now eventId => exact (keepsLogs_publish _ _ _).bind fun _ => .ret _
  | requestV0 a clock => exact (keepsLogs_requestV0 _ _).bind fun _ => .ret _
  | requestV1 a clock => exact (keepsLogs_requestV1 _ _).bind fun _ => .ret _

theorem keepsLogs_transaction (calls : List ProducerCall) : KeepsLogs [] (transaction calls) := by
  induction calls with
  | nil => exact .ret _
  | cons call calls ih => exact call.keepsLogs.bind fun _ => ih

/-- Nothing beyond the invariant is promised. -/
def noPromise : Promise (List ProducerCall) Db Write SqlError Unit := ⟨fun _ _ _ _ => True, fun _ _ _ => True⟩

theorem verified_transaction : Verified transaction Unpruned noPromise := by
  intro calls db _
  have start : Ready [] [] db := fun _ _ inv => inv
  refine Program.Safe.mono ?_ (keepsLogs_transaction calls [] [] db (List.Subset.refl _) start)
  intro r held ws db ending now since inv
  cases r with
  | ok a => exact ⟨ending.2 a rfl now since inv, trivial⟩
  | error e => trivial

/-- The readers of the two logs. -/
def Version.read : Version → Option Int → Option Int → Db → Except SqlError (List HandoffEvent)
  | .v0 => readRealtimeHandoffV0
  | .v1 => readRealtimeHandoffV1

/-- `Enum.reduce(events, cursor, &max(cursor(&1), &2))`. -/
def advanceCursor (cursor : Nat) (events : List HandoffEvent) : Nat :=
  events.foldl (fun cursor event => max event.handoffId cursor) cursor

/-- A poller between its read and the update of its cursor has `fetched` rows; `reads` is everything
it has read so far. -/
structure Poller where
  version : Version
  batch : Int
  cursor : Nat
  fetched : Option (List HandoffEvent)
  reads : List Nat

namespace Poller

def start (version : Version) (batch : Int) : Poller := ⟨version, batch, 0, none, []⟩

/-- Read a page; an error leaves the poller as it was. -/
def fetch (p : Poller) (db : Db) : Poller :=
  match p.version.read (some p.cursor) (some p.batch) db with
  | .ok rows => { p with fetched := some rows }
  | .error _ => p

/-- Move the cursor past the rows of the last read. -/
def advance (p : Poller) : Poller :=
  match p.fetched with
  | some rows =>
    { p with
      cursor := advanceCursor p.cursor rows
      fetched := none
      reads := p.reads ++ rows.map HandoffEvent.handoffId }
  | none => p

end Poller

structure System where
  world : World (List ProducerCall) Db Write Lock SqlError Unit
  pollers : Nat → Poller

namespace System

/-- One step of a producer or of a poller. -/
inductive Step : System → System → Prop where
  | produce {s a w} (step : Postgres.Step transaction s.world a w) : Step s { s with world := w }
  | fetch {s} (i : Nat) (idle : (s.pollers i).fetched = none) :
      Step s { s with pollers := Function.update s.pollers i ((s.pollers i).fetch s.world.db) }
  | advance {s} (i : Nat) : Step s { s with pollers := Function.update s.pollers i (s.pollers i).advance }

/-- The migrated database, no transaction, and pollers at cursor 0. -/
def initial (pollers : Nat → Version × Int) : System :=
  ⟨.initial .migrated, fun i => .start (pollers i).1 (pollers i).2⟩

def Reachable (pollers : Nat → Version × Int) (s : System) : Prop :=
  Relation.ReflTransGen Step (initial pollers) s

end System

/-- What a poller knows about the log it reads. -/
structure Polling (p : Poller) (log : HandoffLog) : Prop where
  reads : p.reads = List.range' 1 p.cursor
  behind : p.cursor ≤ log.lastHandoffId
  fetched : ∀ rows, p.fetched = some rows → ∃ k, rows.map HandoffEvent.handoffId = List.range' (p.cursor + 1) k ∧
    p.cursor + k ≤ log.lastHandoffId

variable {p : Poller} {log : HandoffLog}

theorem Polling.mono {log' : HandoffLog} (h : Polling p log) (grown : log.lastHandoffId ≤ log'.lastHandoffId) :
    Polling p log' where
  reads := h.reads
  behind := Nat.le_trans h.behind grown
  fetched rows read := by
    obtain ⟨k, ids, within⟩ := h.fetched rows read
    exact ⟨k, ids, Nat.le_trans within grown⟩

variable {cursor : Nat}

theorem advanceCursor_consecutive {events : List HandoffEvent} {k : Nat}
    (ids : events.map HandoffEvent.handoffId = List.range' (cursor + 1) k) :
    advanceCursor cursor events = cursor + k := by
  induction k generalizing events cursor with
  | zero =>
    have none : events = [] := by simpa using ids
    rw [none]
    rfl
  | succ k ih =>
    rw [List.range'_succ] at ids
    obtain ⟨event, rest, rfl, first, ids⟩ := List.map_eq_cons_iff.1 ids
    have step : max event.handoffId cursor = cursor + 1 := by omega
    show advanceCursor (max event.handoffId cursor) rest = _
    rw [step, ih ids]
    omega

/-- A page that passes the checks starts at the cursor it was asked for. -/
theorem checkPage_cursor {after n : Nat} {batch : Int}
    (checked : checkPage (some (cursor : Int)) (some batch) = .ok (after, n)) : after = cursor := by
  unfold checkPage at checked
  dsimp only at checked
  split at checked
  · cases checked
  · split at checked
    · cases checked
    · cases checked
      exact Int.toNat_natCast cursor

variable {db : Db} {version : Version}

/-- A read that succeeds returns the consecutive ids after the cursor. -/
theorem read_consecutive (inv : Unpruned db) {batch : Int} {rows : List HandoffEvent}
    (read : version.read (some cursor) (some batch) db = .ok rows) :
    ∃ k, rows.map HandoffEvent.handoffId = List.range' (cursor + 1) k ∧
      (cursor ≤ (db.handoff version).lastHandoffId → cursor + k ≤ (db.handoff version).lastHandoffId) := by
  have page : ∃ n, rows = (db.handoff version).page cursor n := by
    cases version with
    | v0 =>
      obtain ⟨⟨after, n⟩, checked, rest⟩ := bind_ok (show readRealtimeHandoffV0 _ _ _ = _ from read)
      cases rest
      obtain rfl := checkPage_cursor checked
      exact ⟨n, rfl⟩
    | v1 =>
      obtain ⟨⟨after, n⟩, checked, rest⟩ := bind_ok (show readRealtimeHandoffV1 _ _ _ = _ from read)
      dsimp only at rest
      split at rest
      · cases rest
      cases rest
      obtain rfl := checkPage_cursor checked
      exact ⟨n, rfl⟩
  obtain ⟨n, rfl⟩ := page
  refine ⟨_, (inv.logs version).page (Nat.zero_le cursor) n, ?_⟩
  intro behind
  omega

theorem Polling.fetch (inv : Unpruned db) (h : Polling p (db.handoff p.version)) :
    Polling (p.fetch db) (db.handoff (p.fetch db).version) := by
  unfold Poller.fetch
  split
  · rename_i rows read
    refine ⟨h.reads, h.behind, ?_⟩
    intro rows' same
    cases same
    obtain ⟨k, ids, within⟩ := read_consecutive inv read
    exact ⟨k, ids, within h.behind⟩
  · exact h

theorem Polling.advance (h : Polling p log) : Polling p.advance log := by
  unfold Poller.advance
  split
  · rename_i rows read
    obtain ⟨k, ids, within⟩ := h.fetched rows read
    have moved := advanceCursor_consecutive ids
    refine ⟨?_, ?_, nofun⟩
    · show p.reads ++ rows.map HandoffEvent.handoffId = List.range' 1 (advanceCursor p.cursor rows)
      rw [moved, h.reads, ids, Nat.add_comm p.cursor 1, List.range'_append_1]
    · show advanceCursor p.cursor rows ≤ log.lastHandoffId
      omega
  · exact h

/-! ## Commits only add rows -/

variable {row : HandoffEvent}

theorem mem_handoff_apply (stored : row ∈ (db.handoff version).events) (w : Write) :
    row ∈ ((Write.apply db w).handoff version).events := by
  by_cases other : ∀ row, w ≠ .insertHandoffEvent version row
  · rw [handoff_events_apply other]
    exact stored
  · obtain ⟨inserted, rfl⟩ : ∃ row, w = .insertHandoffEvent version row := by simpa using other
    rw [handoff_events_insert]
    exact Table.mem_insert_of_mem stored

theorem mem_handoff_applyAll {ws : List Write} (stored : row ∈ (db.handoff version).events) :
    row ∈ ((Store.applyAll db ws).handoff version).events := by
  induction ws generalizing db with
  | nil => exact stored
  | cons w ws ih => exact ih (mem_handoff_apply stored w)

theorem mem_handoff_step {a : Action (List ProducerCall)}
    {w w' : World (List ProducerCall) Db Write Lock SqlError Unit} (step : Postgres.Step transaction w a w')
    (stored : row ∈ (w.db.handoff version).events) : row ∈ (w'.db.handoff version).events := by
  cases step with
  | commit => exact mem_handoff_applyAll stored
  | start | execute | fail | abort => exact stored

/-- The counter is the largest id of a gap-free log, so a log that keeps its rows keeps its counter. -/
theorem lastHandoffId_le {log' : HandoffLog} (inv : Retains 0 log) (inv' : Retains 0 log')
    (kept : ∀ row ∈ log.events, row ∈ log'.events) : log.lastHandoffId ≤ log'.lastHandoffId := by
  by_cases zero : log.lastHandoffId = 0
  · omega
  · obtain ⟨row, stored, last⟩ := inv.kept log.lastHandoffId (by omega) (Nat.le_refl _)
    have := (inv'.bounded row (kept row stored)).2
    omega

/-- The invariant of producers and pollers together. -/
structure Ordered (s : System) : Prop where
  sound : Sound Unpruned noPromise s.world
  polling : ∀ i, Polling (s.pollers i) (s.world.db.handoff (s.pollers i).version)

theorem Ordered.step {s s' : System} (inv : Ordered s) (step : System.Step s s') : Ordered s' := by
  cases step with
  | produce step =>
    have sound := inv.sound.step verified_transaction step
    refine ⟨sound, fun i => (inv.polling i).mono ?_⟩
    exact lastHandoffId_le (inv.sound.inv.logs _) (sound.inv.logs _) fun row stored => mem_handoff_step step stored
  | fetch i idle =>
    refine ⟨inv.sound, fun j => ?_⟩
    by_cases h : j = i
    · subst h
      simp only [Function.update_self]
      exact (inv.polling j).fetch inv.sound.inv
    · simp only [Function.update_of_ne h]
      exact inv.polling j
  | advance i =>
    refine ⟨inv.sound, fun j => ?_⟩
    by_cases h : j = i
    · subst h
      simp only [Function.update_self]
      have version : (s.pollers j).advance.version = (s.pollers j).version := by
        unfold Poller.advance
        split <;> rfl
      rw [version]
      exact (inv.polling j).advance
    · simp only [Function.update_of_ne h]
      exact inv.polling j

theorem ordered_initial (pollers : Nat → Version × Int) : Ordered (.initial pollers) where
  sound := by
    refine verified_world verified_transaction ⟨rfl, ?_⟩ .initial
    intro version
    cases version with
    | v0 | v1 => exact Retains.empty
  polling i := ⟨rfl, Nat.zero_le _, nofun⟩

theorem Ordered.steps {s s' : System} (inv : Ordered s) (steps : Relation.ReflTransGen System.Step s s') : Ordered s' := by
  induction steps with
  | refl => exact inv
  | tail _ step ih => exact ih.step step

end Liqi.Database
