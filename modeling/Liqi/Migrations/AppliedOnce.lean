import Liqi.Migrations.Driver

/-!
# Migrations are applied once, in order

Only the session with the advisory lock gets to a `COMMIT`, so what it has read about the registry is still true there:
the version it records is not recorded yet, and the migrations before it in its manifest are. `Sound` says this of
every run, together with the agreement between the recorded rows and the log of committed files.
-/

namespace Liqi.Migrations

open Postgres

/-- The migration is recorded with its checksum. -/
def Database.Agrees (db : Database) (migration : Migration) : Prop :=
  ∃ row, db.applied? migration.version = some row ∧ row.checksum = migration.checksum

/-- The run has come to a migration of its manifest, and the ones before it are recorded. -/
def Arrived (manifest : List Migration) (db : Database) (migration : Migration) (todo : List Migration) : Prop :=
  ∃ earlier, manifest = earlier ++ migration :: todo ∧ ∀ done ∈ earlier, db.Agrees done

/-- What a run knows at its next statement. -/
def Knows (manifest : List Migration) (db : Database) : Point → Prop
  | .lock todo | .setRole todo => todo = manifest
  | .registryExists migration todo | .migrationApplied migration todo | .checksumMatches migration todo =>
    Arrived manifest db migration todo
  | .insertRun migration todo => Arrived manifest db migration todo ∧ db.applied? migration.version = none
  | .begin work | .file work =>
    Arrived manifest db work.migration work.todo ∧ db.applied? work.migration.version = none
  | .record work | .commit work =>
    Arrived manifest db work.migration work.todo ∧ db.applied? work.migration.version = none ∧
      (work.migration.createsRegistry = true → db.schemaMigrations = none)
  | .finishRun work => Arrived manifest db work.migration work.todo ∧ db.Agrees work.migration
  | .resetRole | .unlock => ∀ migration ∈ manifest, db.Agrees migration
  | .status | .cleanup _ | .exited _ => True

/-- What holds after every step. -/
structure Sound (manifest : Nat → List Migration) (w : World) : Prop where
  exclusive : ∀ run, (w.point run).inside = true → w.lock = some run
  mirrored : w.db.applied.map (fun row => (row.version, row.checksum))
    = w.db.committed.map fun migration => (migration.version, migration.checksum)
  knows : ∀ run, Knows (manifest run) w.db (w.point run)

section Statements

variable {manifest : List Migration} {db db' : Database} {point : Point} {clock : Clock} {run : Nat}

/-- What a run knows is about the registry only. -/
theorem Knows.congr (same : db'.schemaMigrations = db.schemaMigrations) (knows : Knows manifest db point) :
    Knows manifest db' point := by
  obtain ⟨_, _, _⟩ := db
  obtain ⟨_, _, _⟩ := db'
  cases same
  cases point <;> exact knows

/-- A run without the lock knows nothing of the registry. -/
theorem Knows.outside (gone : point.inside = false) (knows : Knows manifest db point) : Knows manifest db' point := by
  cases point <;> first | exact knows | cases gone

theorem knows_failing (code : Nat) : Knows manifest db (point.failing code) := by
  cases point <;> trivial

theorem inside_failing (code : Nat) : (point.failing code).inside = false := by
  cases point <;> rfl

/-- The migrations that are left, when the ones before are recorded. -/
theorem knows_next {earlier todo : List Migration} (whole : manifest = earlier ++ todo)
    (recorded : ∀ done ∈ earlier, db.Agrees done) : Knows manifest db (.next todo) := by
  cases todo with
  | nil =>
    rw [List.append_nil] at whole
    rw [whole]
    exact recorded
  | cons migration todo => exact ⟨earlier, whole, recorded⟩

variable {migration : Migration} {todo : List Migration}

theorem Arrived.next (arrived : Arrived manifest db migration todo) (recorded : db.Agrees migration) :
    Knows manifest db (.next todo) := by
  obtain ⟨earlier, whole, before⟩ := arrived
  refine @knows_next manifest db (earlier ++ [migration]) todo (by simp [whole]) fun done listed => ?_
  rcases List.mem_append.1 listed with old | here
  · exact before done old
  · obtain rfl := List.mem_singleton.1 here
    exact recorded

/-- A recorded row is new, and the rows before it stay. -/
structure Records (clock : Clock) (run : Nat) (migration : Migration) (db : Database) (table : Table SchemaMigration.version) :
    Prop where
  rows : table.rows = db.applied ++ [recordedRow clock run migration]
  lookup : ∀ version, table.get? version
    = if version = migration.version then some (recordedRow clock run migration) else db.applied? version

theorem recordInto_records {table : Table SchemaMigration.version}
    (fresh : migration.createsRegistry = true → db.schemaMigrations = none)
    (recorded : recordInto clock run migration db = some table) : Records clock run migration db table := by
  have before : ∃ old, registryAfter migration db = some old ∧ old.rows = db.applied ∧
      ∀ version, old.get? version = db.applied? version := by
    unfold registryAfter
    split
    next creates => exact ⟨.empty, rfl, by simp [Database.applied, fresh creates, Table.empty],
      fun version => by simp [Database.applied?, fresh creates]⟩
    next =>
      cases found : db.schemaMigrations with
      | none => simp_all [recordInto, registryAfter]
      | some old => exact ⟨old, rfl, by simp [Database.applied, found], fun version => by simp [Database.applied?, found]⟩
  obtain ⟨old, seen, rows, lookup⟩ := before
  unfold recordInto at recorded
  rw [seen] at recorded
  dsimp only at recorded
  split at recorded
  next checked =>
    cases recorded
    have absent : old.get? (recordedRow clock run migration).version = none := by
      simp only [Bool.and_eq_true, Option.isNone_iff_eq_none] at checked
      exact checked.1
    refine ⟨by rw [Table.insert_rows absent, rows], fun version => ?_⟩
    rw [Table.get?_insert absent, lookup]
    rfl
  next => cases recorded

/-- The rows of one database are rows of another. -/
def RowsKept (db db' : Database) : Prop := ∀ version row, db.applied? version = some row → db'.applied? version = some row

theorem RowsKept.agrees (kept : RowsKept db db') (agrees : db.Agrees migration) :
    db'.Agrees migration := by
  obtain ⟨row, found, same⟩ := agrees
  exact ⟨row, kept _ _ found, same⟩

theorem RowsKept.arrived (kept : RowsKept db db') (arrived : Arrived manifest db migration todo) :
    Arrived manifest db' migration todo := by
  obtain ⟨earlier, whole, recorded⟩ := arrived
  exact ⟨earlier, whole, fun done listed => kept.agrees (recorded done listed)⟩

theorem rowsKept_of_same (same : db'.schemaMigrations = db.schemaMigrations) : RowsKept db db' := by
  intro version row found
  unfold Database.applied?
  rw [same]
  exact found

/-- What a commit does. -/
structure Commits (clock : Clock) (run : Nat) (migration : Migration) (db db' : Database) : Prop where
  rows : db'.applied = db.applied ++ [recordedRow clock run migration]
  lookup : ∀ version, db'.applied? version
    = if version = migration.version then some (recordedRow clock run migration) else db.applied? version
  absent : db.applied? migration.version = none
  log : db'.committed = db.committed ++ [migration]

theorem Commits.kept (commits : Commits clock run migration db db') : RowsKept db db' := by
  intro version row found
  rw [commits.lookup, if_neg, found]
  rintro rfl
  rw [commits.absent] at found
  cases found

theorem Commits.agrees (commits : Commits clock run migration db db') :
    db'.Agrees migration := by
  refine ⟨recordedRow clock run migration, ?_, rfl⟩
  rw [commits.lookup, if_pos rfl]

/-- Where a run knows what it knows, a statement keeps the registry or commits the run's migration. -/
theorem Transition.commits {next : Point} (transition : Transition clock run db point db' next)
    (knows : Knows manifest db point) :
    (db'.schemaMigrations = db.schemaMigrations ∧ db'.committed = db.committed) ∨ ∃ work, point = .commit work ∧
      next = .finishRun work ∧ Commits clock run work.migration db db' := by
  rcases transition.registry with same | ⟨work, table, rfl, rfl, recorded, registry, log⟩
  · exact .inl same
  · obtain ⟨_, absent, fresh⟩ := knows
    obtain ⟨rows, lookup⟩ := recordInto_records fresh recorded
    refine .inr ⟨work, rfl, rfl, ⟨?_, fun version => ?_, absent, log⟩⟩
    · rw [← rows]
      simp [Database.applied, registry]
    · rw [← lookup]
      simp [Database.applied?, registry]

/-- A statement that succeeds leaves its run with the knowledge that its next statement needs. -/
theorem Transition.knows {next : Point} (transition : Transition clock run db point db' next)
    (knows : Knows manifest db point) : Knows manifest db' next := by
  have registry := transition.commits knows
  cases transition with
  | locked todo => exact knows
  | roleSet todo => exact @knows_next manifest db [] todo knows.symm nofun
  | registered | known => exact knows
  | unregistered missing => exact ⟨knows, by simp [Database.applied?, missing]⟩
  | unknown absent => exact ⟨knows, absent⟩
  | matched found same => exact Arrived.next knows ⟨_, found, same⟩
  | inserted inserted =>
    obtain ⟨_, rfl, _⟩ := insertRow_eq inserted
    exact knows
  | begun work => exact knows
  | filed fresh => exact ⟨knows.1, knows.2, fun creates => (fresh creates).1⟩
  | recorded => exact knows
  | committed =>
    rcases registry with ⟨_, log⟩ | ⟨work, here, _, commits⟩
    · simp at log
    · cases here
      exact ⟨commits.kept.arrived knows.1, commits.agrees⟩
  | finished _ finished =>
    rcases registry with ⟨same, _⟩ | ⟨_, here, _⟩
    · have kept := rowsKept_of_same same
      exact (kept.arrived knows.1).next (kept.agrees knows.2)
    · cases here
  | completed _ inserted =>
    obtain ⟨_, rfl, _⟩ := insertRow_eq inserted
    exact Arrived.next knows.1 knows.2
  | roleReset => exact knows
  | mismatched | unlocked | reported | cleaned => trivial

end Statements

/-! ## Steps -/

section Steps

variable {manifest : Nat → List Migration} {clock : Clock} {event : Event} {w w' : World}

theorem sound_initial (manifest : Nat → List Migration) : Sound manifest (.initial .empty manifest) where
  exclusive := by
    intro run inside
    simp only [World.initial] at inside
    split at inside <;> cases inside
  mirrored := rfl
  knows := by
    intro run
    simp only [World.initial]
    split
    · trivial
    · rfl

/-- Where a run goes, and where the others stay. -/
theorem point_goTo (w : World) (run other : Nat) (point : Point) :
    (w.goTo run point).point other = if other = run then point else w.point other := by
  simp [World.goTo, Function.update_apply]

theorem Sound.goTo_failing (sound : Sound manifest w) (run code : Nat) :
    Sound manifest (w.goTo run ((w.point run).failing code)) where
  exclusive := by
    intro other inside
    rw [point_goTo] at inside
    split at inside
    · rw [inside_failing] at inside
      cases inside
    · exact sound.exclusive other inside
  mirrored := sound.mirrored
  knows := by
    intro other
    rw [point_goTo]
    split
    · exact knows_failing code
    · exact sound.knows other

variable {run : Nat}

/-- A run inside keeps the lock while another one executes a statement. -/
theorem Sound.holder_other (sound : Sound manifest w) {other : Nat} (free : w.blocked run = false)
    (apart : other ≠ run) (inside : (w.point other).inside = true) : w.holder run = some other := by
  have held := sound.exclusive other inside
  unfold World.holder
  split
  next at_lock =>
    unfold World.blocked at free
    rw [at_lock, held] at free
    cases free
  next at_unlock =>
    have mine := sound.exclusive run (by rw [at_unlock]; rfl)
    rw [held] at mine
    cases mine
    exact absurd rfl apart
  next => exact held

/-- A statement that takes effect, wherever its run goes then. -/
theorem Sound.effect (sound : Sound manifest w) {db : Database} {next point : Point} (free : w.blocked run = false)
    (transition : Transition clock run w.db (w.point run) db next) (arrives : Knows (manifest run) db point)
    (entitled : point.inside = true → w.holder run = some run) :
    Sound manifest ((w.effect run db).goTo run point) := by
  have registry := transition.commits (sound.knows run)
  refine ⟨fun other inside => ?_, ?_, fun other => ?_⟩
  · rw [point_goTo] at inside
    split at inside
    next here =>
      rw [here]
      exact entitled inside
    next apart => exact sound.holder_other free apart inside
  · show db.applied.map _ = db.committed.map _
    rcases registry with ⟨same, log⟩ | ⟨work, _, _, commits⟩
    · rw [log, ← sound.mirrored]
      unfold Database.applied
      rw [same]
    · rw [commits.rows, commits.log, List.map_append, List.map_append, sound.mirrored]
      rfl
  · rw [point_goTo]
    split
    next here =>
      rw [here]
      exact arrives
    next apart =>
      rcases registry with ⟨same, _⟩ | ⟨work, here, _, _⟩
      · exact (sound.knows other).congr same
      · -- the others are outside while this run commits
        refine (sound.knows other).outside (Bool.eq_false_iff.2 fun inside => ?_)
        have mine := sound.exclusive run (by rw [here]; rfl)
        rw [sound.exclusive other inside] at mine
        exact apart (Option.some.inj mine)

/-- The next statement of a run is inside only if the run holds the lock. -/
theorem Sound.entitled (sound : Sound manifest w) {db : Database} {next : Point}
    (transition : Transition clock run w.db (w.point run) db next) (inside : next.inside = true) :
    w.holder run = some run := by
  have held := sound.exclusive run
  unfold World.holder
  generalize w.point run = point at transition held
  cases transition <;> first | rfl | exact held rfl | cases inside

theorem Sound.step (sound : Sound manifest w) (stepped : step clock event w = some w') : Sound manifest w' := by
  cases step_taken stepped with
  | reaped held gone =>
    refine ⟨fun other inside => ?_, sound.mirrored, sound.knows⟩
    have mine := sound.exclusive other inside
    rw [held] at mine
    cases mine
    rw [gone] at inside
    cases inside
  | failed => exact sound.goTo_failing _ _
  | ran free executed =>
    have transition := exec_transition executed
    exact sound.effect free transition (transition.knows (sound.knows _)) (sound.entitled transition)
  | lost free executed =>
    refine sound.effect free (exec_transition executed) (knows_failing 2) fun inside => ?_
    rw [inside_failing] at inside
    cases inside

/-- The rows of a sound world stay. -/
theorem Sound.rowsKept (sound : Sound manifest w) (stepped : Migrations.step clock event w = some w') :
    RowsKept w.db w'.db ∧ w.db.committed <+: w'.db.committed := by
  have effect : ∀ {run db next}, exec clock run w.db (w.point run) = some (db, next) →
      RowsKept w.db db ∧ w.db.committed <+: db.committed := by
    intro run db next executed
    rcases (exec_transition executed).commits (sound.knows run) with ⟨same, log⟩ | ⟨work, _, _, commits⟩
    · exact ⟨rowsKept_of_same same, log ▸ List.prefix_refl _⟩
    · exact ⟨commits.kept, commits.log ▸ List.prefix_append _ _⟩
  cases step_taken stepped with
  | reaped | failed => exact ⟨fun _ _ => id, List.prefix_refl _⟩
  | ran _ executed | lost _ executed => exact effect executed

end Steps

/-! ## Runs -/

section Runs

variable {manifest : Nat → List Migration} {clock : Clock} {w later : World}

/-- A world that some interleaving of the runs reaches from a database without the registry. -/
def Reached (manifest : Nat → List Migration) (clock : Clock) (w : World) : Prop :=
  Trace.Later (step clock) (.initial .empty manifest) w

theorem Reached.sound (reached : Reached manifest clock w) : Sound manifest w :=
  reached.induction (sound_initial manifest) fun _ _ _ sound stepped => sound.step stepped

theorem Sound.keeps (sound : Sound manifest w) (reached : Trace.Later (Migrations.step clock) w later) :
    RowsKept w.db later.db ∧ w.db.committed <+: later.db.committed := by
  have kept : Sound manifest later ∧ RowsKept w.db later.db ∧ w.db.committed <+: later.db.committed := by
    refine reached.induction (P := fun later => Sound manifest later ∧ RowsKept w.db later.db ∧
      w.db.committed <+: later.db.committed) ⟨sound, fun _ _ => id, List.prefix_refl _⟩ ?_
    rintro event before after ⟨sound, rows, log⟩ stepped
    obtain ⟨more, longer⟩ := sound.rowsKept stepped
    exact ⟨sound.step stepped, fun version row found => more version row (rows version row found), log.trans longer⟩
  exact kept.2

/-- The run compares its checksum with another one that is recorded. -/
def World.Mismatched (w : World) (run : Nat) : Prop :=
  ∃ migration todo row, w.point run = .checksumMatches migration todo ∧ w.db.applied? migration.version = some row ∧
    row.checksum ≠ migration.checksum

/-- A comparison that fails, or what follows the driver. -/
def Halting (db : Database) : Point → Prop
  | .checksumMatches migration _ =>
    ∃ row, db.applied? migration.version = some row ∧ row.checksum ≠ migration.checksum
  | .status | .cleanup _ | .exited _ => True
  | _ => False

section Halting

variable {db db' : Database} {point next : Point} {run : Nat}

theorem halting_failing (code : Nat) : Halting db (point.failing code) := by
  cases point <;> trivial

theorem Halting.kept (halting : Halting db point) (kept : RowsKept db db') : Halting db' point := by
  cases point with
  | checksumMatches migration todo =>
    obtain ⟨row, found, other⟩ := halting
    exact ⟨row, kept _ _ found, other⟩
  | _ => exact halting

theorem Halting.transition (halting : Halting db point) (transition : Transition clock run db point db' next) :
    Halting db' next := by
  cases transition with
  | matched found same =>
    obtain ⟨row, found', other⟩ := halting
    rw [found] at found'
    cases found'
    exact absurd same other
  | mismatched | reported | cleaned => trivial
  | _ => cases halting

theorem Halting.executing (halting : Halting db point) : point.executing = false := by
  cases point <;> first | rfl | cases halting

end Halting

theorem Halting.step {run : Nat} {event : Event} {w w' : World} (sound : Sound manifest w)
    (halting : Halting w.db (w.point run)) (stepped : step clock event w = some w') :
    Halting w'.db (w'.point run) := by
  have rows := (sound.rowsKept stepped).1
  cases step_taken stepped with
  | reaped => exact halting
  | failed =>
    rw [point_goTo]
    split
    next => exact halting_failing _
    next => exact halting
  | ran _ executed =>
    rw [point_goTo]
    split
    next here => exact (here ▸ halting).transition (exec_transition executed)
    next => exact halting.kept rows
  | lost _ executed =>
    rw [point_goTo]
    split
    next => exact halting_failing _
    next => exact halting.kept rows

/-! ### In order -/

theorem Sound.recorded_iff (sound : Sound manifest w) (version : Nat) :
    (∃ row, w.db.applied? version = some row) ↔ ∃ migration ∈ w.db.committed, migration.version = version := by
  have versions : w.db.applied.map SchemaMigration.version = w.db.committed.map Migration.version := by
    have both := congrArg (List.map Prod.fst) sound.mirrored
    simpa only [List.map_map, Function.comp_def] using both
  have rows : (∃ row, w.db.applied? version = some row) ↔ version ∈ w.db.applied.map SchemaMigration.version := by
    unfold Database.applied? Database.applied
    cases w.db.schemaMigrations with
    | none => simp
    | some table =>
      simp only [Option.bind_some, Option.map_some, Option.getD_some, List.mem_map, Table.get?_eq_some, Table.mem_def]
  rw [rows, versions, List.mem_map]

/-- The next file of a list that has been committed up to a run's migration. -/
theorem prefix_concat {list committed manifest : List Migration} {db : Database} {migration : Migration}
    {todo : List Migration} (ascending : list.Pairwise fun migration next => migration.version < next.version)
    (begins : manifest <+: list) (log : committed <+: list)
    (recorded : ∀ version, (∃ row, db.applied? version = some row) → ∃ done ∈ committed, done.version = version)
    (logged : ∀ done ∈ committed, ∃ row, db.applied? done.version = some row)
    (arrived : Arrived manifest db migration todo) (absent : db.applied? migration.version = none) :
    committed ++ [migration] <+: list := by
  obtain ⟨earlier, rfl, before⟩ := arrived
  obtain ⟨more, rfl⟩ := begins
  have whole : earlier ++ migration :: todo ++ more = earlier ++ migration :: (todo ++ more) := by simp
  rw [whole] at log ascending ⊢
  have same : committed = earlier := by
    rcases List.prefix_or_prefix_of_prefix log (List.prefix_append _ _) with ⟨rest, short⟩ | ⟨rest, rfl⟩
    · cases rest with
      | nil => simpa using short
      | cons first rest =>
        -- a recorded migration of the run that is not in the log
        subst short
        obtain ⟨row, found, _⟩ := before first (by simp)
        obtain ⟨done, listed, version⟩ := recorded first.version ⟨row, found⟩
        rw [List.append_assoc, List.pairwise_append] at ascending
        have below := ascending.2.2 done listed first (by simp)
        omega
    · cases rest with
      | nil => simp
      | cons first rest =>
        -- the run's own migration is in the log
        rw [List.prefix_append_right_inj, List.cons_prefix_cons] at log
        obtain ⟨row, found⟩ := logged migration (by simp [log.1])
        rw [absent] at found
        cases found
  rw [same]
  exact ⟨todo ++ more, by simp⟩

/-- The committed files are the first ones of the list that all manifests begin. -/
theorem Reached.ordered (reached : Reached manifest clock w) {list : List Migration}
    (ascending : list.Pairwise fun migration next => migration.version < next.version)
    (begins : ∀ run, manifest run <+: list) : w.db.committed <+: list := by
  have kept : Sound manifest w ∧ w.db.committed <+: list := by
    refine reached.induction (P := fun w => Sound manifest w ∧ w.db.committed <+: list)
      ⟨sound_initial manifest, List.nil_prefix⟩ ?_
    rintro event before after ⟨sound, log⟩ stepped
    refine ⟨sound.step stepped, ?_⟩
    have effect : ∀ {run db next}, exec clock run before.db (before.point run) = some (db, next) →
        db.committed <+: list := by
      intro run db next executed
      have knows := sound.knows run
      rcases (exec_transition executed).commits knows with ⟨_, same⟩ | ⟨work, here, _, commits⟩
      · rw [same]
        exact log
      · rw [here] at knows
        rw [commits.log]
        exact prefix_concat ascending (begins run) log (fun version => (sound.recorded_iff version).1)
          (fun done listed => (sound.recorded_iff done.version).2 ⟨done, listed, rfl⟩) knows.1 commits.absent
    cases step_taken stepped with
    | reaped | failed => exact log
    | ran _ executed | lost _ executed => exact effect executed
  exact kept.2

/-- The claims about the migrations of a database and the runs that apply them. -/
structure AppliedOnce (manifest : Nat → List Migration) (clock : Clock) (w : World) : Prop where
  /-- A row exists for a version exactly when the file of the version is committed. -/
  recorded : ∀ version, (∃ row, w.db.applied? version = some row) ↔
    ∃ migration ∈ w.db.committed, migration.version = version
  /-- A version is committed once. -/
  once : (w.db.committed.map Migration.version).Nodup
  /-- The log and the recorded checksums stay. -/
  kept : ∀ later, Trace.Later (step clock) w later → w.db.committed <+: later.db.committed ∧
    ∀ version row, w.db.applied? version = some row →
      ∃ row', later.db.applied? version = some row' ∧ row'.checksum = row.checksum
  /-- A run that meets another checksum executes no migration any more. -/
  stopped : ∀ run, w.Mismatched run → ∀ later, Trace.Later (step clock) w later →
    (later.point run).executing = false
  /-- Manifests that begin one list apply a beginning of it. -/
  ordered : ∀ list : List Migration, list.Pairwise (fun migration next => migration.version < next.version) →
    (∀ run, manifest run <+: list) → w.db.committed.map Migration.version <+: list.map Migration.version

/-- **Applied once, in order.** In every interleaving of any number of runs of `migrate.sh`. -/
theorem migrations_applied_once (reached : Reached manifest clock w) : AppliedOnce manifest clock w := by
  have sound := reached.sound
  refine ⟨sound.recorded_iff, ?_, fun later after => ?_, fun run mismatched later after => ?_, fun list ascending begins => ?_⟩
  · have versions := congrArg (List.map Prod.fst) sound.mirrored
    simp only [List.map_map, Function.comp_def] at versions
    rw [← versions]
    unfold Database.applied
    cases w.db.schemaMigrations with
    | none => exact List.nodup_nil
    | some table => exact table.unique
  · obtain ⟨rows, log⟩ := sound.keeps after
    exact ⟨log, fun version row found => ⟨row, rows version row found, rfl⟩⟩
  · obtain ⟨migration, todo, row, here, found, other⟩ := mismatched
    have start : Halting w.db (w.point run) := by
      rw [here]
      exact ⟨row, found, other⟩
    have halting : Sound manifest later ∧ Halting later.db (later.point run) :=
      after.induction (P := fun later => Sound manifest later ∧ Halting later.db (later.point run)) ⟨sound, start⟩
        fun _ _ _ kept stepped => ⟨kept.1.step stepped, kept.2.step kept.1 stepped⟩
    exact halting.2.executing
  · exact (reached.ordered ascending begins).map _

end Runs

section Sample

def sampleChecksum : String := "0123456789abcdef0123456789abcdef0123456789abcdef0123456789abcdef"

def platformMetadata : Migration := ⟨1, "platform_metadata", sampleChecksum, true⟩

def platformOutbox : Migration := ⟨2, "platform_outbox_probe", sampleChecksum, false⟩

def sampleManifest (_ : Nat) : List Migration := [platformMetadata, platformOutbox]

def sampleClock : Clock := ⟨fun _ _ => 1, fun _ _ => 0, fun _ _ => 1, fun _ => 1⟩

/-- Statements of a run that succeed. -/
def succeeding (run count : Nat) : List Event := List.replicate count (.statement run .done)

/-- The first run loses its connection while it commits its second migration, whose commit takes effect; the second run
then finds both. -/
def interruptedRun : List Event :=
  succeeding 0 14 ++ [.statement 0 .lostAfter, .reap 0] ++ succeeding 1 11

theorem interrupted_run_applied_once : ∃ w, Reached sampleManifest sampleClock w ∧
    w.db.committed = [platformMetadata, platformOutbox] ∧ AppliedOnce sampleManifest sampleClock w := by
  have ran : (Trace.run (step sampleClock) interruptedRun (.initial .empty sampleManifest)).map (·.db.committed)
      = some [platformMetadata, platformOutbox] := by decide +kernel
  obtain ⟨w, reached, committed⟩ := Option.map_eq_some_iff.1 ran
  exact ⟨w, ⟨_, reached⟩, committed, migrations_applied_once ⟨_, reached⟩⟩

end Sample

end Liqi.Migrations
