import Liqi.Database.Probe
import Liqi.Trace

/-!
# The migration driver

`migrate.sh` writes a script for `psql` that takes a session lock, runs the files of its manifest that are not
recorded yet, each in a transaction that also records it, and keeps a row of `migration_runs` beside. If the script
fails, a second session marks every row that is still running as failed; if it ends well, `migration-status.sh` reads
the readiness of the last version.

Any number of runs work on one database. `Point` is the next statement of a run, `exec` what the statement does when
it is executed, `step` one statement of one run: it may also fail, or lose its connection before or after it took
effect.
-/

namespace Liqi.Migrations

open Postgres Liqi.Database

/-! ## The tables -/

/-- A file of a manifest with its checksum. `createsRegistry` is whether the file creates `schema_migrations` and
`migration_runs`, as the first one does. -/
structure Migration where
  version : Nat
  name : String
  checksum : String
  createsRegistry : Bool
  deriving DecidableEq

/-- `schema_migrations`. -/
structure SchemaMigration where
  version : Nat
  name : String
  checksum : String
  appliedAt : Timestamp
  deriving DecidableEq

/-- The `CHECK`s of `schema_migrations`. -/
def SchemaMigration.valid (row : SchemaMigration) : Bool :=
  0 < row.version && matchesAll (fun c => isLowerOrDigit c || c == '_') 1 row.name.toList.length row.name
    && matchesAll isLowerHex 64 64 row.checksum

inductive RunStatus where
  | running
  | succeeded
  | failed
  deriving DecidableEq

/-- The columns of `migration_runs`, the key apart. -/
structure RunColumns where
  status : RunStatus
  startedAt : Timestamp
  finishedAt : Option Timestamp
  targetVersion : Option Nat
  failedVersion : Option Nat
  errorCode : Option String
  deriving DecidableEq

/-- The `CHECK`s of `migration_runs`. -/
def RunColumns.valid (c : RunColumns) : Bool :=
  c.targetVersion.all (0 < ·) && c.failedVersion.all (0 < ·) &&
    match c.status with
    | .running => c.finishedAt.isNone && c.errorCode.isNone
    | .succeeded => c.finishedAt.isSome && c.failedVersion.isNone && c.errorCode.isNone
    | .failed => c.finishedAt.isSome && c.failedVersion.isSome && c.errorCode.isSome

/-- `migration_runs`. `inserter` is the run of `migrate.sh` that inserted the row; no statement reads it. -/
structure MigrationRun extends RunColumns where
  inserter : Nat
  checked : toRunColumns.valid = true
  deriving DecidableEq

/-- A table that does not exist yet is none. The rows of `migration_runs` are never deleted: the position of a row is
its key. `committed` is the log of the files whose transaction was committed; no statement reads it. -/
structure Database where
  schemaMigrations : Option (Table SchemaMigration.version)
  migrationRuns : Option (List MigrationRun)
  committed : List Migration

/-- A database without the registry. -/
def Database.empty : Database := ⟨none, none, []⟩

namespace Database

/-- The rows of `schema_migrations`. -/
def applied (db : Database) : List SchemaMigration := (db.schemaMigrations.map Table.rows).getD []

/-- The row of a version. -/
def applied? (db : Database) (version : Nat) : Option SchemaMigration := db.schemaMigrations.bind (·.get? version)

/-- The rows of `migration_runs`. -/
def runs (db : Database) : List MigrationRun := db.migrationRuns.getD []

/-- `EXISTS (SELECT 1 FROM migration_runs WHERE status = 'failed' AND started_at >= COALESCE(max(applied_at), '-infinity'))`. -/
def failedRun (db : Database) : Prop :=
  ∃ run ∈ db.runs, run.status = .failed ∧ ∀ row ∈ db.applied, row.appliedAt ≤ run.startedAt

instance (db : Database) : Decidable db.failedRun := inferInstanceAs (Decidable (∃ run ∈ db.runs, _))

/-- `ready` of `database_readiness_v0(required_version)`. -/
def Ready (db : Database) (required : Nat) : Prop :=
  ¬ db.failedRun ∧ required ≤ ((db.applied.map SchemaMigration.version).max?).getD 0

instance (db : Database) (required : Nat) : Decidable (db.Ready required) := inferInstanceAs (Decidable (_ ∧ _))

end Database

/-- The clock readings of the statements of a run: for a version, or for its cleanup. -/
structure Clock where
  appliedAt : Nat → Nat → Timestamp
  startedAt : Nat → Nat → Timestamp
  finishedAt : Nat → Nat → Timestamp
  failedAt : Nat → Timestamp

/-! ## The statements -/

/-- The migration that a run works on, those behind it, and `migration_run_id`. -/
structure Work where
  migration : Migration
  todo : List Migration
  runId : Option Nat
  deriving DecidableEq

/-- The next statement of a run, or its exit status. -/
inductive Point where
  | lock (todo : List Migration)
  | setRole (todo : List Migration)
  | registryExists (migration : Migration) (todo : List Migration)
  | migrationApplied (migration : Migration) (todo : List Migration)
  | checksumMatches (migration : Migration) (todo : List Migration)
  | insertRun (migration : Migration) (todo : List Migration)
  | begin (work : Work)
  | file (work : Work)
  | record (work : Work)
  | commit (work : Work)
  | finishRun (work : Work)
  | resetRole
  | unlock
  | status
  | cleanup (code : Nat)
  | exited (code : Nat)
  deriving DecidableEq

namespace Point

/-- The first statement for the migrations that are left. -/
def next : List Migration → Point
  | [] => .resetRole
  | migration :: todo => .registryExists migration todo

/-- A statement that only a session with the lock gets to. -/
def inside : Point → Bool
  | .lock _ | .status | .cleanup _ | .exited _ => false
  | _ => true

/-- The run executes a migration. -/
def executing : Point → Bool
  | .begin _ | .file _ | .record _ | .commit _ => true
  | _ => false

/-- Where a run goes when `psql` ends with an error: `migrate.sh` cleans up after the driver only. -/
def failing (code : Nat) : Point → Point
  | .status => .exited code
  | .cleanup code => .exited code
  | _ => .cleanup code

end Point

def insertedRun (clock : Clock) (run : Nat) (migration : Migration) : RunColumns where
  status := .running
  startedAt := clock.startedAt run migration.version
  finishedAt := none
  targetVersion := some migration.version
  failedVersion := none
  errorCode := none

/-- `INSERT INTO migration_runs`; none is an error. -/
def insertRow (run : Nat) (columns : RunColumns) (db : Database) : Option Database :=
  match db.migrationRuns with
  | none => none
  | some rows => if checked : columns.valid = true then
      some { db with migrationRuns := some (rows ++ [{ columns with inserter := run, checked }]) }
    else none

/-- `SET status = 'succeeded', finished_at = clock_timestamp()`. -/
def RunColumns.succeed (now : Timestamp) (columns : RunColumns) : RunColumns :=
  { columns with status := .succeeded, finishedAt := some now }

/-- The cleanup of one row. -/
def RunColumns.fail (now : Timestamp) (code : Nat) (columns : RunColumns) : RunColumns :=
  { columns with
    status := .failed
    finishedAt := some now
    failedVersion := columns.targetVersion
    errorCode := some ("migration.psql_exit_" ++ toString code) }

/-- An `UPDATE` of a row; none violates a `CHECK`. -/
def MigrationRun.set (row : MigrationRun) (columns : RunColumns) : Option MigrationRun :=
  if checked : columns.valid = true then some { columns with inserter := row.inserter, checked } else none

/-- `UPDATE migration_runs SET status = 'succeeded' ... WHERE run_id = ...`. -/
def finishRow (now : Timestamp) (runId : Nat) (db : Database) : Option Database :=
  match db.migrationRuns with
  | none => none
  | some rows => match rows[runId]? with
    | none => some db
    | some row => (row.set (row.succeed now)).map fun row' => { db with migrationRuns := some (rows.set runId row') }

/-- `UPDATE migration_runs SET status = 'failed' ... WHERE status = 'running'`, of one row. -/
def MigrationRun.clean (now : Timestamp) (code : Nat) (row : MigrationRun) : Option MigrationRun :=
  if row.status = .running then row.set (row.fail now code) else some row

/-- The `DO` block of the cleanup. -/
def cleaned (now : Timestamp) (code : Nat) (db : Database) : Option Database :=
  match db.migrationRuns with
  | none => some db
  | some rows => (rows.mapM (MigrationRun.clean now code)).map fun rows' => { db with migrationRuns := some rows' }

/-- The row that records a migration. -/
def recordedRow (clock : Clock) (run : Nat) (migration : Migration) : SchemaMigration where
  version := migration.version
  name := migration.name
  checksum := migration.checksum
  appliedAt := clock.appliedAt run migration.version

/-- `schema_migrations` as a transaction sees it that has run the file. -/
def registryAfter (migration : Migration) (db : Database) : Option (Table SchemaMigration.version) :=
  if migration.createsRegistry then some .empty else db.schemaMigrations

/-- `INSERT INTO schema_migrations`; none is an error. -/
def recordInto (clock : Clock) (run : Nat) (migration : Migration) (db : Database) :
    Option (Table SchemaMigration.version) :=
  match registryAfter migration db with
  | none => none
  | some table =>
    if (table.get? migration.version).isNone && (recordedRow clock run migration).valid then
      some (table.insert (recordedRow clock run migration))
    else none

/-- What a statement does and which one follows; none is an error of the statement. -/
def exec (clock : Clock) (run : Nat) (db : Database) : Point → Option (Database × Point)
  | .lock todo => some (db, .setRole todo)
  | .setRole todo => some (db, .next todo)
  | .registryExists migration todo =>
    if db.schemaMigrations.isSome then some (db, .migrationApplied migration todo)
    else some (db, .begin ⟨migration, todo, none⟩)
  | .migrationApplied migration todo =>
    match db.schemaMigrations with
    | none => none
    | some table =>
      if (table.get? migration.version).isSome then some (db, .checksumMatches migration todo)
      else some (db, .insertRun migration todo)
  | .checksumMatches migration todo =>
    match db.applied? migration.version with
    -- `\gset` without a row is an error
    | none => none
    -- `\quit` ends the script with status 0
    | some row => if row.checksum = migration.checksum then some (db, .next todo) else some (db, .status)
  | .insertRun migration todo =>
    (insertRow run (insertedRun clock run migration) db).map fun db' =>
      (db', .begin ⟨migration, todo, some db.runs.length⟩)
  | .begin work => some (db, .file work)
  | .file work =>
    -- `CREATE SCHEMA platform` fails where the registry is there
    if work.migration.createsRegistry && (db.schemaMigrations.isSome || db.migrationRuns.isSome) then none
    else some (db, .record work)
  | .record work => (recordInto clock run work.migration db).map fun _ => (db, .commit work)
  | .commit work =>
    (recordInto clock run work.migration db).map fun table =>
      ({ schemaMigrations := some table
         migrationRuns := if work.migration.createsRegistry then some [] else db.migrationRuns
         committed := db.committed ++ [work.migration] }, .finishRun work)
  | .finishRun work =>
    let now := clock.finishedAt run work.migration.version
    (match work.runId with
      | some runId => finishRow now runId db
      | none => insertRow run ((insertedRun clock run work.migration).succeed now) db).map fun db' =>
        (db', .next work.todo)
  | .resetRole => some (db, .unlock)
  | .unlock => some (db, .status)
  | .status => if db.schemaMigrations.isSome && db.migrationRuns.isSome then some (db, .exited 0) else none
  | .cleanup code => (cleaned (clock.failedAt run) code db).map fun db' => (db', .exited code)
  | .exited _ => none

/-- The statements that succeed, with what they found. -/
inductive Transition (clock : Clock) (run : Nat) (db : Database) : Point → Database → Point → Prop where
  | locked (todo : List Migration) : Transition clock run db (.lock todo) db (.setRole todo)
  | roleSet (todo : List Migration) : Transition clock run db (.setRole todo) db (.next todo)
  | registered {migration : Migration} {todo : List Migration} (present : db.schemaMigrations.isSome = true) :
      Transition clock run db (.registryExists migration todo) db (.migrationApplied migration todo)
  | unregistered {migration : Migration} {todo : List Migration} (missing : db.schemaMigrations = none) :
      Transition clock run db (.registryExists migration todo) db (.begin ⟨migration, todo, none⟩)
  | known {migration : Migration} {todo : List Migration} {row : SchemaMigration}
      (found : db.applied? migration.version = some row) :
      Transition clock run db (.migrationApplied migration todo) db (.checksumMatches migration todo)
  | unknown {migration : Migration} {todo : List Migration} (absent : db.applied? migration.version = none) :
      Transition clock run db (.migrationApplied migration todo) db (.insertRun migration todo)
  | matched {migration : Migration} {todo : List Migration} {row : SchemaMigration}
      (found : db.applied? migration.version = some row) (same : row.checksum = migration.checksum) :
      Transition clock run db (.checksumMatches migration todo) db (.next todo)
  | mismatched {migration : Migration} {todo : List Migration} {row : SchemaMigration}
      (found : db.applied? migration.version = some row) (other : row.checksum ≠ migration.checksum) :
      Transition clock run db (.checksumMatches migration todo) db .status
  | inserted {migration : Migration} {todo : List Migration} {db' : Database}
      (inserted : insertRow run (insertedRun clock run migration) db = some db') :
      Transition clock run db (.insertRun migration todo) db' (.begin ⟨migration, todo, some db.runs.length⟩)
  | begun (work : Work) : Transition clock run db (.begin work) db (.file work)
  | filed {work : Work}
      (fresh : work.migration.createsRegistry = true → db.schemaMigrations = none ∧ db.migrationRuns = none) :
      Transition clock run db (.file work) db (.record work)
  | recorded {work : Work} {table : Table SchemaMigration.version}
      (recorded : recordInto clock run work.migration db = some table) :
      Transition clock run db (.record work) db (.commit work)
  | committed {work : Work} {table : Table SchemaMigration.version}
      (recorded : recordInto clock run work.migration db = some table) :
      Transition clock run db (.commit work)
        { schemaMigrations := some table
          migrationRuns := if work.migration.createsRegistry then some [] else db.migrationRuns
          committed := db.committed ++ [work.migration] } (.finishRun work)
  | finished {work : Work} {runId : Nat} {db' : Database} (tracked : work.runId = some runId)
      (finished : finishRow (clock.finishedAt run work.migration.version) runId db = some db') :
      Transition clock run db (.finishRun work) db' (.next work.todo)
  | completed {work : Work} {db' : Database} (untracked : work.runId = none)
      (inserted : insertRow run ((insertedRun clock run work.migration).succeed
        (clock.finishedAt run work.migration.version)) db = some db') :
      Transition clock run db (.finishRun work) db' (.next work.todo)
  | roleReset : Transition clock run db .resetRole db .unlock
  | unlocked : Transition clock run db .unlock db .status
  | reported (present : db.schemaMigrations.isSome = true) : Transition clock run db .status db (.exited 0)
  | cleaned {code : Nat} {db' : Database} (cleaned : cleaned (clock.failedAt run) code db = some db') :
      Transition clock run db (.cleanup code) db' (.exited code)

theorem exec_transition {clock : Clock} {run : Nat} {db db' : Database} {point next : Point}
    (executed : exec clock run db point = some (db', next)) : Transition clock run db point db' next := by
  cases point with
  | lock todo =>
    cases executed
    exact .locked todo
  | setRole todo =>
    cases executed
    exact .roleSet todo
  | registryExists migration todo =>
    simp only [exec] at executed
    split at executed
    next present =>
      cases executed
      exact .registered present
    next missing =>
      cases executed
      exact .unregistered (by simpa using missing)
  | migrationApplied migration todo =>
    simp only [exec] at executed
    split at executed
    next => cases executed
    next table registry =>
      have rows : db.applied? migration.version = table.get? migration.version := by simp [Database.applied?, registry]
      split at executed
      next present =>
        cases executed
        obtain ⟨row, found⟩ := Option.isSome_iff_exists.1 present
        exact .known (rows.trans found)
      next absent =>
        cases executed
        exact .unknown (rows.trans (by simpa using absent))
  | checksumMatches migration todo =>
    simp only [exec] at executed
    split at executed
    next => cases executed
    next row found =>
      split at executed
      next same =>
        cases executed
        exact .matched found same
      next other =>
        cases executed
        exact .mismatched found other
  | insertRun migration todo =>
    obtain ⟨_, inserted, same⟩ := Option.map_eq_some_iff.1 executed
    cases same
    exact .inserted inserted
  | begin work =>
    cases executed
    exact .begun work
  | file work =>
    simp only [exec] at executed
    split at executed
    next => cases executed
    next absent =>
      cases executed
      refine .filed fun creates => ?_
      simp only [creates, Bool.true_and, Bool.or_eq_true, not_or, Bool.not_eq_true, Option.isSome_eq_false_iff,
        Option.isNone_iff_eq_none] at absent
      exact absent
  | record work =>
    obtain ⟨_, recorded, same⟩ := Option.map_eq_some_iff.1 executed
    cases same
    exact .recorded recorded
  | commit work =>
    obtain ⟨_, recorded, same⟩ := Option.map_eq_some_iff.1 executed
    cases same
    exact .committed recorded
  | finishRun work =>
    obtain ⟨_, finished, same⟩ := Option.map_eq_some_iff.1 executed
    cases same
    split at finished
    next runId tracked => exact .finished tracked finished
    next untracked => exact .completed untracked finished
  | resetRole =>
    cases executed
    exact .roleReset
  | unlock =>
    cases executed
    exact .unlocked
  | status =>
    simp only [exec] at executed
    split at executed
    next present =>
      cases executed
      simp only [Bool.and_eq_true] at present
      exact .reported present.1
    next => cases executed
  | cleanup code =>
    obtain ⟨_, cleaned, same⟩ := Option.map_eq_some_iff.1 executed
    cases same
    exact .cleaned cleaned
  | exited code => cases executed

/-! ### What they leave -/

section Kept

variable {db db' : Database}

theorem insertRow_eq {run : Nat} {columns : RunColumns} (inserted : insertRow run columns db = some db') :
    ∃ checked, db' = { db with migrationRuns := some (db.runs ++ [{ columns with inserter := run, checked }]) } ∧
      db.migrationRuns.isSome = true := by
  unfold insertRow at inserted
  split at inserted
  next => cases inserted
  next rows registry =>
    split at inserted
    next checked =>
      cases inserted
      exact ⟨checked, by simp [Database.runs, registry], by simp [registry]⟩
    next => cases inserted

theorem finishRow_eq {now : Timestamp} {runId : Nat} (finished : finishRow now runId db = some db') :
    (db.runs[runId]? = none ∧ db' = db) ∨ ∃ row row', db.runs[runId]? = some row ∧ row.set (row.succeed now) = some row' ∧
      db' = { db with migrationRuns := some (db.runs.set runId row') } := by
  unfold finishRow at finished
  split at finished
  next => cases finished
  next rows registry =>
    have same : db.runs = rows := by simp [Database.runs, registry]
    split at finished
    next missing =>
      cases finished
      exact .inl ⟨by rw [same]; exact missing, rfl⟩
    next row found =>
      obtain ⟨row', set, rfl⟩ := Option.map_eq_some_iff.1 finished
      exact .inr ⟨row, row', by rw [same]; exact found, set, by rw [same]⟩

theorem cleaned_eq {now : Timestamp} {code : Nat} (done : cleaned now code db = some db') :
    (db.migrationRuns = none ∧ db' = db) ∨ ∃ rows, db.runs.mapM (MigrationRun.clean now code) = some rows ∧
      db' = { db with migrationRuns := some rows } := by
  unfold cleaned at done
  split at done
  next missing =>
    cases done
    exact .inl ⟨missing, rfl⟩
  next rows registry =>
    have same : db.runs = rows := by simp [Database.runs, registry]
    obtain ⟨rows', mapped, rfl⟩ := Option.map_eq_some_iff.1 done
    exact .inr ⟨rows', by rw [same]; exact mapped, rfl⟩

end Kept

/-- Only a commit changes the registry and the log. -/
theorem Transition.registry {clock : Clock} {run : Nat} {db db' : Database} {point next : Point}
    (transition : Transition clock run db point db' next) :
    (db'.schemaMigrations = db.schemaMigrations ∧ db'.committed = db.committed) ∨ ∃ work table, point = .commit work ∧
      next = .finishRun work ∧ recordInto clock run work.migration db = some table ∧
      db'.schemaMigrations = some table ∧ db'.committed = db.committed ++ [work.migration] := by
  cases transition with
  | inserted inserted | completed _ inserted =>
    obtain ⟨_, rfl, _⟩ := insertRow_eq inserted
    exact .inl ⟨rfl, rfl⟩
  | finished _ finished =>
    rcases finishRow_eq finished with ⟨_, rfl⟩ | ⟨_, _, _, _, rfl⟩ <;> exact .inl ⟨rfl, rfl⟩
  | cleaned cleaned =>
    rcases cleaned_eq cleaned with ⟨_, rfl⟩ | ⟨_, _, rfl⟩ <;> exact .inl ⟨rfl, rfl⟩
  | committed recorded => exact .inr ⟨_, _, rfl, rfl, recorded, rfl, rfl⟩
  | _ => exact .inl ⟨rfl, rfl⟩

/-! ## Runs side by side -/

/-- How a statement ends: `psql` exits with 3 after an error and with 2 after a lost connection, which the statement
may have survived. -/
inductive Outcome where
  | done
  | error
  | lostBefore
  | lostAfter
  deriving DecidableEq

/-- One statement of a run, or the server noticing that a session is gone. -/
inductive Event where
  | statement (run : Nat) (outcome : Outcome)
  | reap (run : Nat)
  deriving DecidableEq

/-- The event is a statement of the run. -/
def Event.isOf (run : Nat) : Event → Bool
  | .statement other _ => other = run
  | .reap _ => false

theorem isOf_iff {run : Nat} {event : Event} : event.isOf run = true ↔ ∃ outcome, event = .statement run outcome := by
  cases event with
  | statement | reap => simp [Event.isOf]

/-- The database, the run whose session holds the advisory lock, and the runs. -/
structure World where
  db : Database
  lock : Option Nat
  point : Nat → Point

namespace World

/-- Each run begins with its manifest; without migrations `migrate.sh` exits at once. -/
def initial (db : Database) (manifest : Nat → List Migration) : World where
  db := db
  lock := none
  point := fun run => if manifest run = [] then .exited 65 else .lock (manifest run)

def goTo (w : World) (run : Nat) (point : Point) : World := { w with point := Function.update w.point run point }

/-- The holder of the lock after a statement that took effect. -/
def holder (w : World) (run : Nat) : Option Nat :=
  match w.point run with
  | .lock _ => some run
  | .unlock => none
  | _ => w.lock

/-- The effect of a statement. -/
def effect (w : World) (run : Nat) (db : Database) : World :=
  { w with db := db, lock := w.holder run }

/-- The lock is another session's. -/
def blocked (w : World) (run : Nat) : Bool :=
  match w.point run with
  | .lock _ => w.lock.isSome
  | _ => false

end World

def step (clock : Clock) (event : Event) (w : World) : Option World :=
  match event with
  | .reap run => if w.lock = some run ∧ (w.point run).inside = false then some { w with lock := none } else none
  | .statement run outcome =>
    match w.point run with
    | .exited _ => none
    | point =>
      match outcome with
      | .error => some (w.goTo run (point.failing 3))
      | .lostBefore => some (w.goTo run (point.failing 2))
      | .done =>
        if w.blocked run then none
        else match exec clock run w.db point with
          | some (db, next) => some ((w.effect run db).goTo run next)
          | none => some (w.goTo run (point.failing 3))
      | .lostAfter =>
        if w.blocked run then none
        else match exec clock run w.db point with
          | some (db, _) => some ((w.effect run db).goTo run (point.failing 2))
          | none => none

/-- The ways a world takes an event. -/
inductive Taken (clock : Clock) (w : World) : Event → World → Prop where
  | reaped {run : Nat} (held : w.lock = some run) (gone : (w.point run).inside = false) :
      Taken clock w (.reap run) { w with lock := none }
  | failed {run code : Nat} {outcome : Outcome} (going : ∀ code, w.point run ≠ .exited code)
      (ineffective : outcome ≠ .lostAfter) (why : outcome = .done → exec clock run w.db (w.point run) = none)
      (nonzero : code ≠ 0) :
      Taken clock w (.statement run outcome) (w.goTo run ((w.point run).failing code))
  | ran {run : Nat} {db : Database} {next : Point} (free : w.blocked run = false)
      (executed : exec clock run w.db (w.point run) = some (db, next)) :
      Taken clock w (.statement run .done) ((w.effect run db).goTo run next)
  | lost {run : Nat} {db : Database} {next : Point} (free : w.blocked run = false)
      (executed : exec clock run w.db (w.point run) = some (db, next)) :
      Taken clock w (.statement run .lostAfter) ((w.effect run db).goTo run ((w.point run).failing 2))

theorem step_taken {clock : Clock} {event : Event} {w w' : World} (stepped : step clock event w = some w') :
    Taken clock w event w' := by
  unfold step at stepped
  split at stepped
  next run =>
    split at stepped
    next reaped =>
      cases stepped
      exact .reaped reaped.1 reaped.2
    next => cases stepped
  next run outcome =>
    split at stepped
    next => cases stepped
    next going =>
      split at stepped
      next =>
        cases stepped
        exact .failed going nofun nofun (by decide)
      next =>
        cases stepped
        exact .failed going nofun nofun (by decide)
      next =>
        split at stepped
        next => cases stepped
        next free =>
          split at stepped
          next executed =>
            cases stepped
            exact .ran (Bool.eq_false_iff.2 free) executed
          next refused =>
            cases stepped
            exact .failed going nofun (fun _ => refused) (by decide)
      next =>
        split at stepped
        next => cases stepped
        next free =>
          split at stepped
          next executed =>
            cases stepped
            exact .lost (Bool.eq_false_iff.2 free) executed
          next => cases stepped

end Liqi.Migrations
