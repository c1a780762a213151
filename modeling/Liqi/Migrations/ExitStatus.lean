import Liqi.Migrations.AppliedOnce
import Liqi.Migrations.RunRows

/-!
# The exit status of a run

`\quit 42` ends the script of a run with status 0, and `migration-status.sh` prints the readiness without a look at it.
So a run that meets another checksum exits with 0 as one does that is through with its manifest, and so does a run in
a database where a failed row is later than every applied migration.
-/

namespace Liqi.Migrations

open Postgres Liqi.Database

/-- The manifest is recorded with its checksums and the database is ready for its last version. -/
def Matching (manifest : List Migration) (db : Database) : Prop :=
  (∀ migration ∈ manifest, db.Agrees migration) ∧ ∀ last, manifest.getLast? = some last → db.Ready last.version

/-- The database and the manifest have one checksum for a version. -/
def Consistent (manifest : List Migration) (db : Database) : Prop :=
  (∀ migration ∈ manifest, ∀ row, db.applied? migration.version = some row → row.checksum = migration.checksum) ∧
    ∀ migration ∈ manifest, ∀ other ∈ manifest, other.version = migration.version → other.checksum = migration.checksum

/-- Every failed row is older than an applied migration, or than one that the run has to apply. -/
def Overtaken (manifest : List Migration) (clock : Clock) (run : Nat) (db : Database) : Prop :=
  ∀ failed ∈ db.runs, failed.status = .failed → (∃ row ∈ db.applied, failed.startedAt < row.appliedAt) ∨
    ∃ migration ∈ manifest, db.applied? migration.version = none ∧
      failed.startedAt < clock.appliedAt run migration.version

/-! ## What a run leaves -/

/-- The database `db` of a run that began with `start`: it has the rows of the start and rows that the run recorded, and
the same failed rows. -/
structure Course (manifest : List Migration) (clock : Clock) (run : Nat) (start db : Database) : Prop where
  kept : RowsKept start db
  origin : ∀ version row, db.applied? version = some row → start.applied? version = some row ∨
    start.applied? version = none ∧ ∃ migration ∈ manifest, migration.version = version ∧
      row = recordedRow clock run migration
  failed : SameRows (·.status = .failed) start.runs db.runs

/-- The points that a run gets to while nothing has failed, with what it knows there besides `Knows`. -/
def Upright (manifest : List Migration) (db : Database) : Point → Prop
  | .record work | .commit work => work.migration.createsRegistry = true → db.runs = []
  | .status => (∀ migration ∈ manifest, db.Agrees migration) ∨ ∃ migration ∈ manifest, ∃ row,
      db.applied? migration.version = some row ∧ row.checksum ≠ migration.checksum
  | .exited code => code = 0 ∧ ((∀ migration ∈ manifest, db.Agrees migration) ∨ ∃ migration ∈ manifest, ∃ row,
      db.applied? migration.version = some row ∧ row.checksum ≠ migration.checksum)
  | .cleanup _ => False
  | _ => True

/-- A run that has failed exits with the code of `psql`. -/
def Failing : Point → Prop
  | .cleanup code | .exited code => code ≠ 0
  | _ => False

section Statement

variable {manifest : List Migration} {clock : Clock} {run : Nat} {start db db' : Database} {point next : Point}

theorem upright_next (todo : List Migration) : Upright manifest db (.next todo) := by
  cases todo <;> trivial

theorem Arrived.listed {migration : Migration} {todo : List Migration} (arrived : Arrived manifest db migration todo) :
    migration ∈ manifest := by
  obtain ⟨earlier, rfl, _⟩ := arrived
  simp

theorem Upright.transition (upright : Upright manifest db point) (knows : Knows manifest db point)
    (transition : Transition clock run db point db' next) : Upright manifest db' next := by
  cases transition with
  | roleSet | matched | finished | completed => exact upright_next _
  | filed fresh =>
    intro creates
    simp [Database.runs, (fresh creates).2]
  | recorded => exact upright
  | mismatched found other => exact .inr ⟨_, knows.listed, _, found, other⟩
  | unlocked => exact .inl knows
  | reported => exact ⟨rfl, upright⟩
  | cleaned => exact upright.elim
  | _ => trivial

theorem course_start (db : Database) : Course manifest clock run db db :=
  ⟨fun _ _ => id, fun _ _ => .inl, fun _ _ _ => Iff.rfl⟩

theorem Course.transition (course : Course manifest clock run start db) (upright : Upright manifest db point)
    (knows : Knows manifest db point) (transition : Transition clock run db point db' next) :
    Course manifest clock run start db' := by
  have rows : SameRows (·.status = .failed) db.runs db'.runs := by
    refine (transition.rows ?_).failed ?_
    · rintro work rfl
      exact upright
    · rintro code rfl
      exact upright
  have failed : SameRows (·.status = .failed) start.runs db'.runs :=
    fun i row kind => (rows i row kind).trans (course.failed i row kind)
  rcases transition.commits knows with ⟨same, _⟩ | ⟨work, rfl, rfl, commits⟩
  · have lookup : ∀ version, db'.applied? version = db.applied? version := by
      intro version
      unfold Database.applied?
      rw [same]
    refine ⟨fun version row found => ?_, fun version row found => ?_, failed⟩
    · rw [lookup]
      exact course.kept version row found
    · rw [lookup] at found
      exact course.origin version row found
  · refine ⟨fun version row found => commits.kept version row (course.kept version row found),
      fun version row found => ?_, failed⟩
    rw [commits.lookup] at found
    split at found
    next here =>
      cases found
      refine .inr ⟨?_, work.migration, knows.1.listed, here.symm, rfl⟩
      -- a row of the start would still be there
      cases before : start.applied? version with
      | none => rfl
      | some row =>
        have there := course.kept version row before
        rw [here, commits.absent] at there
        cases there
    next => exact course.origin version row found

end Statement

/-! ## Runs -/

section Runs

variable {manifest : List Migration} {clock : Clock} {run : Nat} {start : Database} {event : Event} {w w' : World}

/-- What holds while a run is alone with the database. -/
def Alone (manifest : List Migration) (clock : Clock) (run : Nat) (start : Database) (w : World) : Prop :=
  Failing (w.point run) ∨ Course manifest clock run start w.db ∧ Knows manifest w.db (w.point run) ∧
    Upright manifest w.db (w.point run)

theorem failing_failing {db : Database} {point : Point} {code : Nat} (nonzero : code ≠ 0)
    (either : Failing point ∨ Upright manifest db point) : Failing (point.failing code) := by
  cases point with
  | cleanup old => exact either.resolve_right id
  | _ => exact nonzero

theorem Failing.transition {db db' : Database} {point next : Point} (failing : Failing point)
    (transition : Transition clock run db point db' next) : Failing next := by
  cases transition <;> first | exact failing | exact failing.elim

theorem Failing.step (failing : Failing (w.point run)) (mine : event.isOf run = true)
    (stepped : Migrations.step clock event w = some w') : Failing (w'.point run) := by
  obtain ⟨outcome, rfl⟩ := isOf_iff.1 mine
  cases step_taken stepped with
  | failed _ _ _ nonzero =>
    rw [point_goTo, if_pos rfl]
    exact @failing_failing [] .empty _ _ nonzero (.inl failing)
  | ran _ executed =>
    rw [point_goTo, if_pos rfl]
    exact failing.transition (exec_transition executed)
  | lost =>
    rw [point_goTo, if_pos rfl]
    exact @failing_failing [] .empty _ _ (by decide) (.inl failing)

theorem alone_initial (starts : manifest ≠ []) : Alone manifest clock run start (.initial start fun _ => manifest) := by
  refine .inr ⟨course_start start, ?_⟩
  simp only [World.initial, if_neg starts]
  exact ⟨rfl, trivial⟩

theorem Alone.step (alone : Alone manifest clock run start w) (mine : event.isOf run = true)
    (stepped : Migrations.step clock event w = some w') : Alone manifest clock run start w' := by
  rcases alone with failing | ⟨course, knows, upright⟩
  · exact .inl (failing.step mine stepped)
  · obtain ⟨outcome, rfl⟩ := isOf_iff.1 mine
    unfold Alone
    cases step_taken stepped with
    | failed _ _ _ nonzero =>
      rw [point_goTo, if_pos rfl]
      exact .inl (failing_failing nonzero (.inr upright))
    | ran _ executed =>
      have transition := exec_transition executed
      rw [point_goTo, if_pos rfl]
      exact .inr ⟨course.transition upright knows transition, transition.knows knows, upright.transition knows transition⟩
    | lost =>
      rw [point_goTo, if_pos rfl]
      exact .inl (failing_failing (by decide) (.inr upright))

/-- A run that exits with 0 did not fail. -/
theorem alone_of_exit {events : List Event} (only : ∀ event ∈ events, event.isOf run = true)
    (ran : Trace.run (step clock) events (.initial start fun _ => manifest) = some w) (exited : w.point run = .exited 0) :
    Course manifest clock run start w.db ∧ manifest ≠ [] ∧ Upright manifest w.db (.exited 0) := by
  have every : Trace.Throughout (step clock) (fun _ event _ => event.isOf run = true)
      (.initial start fun _ => manifest) events := by
    rintro before event rest _ _ rfl _ _
    exact only event (by simp)
  have starts : manifest ≠ [] := by
    intro empty
    have failing := every.induction (I := fun w => Failing (w.point run)) ran (by simp [World.initial, empty, Failing])
      fun _ _ _ failing stepped mine => failing.step mine stepped
    rw [exited] at failing
    exact failing rfl
  have alone := every.induction (I := Alone manifest clock run start) ran (alone_initial starts)
    fun _ _ _ alone stepped mine => alone.step mine stepped
  rcases alone with failing | ⟨course, _, upright⟩
  · rw [exited] at failing
    exact absurd rfl failing
  · rw [exited] at upright
    exact ⟨course, starts, upright⟩

end Runs

/-! ## Matching databases -/

section Matching

variable {manifest : List Migration} {clock : Clock} {run : Nat} {start db : Database}

theorem mem_applied {row : SchemaMigration} : row ∈ db.applied ↔ db.applied? row.version = some row := by
  unfold Database.applied Database.applied?
  cases db.schemaMigrations with
  | none => simp
  | some table => simp [Table.get?_eq_some, Table.mem_def]

theorem applied?_version {version : Nat} {row : SchemaMigration} (found : db.applied? version = some row) :
    row.version = version := by
  unfold Database.applied? at found
  cases registry : db.schemaMigrations with
  | none => simp [registry] at found
  | some table =>
    rw [registry] at found
    exact (Table.get?_eq_some.1 found).2

theorem Matching.consistent (agrees : ∀ migration ∈ manifest, db.Agrees migration)
    (course : Course manifest clock run start db) : Consistent manifest start := by
  have one : ∀ migration ∈ manifest, ∀ row, db.applied? migration.version = some row →
      row.checksum = migration.checksum := by
    intro migration listed row found
    obtain ⟨row', found', same⟩ := agrees migration listed
    rw [found] at found'
    cases found'
    exact same
  refine ⟨fun migration listed row found => one migration listed row (course.kept _ _ found), ?_⟩
  intro migration listed other listed' same
  obtain ⟨row, found, checksum⟩ := agrees migration listed
  rw [← checksum]
  exact (one other listed' row (by rw [same]; exact found)).symm

/-- A migration that is recorded with another checksum was so at the start, or the manifest has two for its version. -/
theorem Consistent.agrees (consistent : Consistent manifest start) (course : Course manifest clock run start db)
    (verdict : (∀ migration ∈ manifest, db.Agrees migration) ∨ ∃ migration ∈ manifest, ∃ row,
      db.applied? migration.version = some row ∧ row.checksum ≠ migration.checksum) :
    ∀ migration ∈ manifest, db.Agrees migration := by
  refine verdict.resolve_right ?_
  rintro ⟨migration, listed, row, found, different⟩
  rcases course.origin _ _ found with before | ⟨_, other, listed', version, rfl⟩
  · exact different (consistent.1 migration listed row before)
  · exact different (consistent.2 migration listed other listed' version)

/-- The failed rows are older than a row of the database exactly when the start and the manifest say so. -/
theorem Course.overtaken (course : Course manifest clock run start db)
    (agrees : ∀ migration ∈ manifest, db.Agrees migration) : ¬ db.failedRun ↔ Overtaken manifest clock run start := by
  have later : ∀ time : Timestamp, (∃ row ∈ db.applied, time < row.appliedAt) ↔
      (∃ row ∈ start.applied, time < row.appliedAt) ∨ ∃ migration ∈ manifest,
        start.applied? migration.version = none ∧ time < clock.appliedAt run migration.version := by
    intro time
    constructor
    · rintro ⟨row, listed, after⟩
      rcases course.origin _ _ (mem_applied.1 listed) with before | ⟨absent, migration, listed', version, rfl⟩
      · exact .inl ⟨row, mem_applied.2 before, after⟩
      · exact .inr ⟨migration, listed', absent, after⟩
    · rintro (⟨row, listed, after⟩ | ⟨migration, listed, absent, after⟩)
      · exact ⟨row, mem_applied.2 (course.kept _ _ (mem_applied.1 listed)), after⟩
      · obtain ⟨row, found, _⟩ := agrees migration listed
        refine ⟨row, mem_applied.2 (by rw [applied?_version found]; exact found), ?_⟩
        rcases course.origin _ _ found with before | ⟨_, other, _, version, rfl⟩
        · rw [absent] at before
          cases before
        · rw [← version] at after
          exact after
  unfold Database.failedRun Overtaken
  push Not
  constructor
  · intro none failed listed status
    exact (later _).1 (none failed ((course.failed.mem status).2 listed) status)
  · intro overtaken failed listed status
    exact (later _).2 (overtaken failed ((course.failed.mem status).1 listed) status)

theorem version_le_of_agrees {migration : Migration} (agrees : db.Agrees migration) :
    migration.version ≤ ((db.applied.map SchemaMigration.version).max?).getD 0 := by
  obtain ⟨row, found, _⟩ := agrees
  have version := applied?_version found
  have listed : row ∈ db.applied := mem_applied.2 (by rw [version]; exact found)
  have member : migration.version ∈ db.applied.map SchemaMigration.version := version ▸ List.mem_map_of_mem listed
  exact List.le_max?_getD_of_mem member

end Matching

section Result

variable {manifest : List Migration} {clock : Clock} {run : Nat} {start : Database} {w : World}

/-- **Exit status.** A run that exits with 0 leaves a matching database exactly when the checksums of its manifest and of
the database it began with agree and no failed row of that database is later than all migrations. -/
theorem exit_zero_matching_iff {events : List Event} (only : ∀ event ∈ events, event.isOf run = true)
    (ran : Trace.run (step clock) events (.initial start fun _ => manifest) = some w)
    (exited : w.point run = .exited 0) :
    Matching manifest w.db ↔ Consistent manifest start ∧ Overtaken manifest clock run start := by
  obtain ⟨course, starts, _, verdict⟩ := alone_of_exit only ran exited
  constructor
  · rintro ⟨agrees, ready⟩
    obtain ⟨last, ends⟩ := Option.isSome_iff_exists.1 (List.getLast?_isSome.2 starts)
    exact ⟨Matching.consistent agrees course, (course.overtaken agrees).1 (ready last ends).1⟩
  · rintro ⟨consistent, overtaken⟩
    have agrees := consistent.agrees course verdict
    refine ⟨agrees, fun last ends => ⟨(course.overtaken agrees).2 overtaken, ?_⟩⟩
    exact version_le_of_agrees (agrees last (List.mem_of_getLast? ends))

end Result

section Sample

theorem first_run_matching : ∃ w, Trace.run (step sampleClock) (succeeding 0 19) (.initial .empty sampleManifest) = some w ∧
    w.point 0 = .exited 0 ∧ Matching [platformMetadata, platformOutbox] w.db := by
  have ran : (Trace.run (step sampleClock) (succeeding 0 19) (.initial .empty sampleManifest)).any
      (fun w => w.point 0 = .exited 0) = true := by
    decide +kernel
  simp only [Option.any_eq_true, decide_eq_true_eq] at ran
  obtain ⟨w, ran, exited⟩ := ran
  have consistent : Consistent [platformMetadata, platformOutbox] .empty := ⟨fun _ _ _ => nofun, by decide⟩
  exact ⟨w, ran, exited, (exit_zero_matching_iff (by decide) ran exited).2 ⟨consistent, nofun⟩⟩

def otherChecksum : String := "fedcba9876543210fedcba9876543210fedcba9876543210fedcba9876543210"

/-- A database whose first migration was another file. -/
def divergedDatabase : Database where
  schemaMigrations := some (Table.empty.insert ⟨1, "platform_metadata", otherChecksum, 0⟩)
  migrationRuns := some []
  committed := []

theorem diverged_run_exits_zero : ∃ w,
    Trace.run (step sampleClock) (succeeding 0 6) (.initial divergedDatabase sampleManifest) = some w ∧
    w.point 0 = .exited 0 ∧ ¬ Matching [platformMetadata, platformOutbox] w.db := by
  have ran : (Trace.run (step sampleClock) (succeeding 0 6) (.initial divergedDatabase sampleManifest)).any (fun w =>
      w.point 0 = .exited 0 ∧ (w.db.applied? 1).map SchemaMigration.checksum = some otherChecksum) = true := by
    decide +kernel
  simp only [Option.any_eq_true, decide_eq_true_eq] at ran
  obtain ⟨w, ran, exited, recorded⟩ := ran
  refine ⟨w, ran, exited, fun matching => ?_⟩
  obtain ⟨row, found, same⟩ := matching.1 platformMetadata (by simp)
  have recorded' : w.db.applied? platformMetadata.version = w.db.applied? 1 := rfl
  rw [← recorded', found, Option.map_some, same] at recorded
  exact absurd recorded (by decide)

end Sample

end Liqi.Migrations
