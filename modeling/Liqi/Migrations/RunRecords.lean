import Liqi.Migrations.AppliedOnce
import Liqi.Migrations.RunRows

/-!
# Run records

A run inserts a row of `migration_runs` before a migration and finishes it after the commit. The cleanup of a failed
run works in a session of its own, without the lock, and marks every row that is running, whoever inserted it. A row of
another run that it marks then fails the `CHECK` when that run finishes it.
-/

namespace Liqi.Migrations

open Postgres Liqi.Database

/-! ## The invariant of all runs -/

/-- The registry and the runs exist together, rows have a target, and a run tracks its own row. -/
structure Bookkeeping (w : World) : Prop where
  together : w.db.migrationRuns.isSome = w.db.schemaMigrations.isSome
  targeted : ∀ row ∈ w.db.runs, row.targetVersion.isSome = true
  tracked : ∀ run work runId, (w.point run).work? = some work → work.runId = some runId →
    ∃ row, w.db.runs[runId]? = some row ∧ row.inserter = run

section Statement

variable {clock : Clock} {run : Nat} {db db' : Database} {point next : Point}

theorem Transition.together (transition : Transition clock run db point db' next)
    (together : db.migrationRuns.isSome = db.schemaMigrations.isSome) :
    db'.migrationRuns.isSome = db'.schemaMigrations.isSome := by
  cases transition with
  | inserted inserted | completed _ inserted =>
    obtain ⟨_, rfl, present⟩ := insertRow_eq inserted
    rw [← together, present]
    rfl
  | finished tracked finished =>
    rcases finishRow_eq finished with ⟨_, rfl⟩ | ⟨row, row', found, _, rfl⟩
    · exact together
    · rw [← together]
      cases registry : db.migrationRuns with
      | none => simp [Database.runs, registry] at found
      | some rows => rfl
  | cleaned done =>
    unfold Migrations.cleaned at done
    split at done
    next =>
      cases done
      exact together
    next rows registry =>
      obtain ⟨_, _, rfl⟩ := Option.map_eq_some_iff.1 done
      rw [← together, registry]
      rfl
  | committed recorded =>
    show Option.isSome (if _ then _ else _) = true
    split
    next => rfl
    next old =>
      rw [together]
      unfold recordInto registryAfter at recorded
      rw [if_neg old] at recorded
      cases registry : db.schemaMigrations with
      | none =>
        rw [registry] at recorded
        cases recorded
      | some table => rfl
  | _ => exact together

/-- The row that the next statement tracks: the one before, none, or a row that was inserted. -/
theorem Transition.tracks (transition : Transition clock run db point db' next) {work : Work} {runId : Nat}
    (works : next.work? = some work) (tracked : work.runId = some runId) :
    point.work? = some work ∨ ∃ row, db'.runs[runId]? = some row ∧ row.inserter = run := by
  cases transition with
  | inserted inserted =>
    obtain ⟨_, rfl, _⟩ := insertRow_eq inserted
    cases works
    cases tracked
    exact .inr ⟨_, List.getElem?_concat_length, rfl⟩
  | unregistered =>
    cases works
    cases tracked
  | begun | filed | recorded | committed => exact .inl works
  | roleSet todo | @matched _ todo =>
    cases todo <;> cases works
  | @finished done | @completed done =>
    obtain ⟨_, todo, _⟩ := done
    cases todo <;> cases works
  | _ => cases works

end Statement

section Steps

variable {manifest : Nat → List Migration} {clock : Clock} {event : Event} {w w' : World}

theorem bookkeeping_initial (manifest : Nat → List Migration) : Bookkeeping (.initial .empty manifest) where
  together := rfl
  targeted := nofun
  tracked := by
    intro run work runId works
    simp only [World.initial] at works
    split at works <;> cases works

/-- Before a commit that creates the registry there are no rows. -/
theorem Bookkeeping.fresh (kept : Bookkeeping w) (sound : Sound manifest w) {run : Nat} {work : Work}
    (here : w.point run = .commit work) (creates : work.migration.createsRegistry = true) : w.db.runs = [] := by
  have knows := sound.knows run
  rw [here] at knows
  have missing : w.db.migrationRuns = none := by
    rw [← Option.isNone_iff_eq_none, ← Option.isSome_eq_false_iff, kept.together, knows.2.2 creates]
    rfl
  unfold Database.runs
  rw [missing]
  rfl

theorem Bookkeeping.rows (kept : Bookkeeping w) (sound : Sound manifest w) {run : Nat} {db : Database} {next : Point}
    (transition : Transition clock run w.db (w.point run) db next) :
    RowsStep clock run (w.point run) w.db.runs db.runs :=
  transition.rows fun _ here creates => kept.fresh sound here creates

theorem work?_failing (point : Point) (code : Nat) : (point.failing code).work? = none := by
  cases point <;> rfl

/-- A statement that takes effect, wherever its run goes then. -/
theorem Bookkeeping.effect (kept : Bookkeeping w) (sound : Sound manifest w) {run : Nat} {db : Database}
    {next point : Point} (transition : Transition clock run w.db (w.point run) db next)
    (goes : ∀ work, point.work? = some work → next.work? = some work) :
    Bookkeeping ((w.effect run db).goTo run point) := by
  have rows := kept.rows sound transition
  refine ⟨transition.together kept.together, rows.targeted kept.targeted, fun other work runId works tracked => ?_⟩
  have stays : ∀ owner, (w.point owner).work? = some work →
      ∃ row, db.runs[runId]? = some row ∧ row.inserter = owner := by
    intro owner works
    obtain ⟨row, found, theirs⟩ := kept.tracked owner work runId works tracked
    obtain ⟨row', found', same⟩ := rows.inserter found
    exact ⟨row', found', same.trans theirs⟩
  rw [point_goTo] at works
  split at works
  next here =>
    subst here
    rcases transition.tracks (goes work works) tracked with before | inserted
    · exact stays _ before
    · exact inserted
  next => exact stays other works

theorem Bookkeeping.step (kept : Bookkeeping w) (sound : Sound manifest w)
    (stepped : Migrations.step clock event w = some w') : Bookkeeping w' := by
  cases step_taken stepped with
  | reaped => exact ⟨kept.together, kept.targeted, kept.tracked⟩
  | failed =>
    refine ⟨kept.together, kept.targeted, fun other work runId works tracked => ?_⟩
    rw [point_goTo] at works
    split at works
    · rw [work?_failing] at works
      cases works
    · exact kept.tracked other work runId works tracked
  | ran free executed => exact kept.effect sound (exec_transition executed) fun _ => id
  | lost free executed =>
    refine kept.effect sound (exec_transition executed) fun work works => ?_
    rw [work?_failing] at works
    cases works

/-! ## Steps that keep to their own rows -/

/-- A row that changes is a row of the run whose statement it was. -/
def OwnChange (w : World) (event : Event) (w' : World) : Prop :=
  ∀ (i : Nat) (row : MigrationRun), w.db.runs[i]? = some row → w'.db.runs[i]? ≠ some row →
    ∃ outcome, event = .statement row.inserter outcome

instance (w : World) (event : Event) (w' : World) : Decidable (OwnChange w event w') :=
  decidable_of_iff (∀ i : Fin w.db.runs.length, w'.db.runs[i.val]? ≠ some w.db.runs[i] →
      event.isOf w.db.runs[i].inserter = true) <| by
    simp only [OwnChange, isOf_iff, List.getElem?_eq_some_iff]
    constructor
    · rintro own i row ⟨bound, rfl⟩ changed
      exact own ⟨i, bound⟩ (by simpa [List.getElem?_eq_some_iff] using changed)
    · intro own i changed
      exact own i _ ⟨i.isLt, rfl⟩ (by simpa [List.getElem?_eq_some_iff] using changed)

/-- The run is at its cleanup. -/
def Point.cleans : Point → Bool
  | .cleanup _ => true
  | _ => false

/-- A cleanup that takes effect finds no row of another run that is running. -/
def CleanupOwn (w : World) (event : Event) (_ : World) : Prop :=
  ∀ run code outcome, event = .statement run outcome → outcome = .done ∨ outcome = .lostAfter →
    w.point run = .cleanup code → ∀ row ∈ w.db.runs, row.status = .running → row.inserter = run

instance (w : World) (event : Event) (w' : World) : Decidable (CleanupOwn w event w') :=
  match event with
  | .reap _ => .isTrue nofun
  | .statement run outcome =>
    decidable_of_iff (outcome = .done ∨ outcome = .lostAfter → (w.point run).cleans = true →
        ∀ row ∈ w.db.runs, row.status = .running → row.inserter = run) <| by
      constructor
      · rintro own _ code _ ⟨⟩ effective here
        exact own effective (by rw [here]; rfl)
      · intro own effective cleans
        rcases here : w.point run <;> rw [here] at cleans <;> cases cleans
        exact own run _ outcome rfl effective here

/-- A step that is not of the run leaves its rows alone. -/
theorem CleanupOwn.others (cleanups : CleanupOwn w event w') (kept : Bookkeeping w) (sound : Sound manifest w)
    (stepped : Migrations.step clock event w = some w') {run : Nat} (foreign : event.isOf run = false) :
    SameRows (·.inserter = run) w.db.runs w'.db.runs := by
  have effect : ∀ {other outcome db next}, event = .statement other outcome → outcome = .done ∨ outcome = .lostAfter →
      exec clock other w.db (w.point other) = some (db, next) → SameRows (·.inserter = run) w.db.runs db.runs := by
    rintro other outcome db next rfl effective executed
    refine (kept.rows sound (exec_transition executed)).others ?_ (fun work runId => kept.tracked other work runId)
      fun code => cleanups other code outcome rfl effective
    rintro rfl
    simp [Event.isOf] at foreign
  cases step_taken stepped with
  | reaped | failed => exact fun _ _ _ => Iff.rfl
  | ran _ executed => exact effect rfl (.inl rfl) executed
  | lost _ executed => exact effect rfl (.inr rfl) executed

theorem CleanupOwn.ownChange (cleanups : CleanupOwn w event w') (kept : Bookkeeping w) (sound : Sound manifest w)
    (stepped : Migrations.step clock event w = some w') : OwnChange w event w' := by
  intro i row found changed
  by_cases mine : event.isOf row.inserter = true
  · exact isOf_iff.1 mine
  · have same := cleanups.others kept sound stepped (Bool.eq_false_iff.2 mine)
    exact absurd ((same i row rfl).2 found) changed

/-- The cleanup ends every row that is running. -/
theorem cleaned_ends {now : Timestamp} {code : Nat} {db db' : Database} (done : cleaned now code db = some db')
    {i : Nat} {row : MigrationRun} (found : db.runs[i]? = some row) (running : row.status = .running) :
    db'.runs[i]? ≠ some row := by
  intro same
  rcases cleaned_eq done with ⟨missing, rfl⟩ | ⟨rows, mapped, rfl⟩
  · simp [Database.runs, missing] at found
  · rcases getElem?_mapM mapped i with ⟨missing, _⟩ | ⟨old, new, there, result, cleaned⟩
    · rw [missing] at found
      cases found
    · have same : some new = some row := result.symm.trans same
      cases same
      exact (clean_cleaned cleaned).ended running

/-- No `CHECK` stops a cleanup. -/
theorem Bookkeeping.cleanable (kept : Bookkeeping w) (run code : Nat) :
    (exec clock run w.db (.cleanup code)).isSome = true := by
  simp only [exec, Option.isSome_map]
  unfold cleaned
  split
  next => rfl
  next rows registry =>
    have each : ∀ row ∈ rows, (row.clean (clock.failedAt run) code).isSome = true :=
      fun row listed => clean_isSome (kept.targeted row (by simpa [Database.runs, registry] using listed))
    rw [Option.isSome_map]
    exact mapM_isSome each

theorem OwnChange.cleanupOwn (own : OwnChange w event w') (kept : Bookkeeping w)
    (stepped : Migrations.step clock event w = some w') : CleanupOwn w event w' := by
  rintro run code outcome rfl effective here row listed running
  obtain ⟨i, found⟩ := List.mem_iff_getElem?.1 listed
  have changed : w'.db.runs[i]? ≠ some row := by
    cases step_taken stepped with
    | failed _ ineffective why =>
      -- the server refuses no cleanup
      have refused := why (effective.resolve_right ineffective)
      rw [here] at refused
      have fine := @Bookkeeping.cleanable clock w kept run code
      rw [refused] at fine
      cases fine
    | ran _ executed | lost _ executed =>
      rw [here] at executed
      obtain ⟨_, done, same⟩ := Option.map_eq_some_iff.1 executed
      cases same
      exact cleaned_ends done found running
  obtain ⟨_, same⟩ := own i row found changed
  cases same
  rfl

end Steps

/-! ## A run that is not disturbed -/

/-- The run works on a migration that is not committed yet. -/
def Point.migrating : Point → Bool
  | .insertRun _ _ => true
  | point => point.executing

/-- The statements of a run whose connection stays up and whose migrations are all committed. -/
def Undisturbed (clock : Clock) (run : Nat) (w : World) (event : Event) (_ : World) : Prop :=
  ∀ outcome, event = .statement run outcome →
    outcome = .done ∧ ((w.point run).migrating = true → exec clock run w.db (w.point run) ≠ none)

instance (clock : Clock) (run : Nat) (w : World) (event : Event) (w' : World) :
    Decidable (Undisturbed clock run w event w') :=
  match event with
  | .reap _ => .isTrue nofun
  | .statement other outcome =>
    decidable_of_iff (other = run → outcome = .done ∧
        ((w.point run).migrating = true → (exec clock run w.db (w.point run)).isSome = true)) <| by
      simp only [Option.isSome_iff_ne_none]
      constructor
      · rintro fine _ ⟨⟩
        exact fine rfl
      · rintro own rfl
        exact own outcome rfl

/-- Every row of the run has succeeded. -/
def Settled (run : Nat) (rows : List MigrationRun) : Prop :=
  ∀ (i : Nat) (row : MigrationRun), rows[i]? = some row → row.inserter = run → row.status = .succeeded

/-- One row of the run is running, the others have succeeded. -/
structure Ongoing (run : Nat) (rows : List MigrationRun) (runId : Nat) (row : MigrationRun) : Prop where
  found : rows[runId]? = some row
  mine : row.inserter = run
  running : row.status = .running
  clean : row.failedVersion = none
  others : ∀ (i : Nat) (row : MigrationRun), i ≠ runId → rows[i]? = some row → row.inserter = run →
    row.status = .succeeded

/-- The rows of a run that tracks a row, or none. -/
def Tidy (run : Nat) (rows : List MigrationRun) : Option Nat → Prop
  | none => Settled run rows
  | some runId => ∃ row, Ongoing run rows runId row

/-- What holds for an undisturbed run at its next statement. -/
def Own (run : Nat) (db : Database) : Point → Prop
  | .lock todo | .setRole todo => Settled run db.runs ∧ todo ≠ []
  | .registryExists _ _ => Settled run db.runs
  | .migrationApplied _ _ | .insertRun _ _ | .resetRole | .unlock | .status =>
    Settled run db.runs ∧ db.schemaMigrations.isSome = true
  | .checksumMatches migration _ => Settled run db.runs ∧ (db.applied? migration.version).isSome = true
  | .begin work | .file work | .record work | .commit work => Tidy run db.runs work.runId
  | .finishRun work =>
    Tidy run db.runs work.runId ∧ 0 < work.migration.version ∧ db.schemaMigrations.isSome = true
  | .cleanup _ => False
  | .exited code => code = 0 ∧ Settled run db.runs

section Own

variable {clock : Clock} {run : Nat} {db db' : Database} {point next : Point} {rows rows' : List MigrationRun}

theorem Settled.frame (settled : Settled run rows) (own : SameRows (·.inserter = run) rows rows') : Settled run rows' :=
  fun i row found mine => settled i row ((own i row mine).1 found) mine

theorem Tidy.frame {runId : Option Nat} (tidy : Tidy run rows runId) (own : SameRows (·.inserter = run) rows rows') :
    Tidy run rows' runId := by
  cases runId with
  | none => exact Settled.frame tidy own
  | some runId =>
    obtain ⟨row, ongoing⟩ := tidy
    exact ⟨row, (own runId row ongoing.mine).2 ongoing.found, ongoing.mine, ongoing.running, ongoing.clean,
      fun i other apart found mine => ongoing.others i other apart ((own i other mine).1 found) mine⟩

/-- **Frame.** The steps of other runs that leave the rows of the run alone, and the registry in place. -/
theorem Own.frame (own : Own run db point) (rows : SameRows (·.inserter = run) db.runs db'.runs) (kept : RowsKept db db')
    (registry : db.schemaMigrations.isSome = true → db'.schemaMigrations.isSome = true) : Own run db' point := by
  cases point with
  | lock | setRole => exact ⟨own.1.frame rows, own.2⟩
  | registryExists => exact Settled.frame own rows
  | migrationApplied | insertRun | resetRole | unlock | status => exact ⟨own.1.frame rows, registry own.2⟩
  | checksumMatches migration =>
    obtain ⟨row, found⟩ := Option.isSome_iff_exists.1 own.2
    exact ⟨own.1.frame rows, by rw [kept _ _ found]; rfl⟩
  | begin | file | record | commit => exact Tidy.frame own rows
  | finishRun => exact ⟨own.1.frame rows, own.2.1, registry own.2.2⟩
  | cleanup => exact own
  | exited => exact ⟨own.1, own.2.frame rows⟩

theorem own_next {todo : List Migration} (settled : Settled run db.runs)
    (registry : todo = [] → db.schemaMigrations.isSome = true) : Own run db (.next todo) := by
  cases todo with
  | nil => exact ⟨settled, registry rfl⟩
  | cons => exact settled

theorem registry_of_applied {version : Nat} {row : SchemaMigration} (found : db.applied? version = some row) :
    db.schemaMigrations.isSome = true := by
  obtain ⟨table, registry, _⟩ := Option.bind_eq_some_iff.1 found
  rw [registry]
  rfl

theorem Settled.concat (settled : Settled run rows) {row : MigrationRun} (succeeded : row.status = .succeeded) :
    Settled run (rows ++ [row]) := by
  intro i other found mine
  by_cases bound : i < rows.length
  · rw [List.getElem?_append_left bound] at found
    exact settled i other found mine
  · rw [List.getElem?_append_right (by omega), List.getElem?_singleton] at found
    split at found <;> cases found
    exact succeeded

theorem Settled.begin (settled : Settled run rows) {row : MigrationRun} (mine : row.inserter = run)
    (running : row.status = .running) (clean : row.failedVersion = none) : Ongoing run (rows ++ [row]) rows.length row where
  found := List.getElem?_concat_length
  mine := mine
  running := running
  clean := clean
  others := by
    intro i other apart found mine
    have bound : i < rows.length := by
      have inside := (List.getElem?_eq_some_iff.1 found).1
      rw [List.length_append, List.length_singleton] at inside
      omega
    rw [List.getElem?_append_left bound] at found
    exact settled i other found mine

theorem Ongoing.finish {runId : Nat} {row row' : MigrationRun} (ongoing : Ongoing run rows runId row)
    (succeeded : row'.status = .succeeded) : Settled run (rows.set runId row') := by
  intro i other found mine
  by_cases same : runId = i
  · subst same
    rw [List.getElem?_set_self (List.getElem?_eq_some_iff.1 ongoing.found).1] at found
    cases found
    exact succeeded
  · rw [List.getElem?_set_ne same] at found
    exact ongoing.others i other (Ne.symm same) found mine

theorem recordInto_positive {migration : Migration} {table : Table SchemaMigration.version}
    (recorded : recordInto clock run migration db = some table) : 0 < migration.version := by
  unfold recordInto at recorded
  split at recorded
  next => cases recorded
  next =>
    split at recorded
    next checked =>
      simp only [Bool.and_eq_true, SchemaMigration.valid, decide_eq_true_eq] at checked
      exact checked.2.1.1
    next => cases recorded

/-- A statement that succeeds leaves an undisturbed run so. -/
theorem Own.transition (own : Own run db point) (transition : Transition clock run db point db' next)
    (fresh : ∀ work, point = .commit work → work.migration.createsRegistry = true → db.runs = []) : Own run db' next := by
  cases transition with
  | locked => exact own
  | roleSet todo => exact own_next own.1 fun empty => absurd empty own.2
  | registered present => exact ⟨own, present⟩
  | unregistered => exact own
  | known found => exact ⟨own.1, by rw [found]; rfl⟩
  | unknown => exact own
  | matched found => exact own_next own.1 fun _ => registry_of_applied found
  | mismatched found => exact ⟨own.1, registry_of_applied found⟩
  | inserted inserted =>
    obtain ⟨_, rfl, _⟩ := insertRow_eq inserted
    exact ⟨_, own.1.begin rfl rfl rfl⟩
  | begun | filed | recorded => exact own
  | @committed work _ recorded =>
    refine ⟨?_, recordInto_positive recorded, rfl⟩
    rw [runs_committed (fresh work rfl)]
    exact own
  | finished tracked finished =>
    obtain ⟨tidy, _, registry⟩ := own
    rw [tracked] at tidy
    obtain ⟨row, ongoing⟩ := tidy
    rcases finishRow_eq finished with ⟨missing, _⟩ | ⟨_, row', found, set, rfl⟩
    · rw [ongoing.found] at missing
      cases missing
    · refine own_next (ongoing.finish ?_) fun _ => registry
      rw [(set_inserter set).2]
      rfl
  | completed untracked inserted =>
    obtain ⟨tidy, _, registry⟩ := own
    rw [untracked] at tidy
    obtain ⟨_, rfl, _⟩ := insertRow_eq inserted
    exact own_next (Settled.concat tidy rfl) fun _ => registry
  | roleReset | unlocked => exact own
  | reported => exact ⟨rfl, own.1⟩
  | cleaned => exact own.elim

/-- An undisturbed run ends or goes on: no statement besides those for its migration is refused. -/
theorem Own.enabled (own : Own run db point) (together : db.migrationRuns.isSome = db.schemaMigrations.isSome)
    (passed : point.migrating = false) (going : ∀ code, point ≠ .exited code) : exec clock run db point ≠ none := by
  cases point with
  | lock | setRole | resetRole | unlock => exact Option.some_ne_none _
  | registryExists =>
    simp only [exec]
    split <;> exact Option.some_ne_none _
  | migrationApplied =>
    obtain ⟨table, registry⟩ := Option.isSome_iff_exists.1 own.2
    simp only [exec, registry]
    split <;> exact Option.some_ne_none _
  | checksumMatches =>
    obtain ⟨row, found⟩ := Option.isSome_iff_exists.1 own.2
    simp only [exec, found]
    split <;> exact Option.some_ne_none _
  | finishRun work =>
    obtain ⟨tidy, positive, registry⟩ := own
    obtain ⟨rows, present⟩ := Option.isSome_iff_exists.1 (together.trans registry)
    simp only [exec]
    split
    next runId tracked =>
      rw [tracked] at tidy
      obtain ⟨row, ongoing⟩ := tidy
      have found : rows[runId]? = some row := by simpa [Database.runs, present] using ongoing.found
      have checked := row.checked
      have valid : (row.succeed (clock.finishedAt run work.migration.version)).valid = true := by
        simp only [RunColumns.valid, ongoing.running, ongoing.clean, Bool.and_eq_true] at checked
        simp [RunColumns.valid, RunColumns.succeed, ongoing.clean, checked.1.1, checked.2.2]
      simp [finishRow, present, found, MigrationRun.set, valid]
    next untracked =>
      have valid : ((insertedRun clock run work.migration).succeed
          (clock.finishedAt run work.migration.version)).valid = true := by
        simp [RunColumns.valid, RunColumns.succeed, insertedRun, positive]
      simp [insertRow, present, valid]
  | status =>
    simp [exec, own.2, together]
  | insertRun | begin | file | record | commit => cases passed
  | cleanup => exact own.elim
  | exited code => exact absurd rfl (going code)

end Own

section Steps

variable {manifest : Nat → List Migration} {clock : Clock} {event : Event} {run : Nat} {w w' : World}

theorem own_initial (starts : manifest run ≠ []) :
    Own run (World.initial .empty manifest).db ((World.initial .empty manifest).point run) := by
  simp only [World.initial, if_neg starts]
  exact ⟨fun _ _ found => (by cases found), starts⟩

/-- Only its own statements move a run. -/
theorem point_of_foreign (stepped : step clock event w = some w') (foreign : event.isOf run = false) :
    w'.point run = w.point run := by
  have apart : ∀ {other outcome}, event = .statement other outcome → run ≠ other := by
    rintro other outcome rfl rfl
    simp [Event.isOf] at foreign
  cases step_taken stepped with
  | reaped => rfl
  | failed => rw [point_goTo, if_neg (apart rfl)]
  | ran | lost =>
    rw [point_goTo, if_neg (apart rfl)]
    rfl

/-- The registry stays. -/
theorem registry_kept (stepped : step clock event w = some w') (present : w.db.schemaMigrations.isSome = true) :
    w'.db.schemaMigrations.isSome = true := by
  have effect : ∀ {run db next}, exec clock run w.db (w.point run) = some (db, next) →
      db.schemaMigrations.isSome = true := by
    intro run db next executed
    rcases (exec_transition executed).registry with ⟨same, _⟩ | ⟨_, table, _, _, _, registry, _⟩
    · rw [same]
      exact present
    · rw [registry]
      rfl
  cases step_taken stepped with
  | reaped | failed => exact present
  | ran _ executed | lost _ executed => exact effect executed

theorem Own.step (own : Own run w.db (w.point run)) (sound : Sound manifest w) (kept : Bookkeeping w)
    (stepped : Migrations.step clock event w = some w') (undisturbed : Undisturbed clock run w event w')
    (cleanups : CleanupOwn w event w') : Own run w'.db (w'.point run) := by
  by_cases mine : event.isOf run = true
  · obtain ⟨outcome, rfl⟩ := isOf_iff.1 mine
    obtain ⟨rfl, committed⟩ := undisturbed outcome rfl
    cases step_taken stepped with
    | failed going _ why =>
      refine absurd (why rfl) ?_
      by_cases migrating : (w.point run).migrating = true
      · exact committed migrating
      · exact own.enabled kept.together (Bool.eq_false_iff.2 migrating) going
    | ran free executed =>
      rw [point_goTo, if_pos rfl]
      exact own.transition (exec_transition executed) fun _ here creates => kept.fresh sound here creates
  · have foreign := Bool.eq_false_iff.2 mine
    rw [point_of_foreign stepped foreign]
    exact own.frame (cleanups.others kept sound stepped foreign) (sound.rowsKept stepped).1 (registry_kept stepped)

/-! ### A run ends -/

/-- A bound on the statements that a run has left. -/
def Point.remaining : Point → Nat
  | .lock todo => 8 * todo.length + 5
  | .setRole todo => 8 * todo.length + 4
  | .registryExists _ todo => 8 * todo.length + 11
  | .migrationApplied _ todo => 8 * todo.length + 10
  | .insertRun _ todo => 8 * todo.length + 9
  | .begin work => 8 * work.todo.length + 8
  | .file work => 8 * work.todo.length + 7
  | .record work => 8 * work.todo.length + 6
  | .commit work => 8 * work.todo.length + 5
  | .finishRun work => 8 * work.todo.length + 4
  | .checksumMatches _ todo => 8 * todo.length + 4
  | .resetRole => 3
  | .unlock => 2
  | .status => 1
  | .cleanup _ => 1
  | .exited _ => 0

theorem remaining_next (todo : List Migration) : (Point.next todo).remaining = 8 * todo.length + 3 := by
  cases todo with
  | nil => rfl
  | cons => simp [Point.next, Point.remaining]; omega

theorem Transition.remaining {db db' : Database} {point next : Point} (transition : Transition clock run db point db' next) :
    next.remaining < point.remaining := by
  cases transition with
  | roleSet | matched | finished | completed =>
    rw [remaining_next]
    exact Nat.lt_succ_self _
  | mismatched => exact Nat.succ_lt_succ (Nat.succ_pos _)
  | _ => simp [Point.remaining]

theorem remaining_failing {point : Point} (going : ∀ code, point ≠ .exited code) (code : Nat) :
    (point.failing code).remaining < point.remaining := by
  cases point with
  | exited code => exact absurd rfl (going code)
  | _ => simp [Point.failing, Point.remaining]

theorem exec_going {db db' : Database} {point next : Point} (executed : exec clock run db point = some (db', next)) :
    ∀ code, point ≠ .exited code := by
  rintro code rfl
  cases executed

/-- A statement of the run leaves it with fewer. -/
theorem remaining_step (stepped : step clock event w = some w') :
    (w'.point run).remaining + (if event.isOf run then 1 else 0) ≤ (w.point run).remaining := by
  by_cases mine : event.isOf run = true
  · rw [if_pos mine]
    obtain ⟨outcome, rfl⟩ := isOf_iff.1 mine
    cases step_taken stepped with
    | failed going =>
      rw [point_goTo, if_pos rfl]
      exact remaining_failing going _
    | ran free executed =>
      rw [point_goTo, if_pos rfl]
      exact (exec_transition executed).remaining
    | lost free executed =>
      rw [point_goTo, if_pos rfl]
      exact remaining_failing (exec_going executed) 2
  · rw [if_neg mine, point_of_foreign stepped (Bool.eq_false_iff.2 mine)]
    exact Nat.le_refl _

theorem statements_bounded {events : List Event} (ran : Trace.run (step clock) events w = some w') :
    events.countP (·.isOf run) + (w'.point run).remaining ≤ (w.point run).remaining := by
  induction events generalizing w with
  | nil =>
    cases ran
    simp
  | cons event events ih =>
    obtain ⟨next, stepped, ran⟩ := Trace.run_cons ran
    have fewer := @remaining_step clock event run w next stepped
    have rest := ih ran
    rw [List.countP_cons]
    omega

/-! ## The result -/

/-- A run that succeeds, as far as it got: it does not fail, it exits with 0 and leaves its rows succeeded, and it can
go on unless another session has the lock, for a bounded number of statements. -/
structure Succeeds (manifest : Nat → List Migration) (clock : Clock) (events : List Event) (w : World) (run : Nat) :
    Prop where
  unfailed : ∀ code, w.point run ≠ .cleanup code
  ended : ∀ code, w.point run = .exited code →
    code = 0 ∧ ∀ row ∈ w.db.runs, row.inserter = run → row.status = .succeeded
  goes : (∃ code, w.point run = .exited code) ∨ w.blocked run = true ∨
    ∃ w', step clock (.statement run .done) w = some w'
  bounded : events.countP (·.isOf run) ≤ 8 * (manifest run).length + 5

theorem step_enabled (going : ∀ code, w.point run ≠ .exited code) (free : w.blocked run = false) :
    ∃ w', step clock (.statement run .done) w = some w' := by
  -- `going` selects the branch of the runs that have not exited
  simp only [step]
  rw [if_neg (Bool.eq_false_iff.1 free)]
  rcases exec clock run w.db (w.point run) with _ | ⟨db, next⟩
  · exact ⟨_, rfl⟩
  · exact ⟨_, rfl⟩

theorem Own.succeeds {events : List Event} (ran : Trace.run (Migrations.step clock) events (.initial .empty manifest) = some w)
    (own : Own run w.db (w.point run)) : Succeeds manifest clock events w run where
  unfailed := by
    intro code here
    rw [here] at own
    exact own
  ended := by
    intro code here
    rw [here] at own
    obtain ⟨zero, settled⟩ := own
    refine ⟨zero, fun row listed mine => ?_⟩
    obtain ⟨i, found⟩ := List.mem_iff_getElem?.1 listed
    exact settled i row found mine
  goes := by
    by_cases ended : ∃ code, w.point run = .exited code
    · exact .inl ended
    · by_cases free : w.blocked run = true
      · exact .inr (.inl free)
      · exact .inr (.inr (step_enabled (not_exists.1 ended) (Bool.eq_false_iff.2 free)))
  bounded := by
    have bound := @statements_bounded clock run _ _ _ ran
    have start : ((World.initial .empty manifest).point run).remaining ≤ 8 * (manifest run).length + 5 := by
      simp only [World.initial]
      split
      · exact Nat.zero_le _
      · exact Nat.le_refl _
    omega

theorem kept_step (event : Event) (before after : World) (kept : Sound manifest before ∧ Bookkeeping before)
    (stepped : step clock event before = some after) : Sound manifest after ∧ Bookkeeping after :=
  ⟨kept.1.step stepped, kept.2.step kept.1 stepped⟩

/-- **Run records.** The rows stay with their runs, and the undisturbed runs succeed, exactly as long as no cleanup finds
a row of another run that is running. -/
theorem run_records_owned_iff {events : List Event}
    (ran : Trace.run (step clock) events (.initial .empty manifest) = some w) :
    (Trace.Throughout (step clock) OwnChange (.initial .empty manifest) events ∧
      ∀ run, manifest run ≠ [] →
        Trace.Throughout (step clock) (Undisturbed clock run) (.initial .empty manifest) events →
        Succeeds manifest clock events w run)
      ↔ Trace.Throughout (step clock) CleanupOwn (.initial .empty manifest) events := by
  have start : Sound manifest (.initial .empty manifest) ∧ Bookkeeping (.initial .empty manifest) :=
    ⟨sound_initial manifest, bookkeeping_initial manifest⟩
  constructor
  · intro both
    exact both.1.imp start kept_step fun event before after kept stepped own => own.cleanupOwn kept.2 stepped
  · intro cleanups
    refine ⟨cleanups.imp start kept_step fun event before after kept stepped own => own.ownChange kept.2 kept.1 stepped,
      fun run starts undisturbed => ?_⟩
    have every : Trace.Throughout (step clock) (fun before event after =>
        CleanupOwn before event after ∧ Undisturbed clock run before event after) (.initial .empty manifest) events :=
      fun before event rest between after split reached stepped =>
        ⟨cleanups before event rest between after split reached stepped,
          undisturbed before event rest between after split reached stepped⟩
    have kept := every.induction (I := fun w => (Sound manifest w ∧ Bookkeeping w) ∧ Own run w.db (w.point run)) ran
      ⟨start, own_initial starts⟩ fun event before after inv stepped own =>
        ⟨kept_step event before after inv.1 stepped, Own.step inv.2 inv.1.1 inv.1.2 stepped own.2 own.1⟩
    exact Own.succeeds ran kept.2

/-- **Runs end.** From every state of every interleaving, a run executes a bounded number of statements, whatever the
others do; and as long as it has not exited, its own session or the one that has the lock can go on or is gone, so that
no run waits for ever. -/
theorem runs_end (clock : Clock) (w : World) (run : Nat) :
    (∀ events w', Trace.run (step clock) events w = some w' →
      events.countP (·.isOf run) ≤ (w.point run).remaining) ∧
    ((∃ code, w.point run = .exited code) ∨ ∃ session w', (session = run ∨ w.lock = some session) ∧
      (step clock (.statement session .done) w = some w' ∨ step clock (.reap session) w = some w')) := by
  refine ⟨fun events w' ran => (Nat.le_add_right ..).trans (statements_bounded ran),
    or_iff_not_imp_left.2 fun ended => ?_⟩
  cases held : w.lock with
  | none =>
    obtain ⟨w', stepped⟩ := @step_enabled clock run w (not_exists.1 ended) (by grind [World.blocked])
    exact ⟨run, w', .inl rfl, .inl stepped⟩
  | some holder =>
    have goes := @step_enabled clock holder w
    by_cases inside : (w.point holder).inside = true
    · obtain ⟨w', stepped⟩ : ∃ w', step clock (.statement holder .done) w = some w' := by
        cases at_ : w.point holder <;> simp_all [World.blocked, Point.inside]
      exact ⟨holder, w', .inr rfl, .inl stepped⟩
    · -- the server notices that the session is gone
      exact ⟨holder, { w with lock := none }, .inr rfl, .inr (if_pos ⟨held, by simpa using inside⟩)⟩

end Steps

section Sample

theorem interrupted_run_records : ∃ w,
    Trace.run (step sampleClock) interruptedRun (.initial .empty sampleManifest) = some w ∧
    Trace.Throughout (step sampleClock) CleanupOwn (.initial .empty sampleManifest) interruptedRun ∧
    Trace.Throughout (step sampleClock) OwnChange (.initial .empty sampleManifest) interruptedRun ∧
    Succeeds sampleManifest sampleClock interruptedRun w 1 := by
  have ran : (Trace.run (step sampleClock) interruptedRun (.initial .empty sampleManifest)).isSome = true := by
    decide +kernel
  obtain ⟨w, ran⟩ := Option.isSome_iff_exists.1 ran
  have cleanups : Trace.Throughout (step sampleClock) CleanupOwn (.initial .empty sampleManifest) interruptedRun := by
    decide +kernel
  have undisturbed : Trace.Throughout (step sampleClock) (Undisturbed sampleClock 1) (.initial .empty sampleManifest)
      interruptedRun := by
    decide +kernel
  obtain ⟨own, succeed⟩ := (run_records_owned_iff ran).2 cleanups
  exact ⟨w, ran, cleanups, own, succeed 1 (by decide) undisturbed⟩

/-- The first run has inserted the row of its second migration when the second one, whose wait for the lock failed,
cleans up. The first run commits its migration, but it cannot finish the row. -/
def overtakenRun : List Event :=
  succeeding 0 11 ++ [.statement 1 .error, .statement 1 .done] ++ succeeding 0 6

theorem overtaken_run_fails : ∃ w,
    Trace.run (step sampleClock) overtakenRun (.initial .empty sampleManifest) = some w ∧
    w.db.committed = [platformMetadata, platformOutbox] ∧
    Trace.Throughout (step sampleClock) (Undisturbed sampleClock 0) (.initial .empty sampleManifest) overtakenRun ∧
    w.point 0 = .exited 3 ∧ (∃ row ∈ w.db.runs, row.inserter = 0 ∧ row.status = .failed) ∧
    ¬ Trace.Throughout (step sampleClock) OwnChange (.initial .empty sampleManifest) overtakenRun := by
  have ran : (Trace.run (step sampleClock) overtakenRun (.initial .empty sampleManifest)).any (fun w =>
      w.db.committed = [platformMetadata, platformOutbox] ∧ w.point 0 = .exited 3 ∧
        ∃ row ∈ w.db.runs, row.inserter = 0 ∧ row.status = .failed) = true := by
    decide +kernel
  simp only [Option.any_eq_true, decide_eq_true_eq] at ran
  obtain ⟨w, ran, committed, exited, failed⟩ := ran
  exact ⟨w, ran, committed, by decide +kernel, exited, failed, by decide +kernel⟩

end Sample

end Liqi.Migrations
