import Liqi.Migrations.Driver

/-!
# The rows of `migration_runs`

`RowsStep` lists what a statement does to the rows: it inserts one, finishes the one that its run tracks, or cleans up
all of them. `RowsStep.sameRows` is the frame rule that the results about runs use.
-/

namespace Liqi.Migrations

open Postgres Liqi.Database

/-- The work of a point between the insert of a row and its end. -/
def Point.work? : Point → Option Work
  | .begin work | .file work | .record work | .commit work | .finishRun work => some work
  | _ => none

/-- The changes of the rows of `migration_runs` by a statement of a run. -/
inductive RowsStep (clock : Clock) (run : Nat) (point : Point) (rows : List MigrationRun) : List MigrationRun → Prop where
  | same : RowsStep clock run point rows rows
  | inserted {row : MigrationRun} (mine : row.inserter = run) (targeted : row.targetVersion.isSome = true)
      (unfailed : row.status ≠ .failed) : RowsStep clock run point rows (rows ++ [row])
  | finished {work : Work} {runId : Nat} {row row' : MigrationRun} (here : point.work? = some work)
      (tracked : work.runId = some runId) (found : rows[runId]? = some row)
      (set : row.set (row.succeed (clock.finishedAt run work.migration.version)) = some row') :
      RowsStep clock run point rows (rows.set runId row')
  | cleaned {code : Nat} {rows' : List MigrationRun} (here : point = .cleanup code)
      (mapped : rows.mapM (MigrationRun.clean (clock.failedAt run) code) = some rows') :
      RowsStep clock run point rows rows'

theorem set_inserter {row row' : MigrationRun} {columns : RunColumns} (set : row.set columns = some row') :
    row'.inserter = row.inserter ∧ row'.toRunColumns = columns := by
  unfold MigrationRun.set at set
  split at set
  · cases set
    exact ⟨rfl, rfl⟩
  · cases set

section Statement

variable {clock : Clock} {run : Nat} {db db' : Database} {point next : Point}

/-- A commit leaves the rows: the runs are created before any row. -/
theorem runs_committed {registry : Option (Table SchemaMigration.version)} {creates : Bool} {log : List Migration}
    (fresh : creates = true → db.runs = []) :
    (⟨registry, if creates then some [] else db.migrationRuns, log⟩ : Database).runs = db.runs := by
  cases creates with
  | true =>
    rw [fresh rfl]
    rfl
  | false => rfl

theorem Transition.rows (transition : Transition clock run db point db' next)
    (fresh : ∀ work, point = .commit work → work.migration.createsRegistry = true → db.runs = []) :
    RowsStep clock run point db.runs db'.runs := by
  cases transition with
  | inserted inserted | completed _ inserted =>
    obtain ⟨_, rfl, _⟩ := insertRow_eq inserted
    exact .inserted rfl rfl nofun
  | finished tracked finished =>
    rcases finishRow_eq finished with ⟨_, rfl⟩ | ⟨row, row', found, set, rfl⟩
    · exact .same
    · exact .finished rfl tracked found set
  | cleaned done =>
    rcases cleaned_eq done with ⟨_, rfl⟩ | ⟨rows, mapped, rfl⟩
    · exact .same
    · exact .cleaned rfl mapped
  | @committed work =>
    rw [runs_committed (fresh work rfl)]
    exact .same
  | _ => exact .same

end Statement

/-! ### Rows one by one -/

/-- The images stand where their sources stand. -/
theorem getElem?_mapM {α β : Type} {f : α → Option β} {l : List α} {l' : List β} (mapped : l.mapM f = some l') (i : Nat) :
    (l[i]? = none ∧ l'[i]? = none) ∨ ∃ a b, l[i]? = some a ∧ l'[i]? = some b ∧ f a = some b := by
  induction l generalizing l' i with
  | nil =>
    simp only [List.mapM_nil] at mapped
    cases mapped
    exact .inl ⟨rfl, rfl⟩
  | cons a l ih =>
    simp only [List.mapM_cons, Option.bind_eq_bind, Option.bind_eq_some_iff] at mapped
    obtain ⟨b, first, bs, rest, same⟩ := mapped
    cases same
    cases i with
    | zero => exact .inr ⟨a, b, rfl, rfl, first⟩
    | succ i => exact ih rest i

theorem mapM_isSome {α β : Type} {f : α → Option β} {l : List α} (each : ∀ a ∈ l, (f a).isSome = true) :
    (l.mapM f).isSome = true := by
  induction l with
  | nil => rfl
  | cons a l ih =>
    obtain ⟨b, first⟩ := Option.isSome_iff_exists.1 (each a List.mem_cons_self)
    obtain ⟨bs, rest⟩ := Option.isSome_iff_exists.1 (ih fun a listed => each a (List.mem_cons_of_mem _ listed))
    simp [first, rest]

/-- What the cleanup leaves of a row. -/
structure Cleaned (row row' : MigrationRun) : Prop where
  inserter : row'.inserter = row.inserter
  target : row'.targetVersion = row.targetVersion
  kept : row.status ≠ .running → row' = row
  ended : row'.status ≠ .running

theorem clean_cleaned {now : Timestamp} {code : Nat} {row row' : MigrationRun} (cleaned : row.clean now code = some row') :
    Cleaned row row' := by
  unfold MigrationRun.clean at cleaned
  split at cleaned
  next running =>
    obtain ⟨inserter, columns⟩ := set_inserter cleaned
    refine ⟨inserter, ?_, fun other => absurd running other, ?_⟩ <;> rw [columns]
    · rfl
    · exact nofun
  next other =>
    cases cleaned
    exact ⟨rfl, rfl, fun _ => rfl, other⟩

/-- The cleanup of a row that has a target meets the `CHECK`s. -/
theorem clean_isSome {now : Timestamp} {code : Nat} {row : MigrationRun} (targeted : row.targetVersion.isSome = true) :
    (row.clean now code).isSome = true := by
  unfold MigrationRun.clean
  split
  next =>
    have target : row.targetVersion.all (0 < ·) = true := by
      have checked := row.checked
      simp only [RunColumns.valid, Bool.and_eq_true] at checked
      exact checked.1.1
    have valid : (row.fail now code).valid = true := by
      simp only [RunColumns.valid, RunColumns.fail, target, targeted, Option.isSome_some, Bool.and_self]
    simp [MigrationRun.set, valid]
  next => rfl

section Rows

variable {clock : Clock} {run : Nat} {point : Point} {rows rows' : List MigrationRun}

/-- A row stays the row of the run that inserted it. -/
theorem RowsStep.inserter (stepped : RowsStep clock run point rows rows') {i : Nat} {row : MigrationRun}
    (found : rows[i]? = some row) : ∃ row', rows'[i]? = some row' ∧ row'.inserter = row.inserter := by
  have bound := (List.getElem?_eq_some_iff.1 found).1
  cases stepped with
  | same => exact ⟨row, found, rfl⟩
  | inserted => exact ⟨row, by rw [List.getElem?_append_left bound, found], rfl⟩
  | @finished work runId old new here tracked there set =>
    by_cases same : runId = i
    · subst same
      rw [there] at found
      cases found
      exact ⟨new, List.getElem?_set_self bound, (set_inserter set).1⟩
    · exact ⟨row, by rw [List.getElem?_set_ne same, found], rfl⟩
  | cleaned here mapped =>
    rcases getElem?_mapM mapped i with ⟨missing, _⟩ | ⟨old, new, there, result, cleaned⟩
    · rw [missing] at found
      cases found
    · rw [there] at found
      cases found
      exact ⟨new, result, (clean_cleaned cleaned).inserter⟩

theorem RowsStep.targeted (stepped : RowsStep clock run point rows rows')
    (targeted : ∀ row ∈ rows, row.targetVersion.isSome = true) : ∀ row ∈ rows', row.targetVersion.isSome = true := by
  intro row' listed
  cases stepped with
  | same => exact targeted row' listed
  | @inserted row mine target =>
    rcases List.mem_append.1 listed with old | new
    · exact targeted row' old
    · rw [List.mem_singleton.1 new]
      exact target
  | @finished work runId row new here tracked found set =>
    rcases List.mem_or_eq_of_mem_set listed with old | rfl
    · exact targeted row' old
    · rw [(set_inserter set).2]
      exact targeted row (List.mem_of_getElem? found)
  | cleaned here mapped =>
    obtain ⟨i, here⟩ := List.mem_iff_getElem?.1 listed
    rcases getElem?_mapM mapped i with ⟨_, missing⟩ | ⟨old, new, there, result, cleaned⟩
    · rw [missing] at here
      cases here
    · rw [here] at result
      cases result
      rw [(clean_cleaned cleaned).target]
      exact targeted old (List.mem_of_getElem? there)

/-- The rows of a kind are the same. -/
def SameRows (P : MigrationRun → Prop) (rows rows' : List MigrationRun) : Prop :=
  ∀ (i : Nat) (row : MigrationRun), P row → (rows'[i]? = some row ↔ rows[i]? = some row)

theorem SameRows.mem {P : MigrationRun → Prop} (same : SameRows P rows rows') {row : MigrationRun} (kind : P row) :
    row ∈ rows' ↔ row ∈ rows := by
  simp only [List.mem_iff_getElem?, same _ row kind]

/-- **Frame.** A statement that inserts, finishes and cleans no row of a kind leaves the rows of the kind alone. -/
theorem RowsStep.sameRows {P : MigrationRun → Prop} (stepped : RowsStep clock run point rows rows')
    (inserts : ∀ row : MigrationRun, row.inserter = run → row.status ≠ .failed → ¬ P row)
    (finishes : ∀ work runId row row', point.work? = some work → work.runId = some runId → rows[runId]? = some row →
      row.set (row.succeed (clock.finishedAt run work.migration.version)) = some row' → ¬ P row ∧ ¬ P row')
    (cleans : ∀ code row row', point = .cleanup code → row ∈ rows → Cleaned row row' → row.status = .running →
      ¬ P row ∧ ¬ P row') : SameRows P rows rows' := by
  intro i row kind
  have foreign : ∀ {other : MigrationRun}, ¬ P other → other ≠ row := by
    rintro _ unlike rfl
    exact unlike kind
  cases stepped with
  | same => exact Iff.rfl
  | @inserted new mine _ unfailed =>
    by_cases bound : i < rows.length
    · rw [List.getElem?_append_left bound]
    · rw [List.getElem?_append_right (by omega), List.getElem?_eq_none (by omega : rows.length ≤ i)]
      simp [List.getElem?_singleton, foreign (inserts new mine unfailed)]
  | @finished work runId old new here known found set =>
    by_cases same : runId = i
    · subst same
      obtain ⟨unlike, unlike'⟩ := finishes work runId old new here known found set
      rw [List.getElem?_set_self (List.getElem?_eq_some_iff.1 found).1, found]
      simp [foreign unlike, foreign unlike']
    · rw [List.getElem?_set_ne same]
  | @cleaned code _ here mapped =>
    rcases getElem?_mapM mapped i with ⟨missing, missing'⟩ | ⟨old, new, there, result, cleaned⟩
    · rw [missing, missing']
    · have kept := clean_cleaned cleaned
      rw [there, result]
      by_cases running : old.status = .running
      · obtain ⟨unlike, unlike'⟩ := cleans code old new here (List.mem_of_getElem? there) kept running
        simp [foreign unlike, foreign unlike']
      · rw [kept.kept running]

/-- A statement of another run leaves the rows of a run alone, if it tracks its own row and a cleanup finds none of the
run that is still running. -/
theorem RowsStep.others {other : Nat} (stepped : RowsStep clock other point rows rows') (apart : run ≠ other)
    (tracked : ∀ work runId, point.work? = some work → work.runId = some runId →
      ∃ row, rows[runId]? = some row ∧ row.inserter = other)
    (cleanup : ∀ code, point = .cleanup code → ∀ row ∈ rows, row.status = .running → row.inserter = other) :
    SameRows (·.inserter = run) rows rows' := by
  refine stepped.sameRows (fun row theirs _ mine => apart (mine.symm.trans theirs)) ?_ ?_
  · intro work runId row row' here known found set
    obtain ⟨_, there, theirs⟩ := tracked work runId here known
    rw [found] at there
    cases there
    refine ⟨fun mine => apart (mine.symm.trans theirs), fun mine => apart (mine.symm.trans ?_)⟩
    rw [(set_inserter set).1, theirs]
  · intro code row row' here listed cleaned running
    have theirs := cleanup code here row listed running
    refine ⟨fun mine => apart (mine.symm.trans theirs), fun mine => apart (mine.symm.trans ?_)⟩
    rw [cleaned.inserter, theirs]

/-- A row that has failed cannot be finished. -/
theorem set_succeed_unfailed {row row' : MigrationRun} {now : Timestamp} (set : row.set (row.succeed now) = some row') :
    row.status ≠ .failed := by
  intro failed
  have checked := row.checked
  have checked' := row'.checked
  rw [(set_inserter set).2] at checked'
  simp only [RunColumns.valid, failed, Bool.and_eq_true] at checked
  simp only [RunColumns.valid, RunColumns.succeed, Bool.and_eq_true, Option.isNone_iff_eq_none] at checked'
  rw [checked'.2.2] at checked
  exact Bool.noConfusion checked.2.2

/-- Besides a cleanup, no statement fails a row or changes one that has failed. -/
theorem RowsStep.failed (stepped : RowsStep clock run point rows rows') (apart : ∀ code, point ≠ .cleanup code) :
    SameRows (·.status = .failed) rows rows' := by
  refine stepped.sameRows (fun row _ unfailed => unfailed) ?_ fun code _ _ here => absurd here (apart code)
  intro work runId row row' _ _ _ set
  refine ⟨set_succeed_unfailed set, ?_⟩
  rw [(set_inserter set).2]
  exact nofun

end Rows

end Liqi.Migrations
