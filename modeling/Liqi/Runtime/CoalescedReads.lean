import Liqi.Runtime.ReadCoordinator

/-!
# Waiting for a coalesced read

The entry of a key is made when a task starts and removed when the result of the task is handled. In between
no other task of the key starts, so that at most one task of a key is in progress, and the result that is
handled while a caller waits is the one of the task that the caller joined: `coalesced_answers_routed`.
The entry of a task that sends no result stays. `unstuck_iff_none_fails` is the exact condition under which
no entry is left without a task: no function of a read raises, throws or exits.
-/

namespace Liqi.Runtime.ReadCoordinator

open Beam

variable {Key Value : Type} [DecidableEq Key]

/-- All callers that wait. -/
def waiting (inflight : Inflight Key) : List CallRef := inflight.entries.flatMap fun entry => entry.2

section Inflight

variable {inflight : Inflight Key} {key : Key} {call : CallRef} {waiters : List CallRef}

theorem entries_perm (entry : inflight.lookup key = some waiters) :
    inflight.entries.Perm (⟨key, waiters⟩ :: (inflight.erase key).entries) := by
  have listed : key ∈ inflight.keys := AList.mem_keys.1 (AList.lookup_isSome.1 (by simp [entry]))
  obtain ⟨found, before, after, _, split, erased⟩ := List.exists_of_kerase listed
  have same : found = waiters := by
    have member : found ∈ inflight.lookup key := AList.mem_lookup_iff.2 (by simp [split])
    rw [entry] at member
    exact (Option.some.inj member).symm
  have rest : (inflight.erase key).entries = before ++ after := erased
  rw [split, rest, same]
  exact List.perm_middle

theorem waiting_perm (entry : inflight.lookup key = some waiters) :
    (waiting inflight).Perm (waiters ++ waiting (inflight.erase key)) := by
  exact (entries_perm entry).flatMap_right _

theorem waiting_insert : waiting (inflight.insert key waiters) = waiters ++ waiting (inflight.erase key) := by
  rw [waiting, AList.entries_insert, List.flatMap_cons]
  rfl

theorem waiting_erase_of_none (absent : inflight.lookup key = none) :
    waiting (inflight.erase key) = waiting inflight := by
  have missing : key ∉ inflight.keys := fun listed => AList.lookup_eq_none.1 absent (AList.mem_keys.2 listed)
  have same : (inflight.erase key).entries = inflight.entries := List.kerase_of_notMem_keys missing
  rw [waiting, same, waiting]

/-- The callers of a key and the others are all that wait. -/
theorem waiting_split (inflight : Inflight Key) (key : Key) :
    (waiting inflight).Perm ((inflight.lookup key).getD [] ++ waiting (inflight.erase key)) := by
  rcases entry : inflight.lookup key with _ | waiters
  · rw [waiting_erase_of_none entry]
    exact List.Perm.refl _
  · exact waiting_perm entry

theorem mem_waiting (inflight : Inflight Key) (key : Key) :
    call ∈ (inflight.lookup key).getD [] → call ∈ waiting inflight :=
  fun member => (waiting_split inflight key).mem_iff.2 (List.mem_append_left _ member)

theorem isSome_lookup_insert {other : Key} (listed : (inflight.lookup key).isSome) :
    ((inflight.insert other waiters).lookup key).isSome :=
  AList.lookup_isSome.2 ((AList.mem_insert _).2 (.inr (AList.lookup_isSome.1 listed)))

end Inflight

namespace System

/-- The calls that the coordinator has not taken from its mailbox. -/
def posted (mailbox : List (Mail Key Value)) : List CallRef :=
  mailbox.filterMap fun
    | .fetch _ call => some call
    | .readResult .. => none

/-- Where the calls are: in the mailbox, waiting for a result, or answered. -/
def places (system : System Key Value) : List CallRef :=
  posted system.mailbox ++ waiting system.inflight ++ system.replies.map Prod.fst

variable {system next : System Key Value} {action : Action Value Key} {key : Key} {call : CallRef}

section Progress

theorem mem_running {task : Task Key} : task ∈ system.running key ↔ task ∈ system.tasks ∧ task.key = key := by
  simp [running]

/-- A task that ends no longer runs. -/
theorem length_running_endTask {task : Task Key} (key : Key) (sent : Option (ReadResult Value))
    (runs : task ∈ system.tasks) :
    ((system.endTask task sent).running key).length + (if task.key = key then 1 else 0)
      ≤ (system.running key).length := by
  have filtered : (system.endTask task sent).running key = (system.running key).filter (·.ref ≠ task.ref) := by
    simp only [running, endTask, List.filter_filter]
    exact List.filter_congr fun _ _ => Bool.and_comm _ _
  rw [filtered]
  split
  next same =>
    refine List.length_filter_lt_length_iff_exists.2 ⟨task, mem_running.2 ⟨runs, same⟩, by simp⟩
  next => exact List.length_filter_le _ _

theorem inProgress_endTask {task : Task Key} (key : Key) (sent : Option (ReadResult Value))
    (runs : task ∈ system.tasks) :
    (system.endTask task sent).inProgress key ⊆ system.inProgress key
      ∧ ((system.endTask task sent).inProgress key).length + (if task.key = key ∧ sent = none then 1 else 0)
        ≤ (system.inProgress key).length := by
  have fewer := length_running_endTask key sent runs
  have still : (system.endTask task sent).running key ⊆ system.running key :=
    (List.filter_sublist.filter _).subset
  have returned : (system.endTask task sent).returned key
      = system.returned key ++ (if task.key = key ∧ sent ≠ none then [task.ref] else []) := by
    rcases sent with _ | result
    · simp [System.returned, endTask]
    · by_cases same : task.key = key <;> simp [System.returned, endTask, same]
  constructor
  · intro ref member
    rw [inProgress, returned] at member
    rcases List.mem_append.1 member with runs' | member
    · exact List.mem_append_left _ (List.map_subset _ still runs')
    rcases List.mem_append.1 member with old | new
    · exact List.mem_append_right _ old
    · split at new
      next sends =>
        rw [List.mem_singleton.1 new]
        exact List.mem_append_left _ (List.mem_map_of_mem (mem_running.2 ⟨runs, sends.1⟩))
      next => cases new
  · simp only [inProgress, returned, List.length_append, List.length_map]
    by_cases same : task.key = key
    · rcases sent with _ | result
      · simp [same] at fewer ⊢
        omega
      · simp [same] at fewer ⊢
        omega
    · simp [same] at fewer ⊢
      omega

/-- A step starts no task of the key, or finds no entry for it. -/
theorem Step.inProgress (step : system.Step action next) (key : Key) :
    (next.inProgress key ⊆ system.inProgress key ∧ (next.inProgress key).length ≤ (system.inProgress key).length)
      ∨ (system.inflight.lookup key = none ∧ (next.inflight.lookup key).isSome
          ∧ (next.inProgress key).length = (system.inProgress key).length + 1) := by
  cases step with
  | called other => exact .inl (by simp [System.inProgress, running, returned])
  | full arrived | joined arrived | unstarted reply arrived =>
    exact .inl (by simp [System.inProgress, running, returned, arrived])
  | @started other _ rest arrived absent =>
    by_cases same : other = key
    · subst same
      refine .inr ⟨absent, by simp, ?_⟩
      simp only [System.inProgress, running, returned, arrived, List.filter_append, List.map_append, List.length_append]
      simp
      omega
    · exact .inl (by simp [System.inProgress, running, returned, arrived, same])
  | @answered _ other _ _ _ arrived =>
    by_cases same : other = key
    · left
      simp [System.inProgress, running, returned, arrived, same]
    · exact .inl (by simp [System.inProgress, running, returned, arrived, same])
  | ended runs =>
    obtain ⟨subset, shorter⟩ := inProgress_endTask key (permittedRead _ _) runs
    exact .inl ⟨subset, by omega⟩
  | timedOut => exact .inl ⟨List.Subset.refl _, le_rfl⟩

end Progress

/-- A call stays where it is or moves on; a new call is posted. -/
theorem Step.moved (step : system.Step action next) :
    next.nextCall = system.nextCall ∧ next.places.Perm system.places ∨
      next.nextCall = system.nextCall + 1 ∧ next.places.Perm (system.nextCall :: system.places) := by
  cases step with
  | called key => exact .inr ⟨rfl, by simp [places, posted]⟩
  | full arrived | unstarted _ arrived =>
    refine .inl ⟨rfl, List.perm_iff_count.2 fun call => ?_⟩
    simp [places, posted, arrived, List.count_cons]
    omega
  | @joined _ key _ _ _ arrived entry =>
    refine .inl ⟨rfl, List.perm_iff_count.2 fun call => ?_⟩
    have split := (waiting_perm entry).count_eq call
    simp [places, posted, arrived, waiting_insert, List.count_cons] at split ⊢
    omega
  | @started key _ _ arrived absent =>
    refine .inl ⟨rfl, List.perm_iff_count.2 fun call => ?_⟩
    simp [places, posted, arrived, waiting_insert, waiting_erase_of_none absent, List.count_cons]
    omega
  | @answered _ key _ _ _ arrived =>
    refine .inl ⟨rfl, List.perm_iff_count.2 fun call => ?_⟩
    have split := (waiting_split system.inflight key).count_eq call
    simp [places, posted, arrived, System.waiters, Function.comp_def] at split ⊢
    omega
  | ended runs => exact .inl ⟨rfl, by simp [places, posted, endTask]⟩
  | timedOut => exact .inl ⟨rfl, .rfl⟩

/-- **Coalescing.** At most one task of a key is in progress, and only while the key has an entry; an entry has
at most `maxWaiters` callers, a call is in one place, and a task has one result, which is the one it sent. -/
structure Coalescing (system : System Key Value) : Prop where
  single : ∀ key, (system.inProgress key).length ≤ 1
  listed : ∀ key, system.inProgress key ≠ [] → (system.inflight.lookup key).isSome
  bounded : ∀ key waiters, system.inflight.lookup key = some waiters → waiters.length ≤ maxWaiters
  places : system.places.Nodup
  placed : ∀ call ∈ system.places, call < system.nextCall
  recorded : ∀ key result sender, .readResult key result sender ∈ system.mailbox → (sender, result) ∈ system.results
  tasks : (system.tasks.map Task.ref ++ system.results.map Prod.fst).Nodup
  numbered : ∀ ref ∈ system.tasks.map Task.ref ++ system.results.map Prod.fst, ref < system.nextTask

theorem init_coalescing : (init : System Key Value).Coalescing where
  single := by simp [inProgress, running, returned, init]
  listed := by simp [inProgress, running, returned, init]
  bounded := by simp [init]
  places := by simp [System.places, posted, waiting, init]
  placed := by simp [System.places, posted, waiting, init]
  recorded := by simp [init]
  tasks := by simp [init]
  numbered := by simp [init]

namespace Coalescing

theorem step_single (coalescing : system.Coalescing) (step : system.Step action next) (key : Key) :
    (next.inProgress key).length ≤ 1 := by
  rcases step.inProgress key with ⟨_, shorter⟩ | ⟨absent, _, longer⟩
  · exact le_trans shorter (coalescing.single key)
  · have none : system.inProgress key = [] := by
      by_contra some
      have listed := coalescing.listed key some
      rw [absent] at listed
      cases listed
    rw [longer, none]
    rfl

theorem step_listed (coalescing : system.Coalescing) (step : system.Step action next) (key : Key)
    (progress : next.inProgress key ≠ []) : (next.inflight.lookup key).isSome := by
  rcases step.inProgress key with ⟨subset, _⟩ | ⟨_, listed, _⟩
  · have listed : (system.inflight.lookup key).isSome :=
      coalescing.listed key fun none => progress (List.subset_nil.1 (none ▸ subset))
    cases step with
    | called | full | unstarted | ended | timedOut => exact listed
    | joined | started => exact isSome_lookup_insert listed
    | @answered _ other result sender rest arrived =>
      by_cases same : key = other
      · -- The result that is handled was the one task in progress.
        subst same
        have single := coalescing.single key
        have emptied : (({ system with mailbox := rest } : System Key Value).inProgress key).length = 0 := by
          simp only [inProgress, running, returned, arrived, List.filterMap_cons, if_true, List.length_append,
            List.length_cons] at single ⊢
          omega
        exact absurd (List.eq_nil_of_length_eq_zero emptied) progress
      · rw [AList.lookup_erase_ne same]
        exact listed
  · exact listed

theorem step_bounded (coalescing : system.Coalescing) (step : system.Step action next) (key : Key)
    {waiters : List CallRef} (entry : next.inflight.lookup key = some waiters) : waiters.length ≤ maxWaiters := by
  have bounded := coalescing.bounded key waiters
  cases step with
  | called | full | unstarted | ended | timedOut => exact bounded entry
  | @joined _ other _ _ _ _ _ room =>
    by_cases same : key = other
    · subst same
      rw [AList.lookup_insert] at entry
      obtain rfl := Option.some.inj entry
      exact room
    · rw [AList.lookup_insert_ne same] at entry
      exact bounded entry
  | @started other _ _ _ _ =>
    by_cases same : key = other
    · subst same
      rw [AList.lookup_insert] at entry
      obtain rfl := Option.some.inj entry
      simp [maxWaiters]
    · rw [AList.lookup_insert_ne same] at entry
      exact bounded entry
  | @answered _ other _ _ _ _ =>
    by_cases same : key = other
    · subst same
      rw [AList.lookup_erase] at entry
      cases entry
    · rw [AList.lookup_erase_ne same] at entry
      exact bounded entry

theorem step_recorded (coalescing : system.Coalescing) (step : system.Step action next) {key : Key}
    {result : ReadResult Value} {sender : TaskRef} (sent : .readResult key result sender ∈ next.mailbox) :
    (sender, result) ∈ next.results := by
  have recorded := coalescing.recorded key result sender
  cases step with
  | called => exact recorded (by simpa using sent)
  | full arrived | joined arrived | started arrived | unstarted _ arrived | answered arrived =>
    exact recorded (by rw [arrived]; exact List.mem_cons_of_mem _ sent)
  | ended runs =>
    rcases List.mem_append.1 sent with old | new
    · exact List.mem_append_left _ (recorded old)
    · obtain ⟨_, returned, same⟩ := List.mem_map.1 new
      cases same
      exact List.mem_append_right _ (List.mem_map_of_mem returned)
  | timedOut => exact recorded sent

theorem step_tasks (coalescing : system.Coalescing) (step : system.Step action next) :
    (next.tasks.map Task.ref ++ next.results.map Prod.fst).Nodup
      ∧ ∀ ref ∈ next.tasks.map Task.ref ++ next.results.map Prod.fst, ref < next.nextTask := by
  have tasks := coalescing.tasks
  have numbered := coalescing.numbered
  cases step with
  | called | full | joined | unstarted | answered | timedOut => exact ⟨tasks, numbered⟩
  | @started key =>
    have moved : ((system.tasks ++ [({ ref := system.nextTask, key } : Task Key)]).map Task.ref
        ++ system.results.map Prod.fst).Perm
          (system.nextTask :: (system.tasks.map Task.ref ++ system.results.map Prod.fst)) := by
      simp
    have fresh : system.nextTask ∉ system.tasks.map Task.ref ++ system.results.map Prod.fst :=
      fun member => Nat.lt_irrefl _ (numbered _ member)
    refine ⟨moved.nodup_iff.2 (List.nodup_cons.2 ⟨fresh, tasks⟩), fun ref member => ?_⟩
    rcases List.mem_cons.1 (moved.mem_iff.1 member) with rfl | old
    · exact Nat.lt_succ_self _
    · exact Nat.lt_succ_of_lt (numbered ref old)
  | @ended acquired ending task runs =>
    have fewer : ((system.tasks.filter (·.ref ≠ task.ref)).map Task.ref ++ system.results.map Prod.fst).Sublist
        (system.tasks.map Task.ref ++ system.results.map Prod.fst) :=
      (List.filter_sublist.map _).append (List.Sublist.refl _)
    have ended : task.ref ∈ system.tasks.map Task.ref := List.mem_map_of_mem runs
    rcases permittedRead acquired ending with _ | result
    · simp only [endTask, Option.toList_none, List.map_nil, List.append_nil]
      exact ⟨fewer.nodup tasks, fun ref member => numbered ref (fewer.subset member)⟩
    · have moved : ((system.endTask task (some result)).tasks.map Task.ref
          ++ (system.endTask task (some result)).results.map Prod.fst).Perm
            (task.ref :: ((system.tasks.filter (·.ref ≠ task.ref)).map Task.ref ++ system.results.map Prod.fst)) := by
        simp only [endTask, Option.toList_some, List.map_append, List.map_cons, List.map_nil, ← List.append_assoc]
        exact List.perm_append_singleton _ _
      have fresh : task.ref ∉ (system.tasks.filter (·.ref ≠ task.ref)).map Task.ref ++ system.results.map Prod.fst := by
        rw [List.mem_append]
        rintro (again | before)
        · obtain ⟨other, left, same⟩ := List.mem_map.1 again
          exact absurd same (by simpa using (List.mem_filter.1 left).2)
        · exact List.disjoint_of_nodup_append tasks ended before
      refine ⟨moved.nodup_iff.2 (List.nodup_cons.2 ⟨fresh, fewer.nodup tasks⟩), fun ref member => ?_⟩
      rcases List.mem_cons.1 (moved.mem_iff.1 member) with rfl | old
      · exact numbered _ (List.mem_append_left _ ended)
      · exact numbered ref (fewer.subset old)

theorem step_places (coalescing : system.Coalescing) (step : system.Step action next) :
    next.places.Nodup ∧ ∀ call ∈ next.places, call < next.nextCall := by
  have fresh : system.nextCall ∉ system.places := fun member => Nat.lt_irrefl _ (coalescing.placed _ member)
  obtain ⟨numbered, moved⟩ | ⟨numbered, moved⟩ := step.moved
  · exact ⟨moved.nodup_iff.2 coalescing.places,
      fun call member => numbered ▸ coalescing.placed call (moved.mem_iff.1 member)⟩
  · refine ⟨moved.nodup_iff.2 (List.nodup_cons.2 ⟨fresh, coalescing.places⟩), fun call member => ?_⟩
    rw [numbered]
    rcases List.mem_cons.1 (moved.mem_iff.1 member) with rfl | old
    · exact Nat.lt_succ_self _
    · exact Nat.lt_succ_of_lt (coalescing.placed call old)

/-- Every step keeps the invariant. -/
theorem step (coalescing : system.Coalescing) (step : system.Step action next) : next.Coalescing where
  single := coalescing.step_single step
  listed := coalescing.step_listed step
  bounded := fun key _ => coalescing.step_bounded step key
  places := (coalescing.step_places step).1
  placed := (coalescing.step_places step).2
  recorded := fun _ _ _ => coalescing.step_recorded step
  tasks := (coalescing.step_tasks step).1
  numbered := (coalescing.step_tasks step).2

end Coalescing

section Run

variable {actions : List (Action Value Key)}

theorem run_coalescing (ran : run step (init : System Key Value) actions = some system) : system.Coalescing :=
  run_invariant (P := Coalescing) init_coalescing
    (fun _ _ _ coalescing stepped => coalescing.step (step_cases stepped)) ran

/-- An entry is there only while a task of its key runs or the result of one is in the mailbox. -/
def Unstuck (system : System Key Value) : Prop :=
  ∀ key, system.running key = [] → system.returned key = [] → system.inflight.lookup key = none

/-- The action is the end of a task that sends no result. -/
def Fails (action : Action Value Key) (system : System Key Value) : Prop :=
  ∃ task ∈ system.tasks, ∃ acquired ending, action = .finish task.ref acquired ending
    ∧ permittedRead acquired ending = none

theorem unstuck_iff : system.Unstuck ↔ ∀ key, (system.inflight.lookup key).isSome → system.inProgress key ≠ [] := by
  simp only [Unstuck, inProgress, ne_eq, List.append_eq_nil_iff, List.map_eq_nil_iff, not_and,
    Option.isSome_iff_ne_none]
  exact forall_congr' fun key => ⟨fun unstuck listed none returned => listed (unstuck none returned),
    fun progress none returned => by_contra fun listed => progress listed none returned⟩

theorem Coalescing.task_eq (coalescing : system.Coalescing) {task other : Task Key} (runs : task ∈ system.tasks)
    (otherRuns : other ∈ system.tasks) (same : other.ref = task.ref) : other = task :=
  List.inj_on_of_nodup_map (List.Nodup.of_append_left coalescing.tasks) otherRuns runs same

/-- A task that sends its result stays in progress. -/
theorem Coalescing.inProgress_sent (coalescing : system.Coalescing) {task : Task Key} (result : ReadResult Value)
    (runs : task ∈ system.tasks) (key : Key) :
    system.inProgress key ⊆ (system.endTask task (some result)).inProgress key := by
  intro ref member
  rcases List.mem_append.1 member with running | sent
  · obtain ⟨other, otherRuns, rfl⟩ := List.mem_map.1 running
    obtain ⟨listed, rfl⟩ := mem_running.1 otherRuns
    by_cases same : other.ref = task.ref
    · obtain rfl := coalescing.task_eq runs listed same
      exact List.mem_append_right _ (by simp [returned, endTask])
    · refine List.mem_append_left _ (List.mem_map_of_mem (mem_running.2 ⟨?_, rfl⟩))
      exact List.mem_filter.2 ⟨listed, by simpa using same⟩
  · refine List.mem_append_right _ ?_
    simp only [returned, endTask, List.filterMap_append]
    exact List.mem_append_left _ sent

theorem Unstuck.step (unstuck : system.Unstuck) (coalescing : system.Coalescing) (moved : system.Step action next)
    (sends : ¬ Fails action system) : next.Unstuck := by
  rw [unstuck_iff] at unstuck ⊢
  intro key listed
  have progress := unstuck key
  cases moved with
  | called => simpa [inProgress, running, returned] using progress listed
  | full arrived | unstarted _ arrived => simpa [inProgress, running, returned, arrived] using progress listed
  | @joined _ other _ _ _ arrived entry =>
    have before : (system.inflight.lookup key).isSome := by
      by_cases same : key = other
      · rw [same, entry]
        rfl
      · rwa [AList.lookup_insert_ne same] at listed
    simpa [inProgress, running, returned, arrived] using progress before
  | @started other _ _ arrived absent =>
    by_cases same : key = other
    · simp [inProgress, running, same]
    · rw [AList.lookup_insert_ne same] at listed
      simpa [inProgress, running, returned, arrived, Ne.symm same] using progress listed
  | @answered _ other _ _ _ arrived =>
    by_cases same : key = other
    · rw [same, AList.lookup_erase] at listed
      cases listed
    · rw [AList.lookup_erase_ne same] at listed
      simpa [inProgress, running, returned, arrived, Ne.symm same] using progress listed
  | @ended acquired ending task runs =>
    rcases sent : permittedRead acquired ending with _ | result
    · exact absurd ⟨task, runs, acquired, ending, rfl, sent⟩ sends
    · intro none
      have empty := coalescing.inProgress_sent result runs key
      rw [none] at empty
      exact progress listed (List.subset_nil.1 empty)
  | timedOut => exact progress listed

/-- The entry of a task that fails is left without a task. -/
theorem Coalescing.stuck (coalescing : system.Coalescing) (fails : Fails action system) :
    ∃ next, (system.step action).next? = some next ∧ ¬ next.Unstuck := by
  obtain ⟨task, runs, acquired, ending, rfl, unsent⟩ := fails
  have found : system.tasks.find? (·.ref = task.ref) = some task := by
    obtain ⟨other, found⟩ := Option.isSome_iff_exists.1
      (List.find?_isSome.2 ⟨task, runs, by simp⟩ : (system.tasks.find? (·.ref = task.ref)).isSome)
    rw [found, coalescing.task_eq runs (List.mem_of_find?_eq_some found) (by simpa using List.find?_some found)]
  refine ⟨system.endTask task none, ?_, fun unstuck => ?_⟩
  · simp only [System.step, found, unsent]
    rfl
  · have progress : system.inProgress task.key ≠ [] :=
      List.ne_nil_of_mem (List.mem_append_left _ (List.mem_map_of_mem (mem_running.2 ⟨runs, rfl⟩)))
    have shorter := (inProgress_endTask task.key none runs).2
    have single := coalescing.single task.key
    rw [if_pos ⟨rfl, rfl⟩] at shorter
    exact unstuck_iff.1 unstuck task.key (coalescing.listed task.key progress)
      (List.eq_nil_of_length_eq_zero (by omega))

end Run

/-- **No stuck read.** For every interleaving: in every state an entry is there only while a task of its key
runs or its result is in the mailbox, exactly if no task of the run ends without a result. -/
theorem unstuck_iff_none_fails (actions : List (Action Value Key)) :
    Throughout step (init : System Key Value) Unstuck actions
      ↔ Along step (init : System Key Value) (fun action system => ¬ Fails action system) actions := by
  refine throughout_iff_along (L := fun _ => True) (I := fun system => system.Coalescing ∧ system.Unstuck)
    (fun _ _ => trivial) ⟨init_coalescing, by simp [Unstuck, init]⟩ (fun _ invariant => invariant.2) ?_ ?_
  · rintro action system next _ ⟨coalescing, unstuck⟩ sends stepped
    have moved := step_cases stepped
    exact ⟨coalescing.step moved, unstuck.step coalescing moved sends⟩
  · rintro action system _ ⟨coalescing, _⟩ fails
    exact coalescing.stuck (not_not.1 fails)

/-- The first read fails; the second caller joins its entry, and no task runs for it. -/
theorem failed_read_stuck :
    (run step (init : System Nat Nat) [.call 5, .receive none, .finish 0 true .raised, .call 5, .receive none]).map
        (fun system => (system.waiters 5, system.tasks, system.mailbox))
      = some ([1, 0], [], []) := by decide

section Routing

/-- The call waits for the key while at most these tasks are in progress for it, or was answered with the result
of one of them. -/
def Routed (system : System Key Value) (key : Key) (call : CallRef) (tasks : List TaskRef) : Prop :=
  (call ∈ system.waiters key ∧ system.inProgress key ⊆ tasks)
    ∨ ∃ task ∈ tasks, ∃ result, (call, .result result) ∈ system.replies ∧ (task, result) ∈ system.results

theorem Step.grows (step : system.Step action next) :
    system.replies ⊆ next.replies ∧ system.results ⊆ next.results := by
  cases step with
  | called | joined | started | timedOut => exact ⟨List.Subset.refl _, List.Subset.refl _⟩
  | full | unstarted | answered => exact ⟨List.subset_append_left _ _, List.Subset.refl _⟩
  | ended => exact ⟨List.Subset.refl _, List.subset_append_left _ _⟩

/-- A caller that waits goes on waiting, or is answered with a result that was in the mailbox. -/
theorem Step.waiters (step : system.Step action next) (waits : call ∈ system.waiters key) :
    call ∈ next.waiters key ∨ ∃ result sender, .readResult key result sender ∈ system.mailbox
      ∧ (call, .result result) ∈ next.replies := by
  cases step with
  | called | full | unstarted | ended | timedOut => exact .inl waits
  | @joined _ other _ _ _ _ entry =>
    refine .inl ?_
    by_cases same : key = other
    · subst same
      simp only [System.waiters, entry, Option.getD_some, AList.lookup_insert] at waits ⊢
      exact List.mem_cons_of_mem _ waits
    · simpa only [System.waiters, AList.lookup_insert_ne same] using waits
  | @started other _ _ _ absent =>
    refine .inl ?_
    by_cases same : key = other
    · subst same
      simp [System.waiters, absent] at waits
    · simpa only [System.waiters, AList.lookup_insert_ne same] using waits
  | @answered _ other result sender _ arrived =>
    by_cases same : key = other
    · subst same
      exact .inr ⟨result, sender, by simp [arrived], List.mem_append_right _ (List.mem_map_of_mem waits)⟩
    · refine .inl ?_
      simpa only [System.waiters, AList.lookup_erase_ne same] using waits

theorem Routed.step {tasks : List TaskRef} (routed : system.Routed key call tasks) (coalescing : system.Coalescing)
    (step : system.Step action next) : next.Routed key call tasks := by
  rcases routed with ⟨waits, within⟩ | ⟨task, member, result, replied, returned⟩
  · rcases step.waiters waits with still | ⟨result, sender, sent, replied⟩
    · refine .inl ⟨still, ?_⟩
      rcases step.inProgress key with ⟨subset, _⟩ | ⟨absent, _⟩
      · exact List.Subset.trans subset within
      · simp [System.waiters, absent] at waits
    · have progress : sender ∈ system.inProgress key :=
        List.mem_append_right _ (List.mem_filterMap.2 ⟨_, sent, by simp⟩)
      exact .inr ⟨sender, within progress, result, replied, step.grows.2 (coalescing.recorded _ _ _ sent)⟩
  · exact .inr ⟨task, member, result, step.grows.1 replied, step.grows.2 returned⟩

theorem Coalescing.not_waiting (coalescing : system.Coalescing) {reply : FetchReply Value}
    (replied : (call, reply) ∈ system.replies) : call ∉ system.waiters key := by
  intro waits
  have placed : call ∈ posted system.mailbox ++ waiting system.inflight :=
    List.mem_append_right _ (mem_waiting system.inflight key waits)
  exact List.disjoint_of_nodup_append coalescing.places placed (List.mem_map_of_mem replied)

theorem Coalescing.waiters_length (coalescing : system.Coalescing) (key : Key) :
    (system.waiters key).length ≤ maxWaiters := by
  unfold System.waiters
  rcases entry : system.inflight.lookup key with _ | waiters
  · exact Nat.zero_le _
  · exact coalescing.bounded key waiters entry

end Routing

/-- **Routing.** For every interleaving: at most one task of a key is in progress, at most 64 callers wait for it,
and no call is answered twice. A call that joins the callers of a key is answered, if at all, with the result of
the one task of the key that was in progress then; a task has one result. -/
theorem coalesced_answers_routed (actions : List (Action Value Key)) (system : System Key Value)
    (ran : run step init actions = some system) :
    (∀ key, (system.running key).length ≤ 1 ∧ (system.inProgress key).length ≤ 1)
      ∧ (∀ key, (system.waiters key).length ≤ 64)
      ∧ (system.replies.map Prod.fst).Nodup
      ∧ (system.results.map Prod.fst).Nodup
      ∧ ∀ before action accepting accepted key call, before ++ [action] <+: actions →
          run step (init : System Key Value) before = some accepting →
          (accepting.step action).next? = some accepted →
          call ∉ accepting.waiters key → call ∈ accepted.waiters key →
          ∀ reply, (call, reply) ∈ system.replies →
            ∃ task result, accepted.inProgress key = [task] ∧ (task, result) ∈ system.results
              ∧ reply = .result result := by
  have coalescing := run_coalescing ran
  refine ⟨fun key => ⟨?_, coalescing.single key⟩, coalescing.waiters_length,
    List.Nodup.of_append_right coalescing.places, List.Nodup.of_append_right coalescing.tasks, ?_⟩
  · have single := coalescing.single key
    simp only [inProgress, List.length_append, List.length_map] at single
    omega
  · rintro before action accepting accepted key call ⟨after, rfl⟩ accepts stepped _ waits reply replied
    have ranAccepted : run step (init : System Key Value) (before ++ [action]) = some accepted :=
      run_concat_eq_some.2 ⟨accepting, accepts, stepped⟩
    have start := run_coalescing ranAccepted
    rw [run_append, ranAccepted, Option.bind_some] at ran
    have routed : system.Coalescing ∧ system.Routed key call (accepted.inProgress key) :=
      run_invariant (P := fun system => system.Coalescing ∧ system.Routed key call (accepted.inProgress key))
        ⟨start, .inl ⟨waits, List.Subset.refl _⟩⟩
        (fun _ _ _ held stepped => ⟨held.1.step (step_cases stepped), held.2.step held.1 (step_cases stepped)⟩) ran
    rcases routed.2 with ⟨still, _⟩ | ⟨task, member, result, answered, returned⟩
    · exact absurd still (coalescing.not_waiting replied)
    · have single : accepted.inProgress key = [task] := by
        obtain ⟨only, same⟩ := List.length_eq_one_iff.1
          (le_antisymm (start.single key) (List.length_pos_of_mem member))
        rw [same, List.mem_singleton] at member
        rw [same, member]
      have once := List.inj_on_of_nodup_map (List.Nodup.of_append_right coalescing.places) replied answered rfl
      exact ⟨task, result, single, returned, (Prod.mk.inj once).2⟩

/-- Two calls for one key are answered by one task. -/
theorem two_callers_one_task : ∃ system : System Nat Nat,
    run step init [.call 5, .receive none, .call 5, .receive none, .finish 0 true (.returned 7), .receive none]
        = some system
      ∧ system.replies = [(1, .result (.value 7)), (0, .result (.value 7))]
      ∧ system.results = [(0, .value 7)] ∧ (system.replies.map Prod.fst).Nodup := by
  refine ⟨_, rfl, by decide, by decide, ?_⟩
  exact (coalesced_answers_routed
    [.call 5, .receive none, .call 5, .receive none, .finish 0 true (.returned 7), .receive none] _ rfl).2.2.1

/-- **No call is lost.** In every state of every interleaving, each call made so far is in one place: in the mailbox,
among the callers of a key, or answered. -/
theorem calls_accounted (actions : List (Action Value Key)) :
    Throughout step (init : System Key Value) (fun system => system.places.Perm (List.range system.nextCall))
      actions := by
  intro _ system _ ran
  refine run_invariant (P := fun system : System Key Value => system.places.Perm (List.range system.nextCall))
    (by rfl) (fun _ _ _ accounted stepped => ?_) ran
  obtain ⟨numbered, moved⟩ | ⟨numbered, moved⟩ := (step_cases stepped).moved
  · exact numbered ▸ moved.trans accounted
  · rw [numbered, List.range_succ]
    exact (moved.trans (accounted.cons _)).trans (List.perm_append_singleton _ _).symm

end System

end Liqi.Runtime.ReadCoordinator
