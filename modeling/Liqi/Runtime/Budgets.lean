import Mathlib.Algebra.Group.Nat.Defs
import Mathlib.Algebra.Order.Group.Unbundled.Int
import Liqi.Runtime.Config
import Liqi.Trace

/-!
# Concurrency budgets

`Budgets` keeps one `:atomics` word for each budget. `with_permit` reads it, tries to put the next value in its place
with `compare_exchange`, starts over if another call was faster, runs the function and takes one off again in its
`after` block. Calls of any number of processes interleave between these operations. The word always counts the calls
that hold a permit, so no interleaving admits more functions than the limit, and a call is refused only where all
permits are taken.
-/

namespace Liqi.Runtime

/-- `@budget_names`. -/
inductive BudgetName where
  | endpoint
  | database
  | reconnect
  | native
  | task
  deriving DecidableEq

/-- The limits that `init` takes from the configuration. Only the first two are checked there. -/
structure Limits where
  endpoint : Int
  database : Int
  reconnect : Int
  native : Int
  task : Int

def Limits.get (limits : Limits) : BudgetName → Int
  | .endpoint => limits.endpoint
  | .database => limits.database
  | .reconnect => limits.reconnect
  | .native => limits.native
  | .task => limits.task

/-- The permits that a limit stands for: none, if it is negative. -/
def Limits.permits (limits : Limits) (name : BudgetName) : Int := max 0 (limits.get name)

/-- How a function that holds a permit ends. -/
inductive Ended where
  | returned
  | raised
  deriving DecidableEq

/-- What a `with_permit` call does next, or how it ended. -/
inductive Stage where
  | reading
  | exchanging (current : Int)
  | running
  | releasing (ended : Ended)
  | finished (ended : Ended)
  | refused
  | badarg
  deriving DecidableEq

/-- A call is between its acquire and its release. -/
def Stage.holds : Stage → Bool
  | .running => true
  | .releasing _ => true
  | _ => false

/-- `:atomics.sub_get` on a signed word wraps around. -/
def subGet (counter : Int) : Int := (counter - 1).bmod (2 ^ 64)

/-- The next operation of a call on the word of its budget. -/
def Stage.turn (limit counter : Int) : Stage → Option (Stage × Int)
  | .reading => some (if limit ≤ counter then .refused else .exchanging counter, counter)
  | .exchanging current =>
    -- `compare_exchange` raises if the value it is to store is not a signed word.
    if 2 ^ 63 ≤ current + 1 then some (.badarg, counter)
    else if counter = current then some (.running, current + 1)
    else some (.reading, counter)
  | .releasing ended => some (.finished ended, subGet counter)
  | _ => none

structure PermitCall where
  name : BudgetName
  stage : Stage
  deriving DecidableEq

structure Budgets where
  limits : Limits
  counters : BudgetName → Int
  calls : List PermitCall

inductive BudgetEvent where
  /-- A process calls `with_permit`. -/
  | call (name : BudgetName)
  /-- A call takes its next operation. -/
  | turn (index : Nat)
  /-- The function of a call ends. -/
  | finish (index : Nat) (ended : Ended)

namespace Budgets

def init (limits : Limits) : Budgets where
  limits := limits
  counters := fun _ => 0
  calls := []

/-- `in_use`. -/
def inUse (budgets : Budgets) (name : BudgetName) : Int := budgets.counters name

def setCall (budgets : Budgets) (index : Nat) (call : PermitCall) : Budgets :=
  { budgets with calls := budgets.calls.set index call }

def setCounter (budgets : Budgets) (name : BudgetName) (counter : Int) : Budgets :=
  { budgets with counters := fun other => if other = name then counter else budgets.counters other }

def step : BudgetEvent → Budgets → Option Budgets
  | .call name, budgets => some { budgets with calls := budgets.calls ++ [⟨name, .reading⟩] }
  | .turn index, budgets => do
    let call ← budgets.calls[index]?
    let (stage, counter) ← call.stage.turn (budgets.limits.get call.name) (budgets.counters call.name)
    some ((budgets.setCall index ⟨call.name, stage⟩).setCounter call.name counter)
  | .finish index ended, budgets => do
    let call ← budgets.calls[index]?
    if call.stage = .running then some (budgets.setCall index ⟨call.name, .releasing ended⟩) else none

/-- The calls on a budget that are at such a stage. -/
def count (budgets : Budgets) (name : BudgetName) (stands : Stage → Bool) : Nat :=
  budgets.calls.countP fun call => call.name = name && stands call.stage

/-- The callers between a successful acquire and its release. -/
def held (budgets : Budgets) (name : BudgetName) : Nat := budgets.count name Stage.holds

/-- The functions that run. -/
def running (budgets : Budgets) (name : BudgetName) : Nat := budgets.count name fun stage => stage = .running

/-! ## Steps -/

/-- What a call on a budget with this limit and this word can do. -/
inductive Move (limit counter : Int) : Stage → Stage → Int → Prop where
  | refuse (full : limit ≤ counter) : Move limit counter .reading .refused counter
  | read (free : counter < limit) : Move limit counter .reading (.exchanging counter) counter
  | overflow (current : Int) : Move limit counter (.exchanging current) .badarg counter
  | acquire (fits : counter + 1 < 2 ^ 63) : Move limit counter (.exchanging counter) .running (counter + 1)
  | retry (current : Int) : Move limit counter (.exchanging current) .reading counter
  | finish (ended : Ended) : Move limit counter .running (.releasing ended) counter
  | release (ended : Ended) : Move limit counter (.releasing ended) (.finished ended) (subGet counter)

variable {counter : Int} {stage stage' : Stage}

theorem move_of_turn {limit counter' : Int} (turned : stage.turn limit counter = some (stage', counter')) :
    Move limit counter stage stage' counter' := by
  cases stage with
  | reading =>
    simp only [Stage.turn, Option.some.injEq, Prod.mk.injEq] at turned
    obtain ⟨rfl, rfl⟩ := turned
    split
    next full => exact .refuse full
    next free => exact .read (not_le.1 free)
  | exchanging current =>
    simp only [Stage.turn] at turned
    split at turned
    next => cases turned; exact .overflow current
    next fits =>
      split at turned
      next same => cases turned; subst same; exact .acquire (not_le.1 fits)
      next => cases turned; exact .retry current
  | releasing ended => cases turned; exact .release ended
  | running | finished | refused | badarg => cases turned

/-- The state after a call moved. -/
def moved (budgets : Budgets) (index : Nat) (name : BudgetName) (stage : Stage) (counter : Int) : Budgets :=
  (budgets.setCall index ⟨name, stage⟩).setCounter name counter

theorem setCounter_self (budgets : Budgets) (name : BudgetName) :
    budgets.setCounter name (budgets.counters name) = budgets := by
  have same : (fun other => if other = name then budgets.counters name else budgets.counters other) =
      budgets.counters := by
    funext other
    split
    next same => rw [same]
    next => rfl
  rw [setCounter, same]

variable {event : BudgetEvent} {before after : Budgets}

/-- A step is the beginning of a call, or a move of one call. -/
theorem step_cases (stepped : step event before = some after) :
    (∃ name, after = { before with calls := before.calls ++ [⟨name, .reading⟩] }) ∨
      ∃ index name stage stage' counter, before.calls[index]? = some ⟨name, stage⟩ ∧
        Move (before.limits.get name) (before.counters name) stage stage' counter ∧
        after = before.moved index name stage' counter := by
  cases event with
  | call name =>
    cases stepped
    exact .inl ⟨name, rfl⟩
  | turn index =>
    obtain ⟨⟨name, stage⟩, found, stepped⟩ := Option.bind_eq_some_iff.1 stepped
    obtain ⟨⟨stage', counter⟩, turned, stepped⟩ := Option.bind_eq_some_iff.1 stepped
    cases stepped
    exact .inr ⟨index, name, stage, stage', counter, found, move_of_turn turned, rfl⟩
  | finish index ended =>
    obtain ⟨⟨name, stage⟩, found, stepped⟩ := Option.bind_eq_some_iff.1 stepped
    split at stepped
    next running =>
      cases stepped
      cases running
      exact .inr ⟨index, name, _, _, _, found, .finish ended, (setCounter_self _ name).symm⟩
    next => cases stepped

section Moved

variable {budgets : Budgets} {index : Nat} {name : BudgetName} {stage : Stage}

theorem count_moved (found : budgets.calls[index]? = some ⟨name, stage⟩) (stage' : Stage) (counter : Int)
    (stands : Stage → Bool) (other : BudgetName) :
    (budgets.moved index name stage' counter).count other stands + (if name = other ∧ stands stage then 1 else 0) =
      budgets.count other stands + if name = other ∧ stands stage' then 1 else 0 := by
  obtain ⟨inside, found⟩ := List.getElem?_eq_some_iff.1 found
  have counted : (if name = other ∧ stands stage then 1 else 0) ≤ budgets.count other stands := by
    split
    next both =>
      refine List.countP_pos_iff.2 ⟨_, List.getElem_mem inside, ?_⟩
      simp [found, both.1, both.2]
    next => exact Nat.zero_le _
  simp only [moved, setCounter, setCall, count, List.countP_set inside, found, Bool.and_eq_true, decide_eq_true_eq]
    at counted ⊢
  omega

theorem held_moved (found : budgets.calls[index]? = some ⟨name, stage⟩) (stage' : Stage) (counter : Int) :
    (budgets.moved index name stage' counter).held name + (if stage.holds then 1 else 0) =
      budgets.held name + if stage'.holds then 1 else 0 := by
  simpa [held] using count_moved found stage' counter Stage.holds name

theorem held_moved_other (found : budgets.calls[index]? = some ⟨name, stage⟩) (stage' : Stage) (counter : Int)
    {other : BudgetName} (differs : other ≠ name) :
    (budgets.moved index name stage' counter).held other = budgets.held other := by
  simpa [held, differs.symm] using count_moved found stage' counter Stage.holds other

theorem counters_moved (stage' : Stage) (counter : Int) (other : BudgetName) :
    (budgets.moved index name stage' counter).counters other =
      if other = name then counter else budgets.counters other := rfl

theorem mem_moved {stage' : Stage} {counter : Int} {call : PermitCall}
    (mem : call ∈ (budgets.moved index name stage' counter).calls) : call ∈ budgets.calls ∨ call = ⟨name, stage'⟩ :=
  List.mem_or_eq_of_mem_set mem

end Moved

/-! ## The invariant -/

/-- The words count the permits that are held, within the limits and within a signed word. A call that is about to
exchange has read a value below its limit. -/
structure Counted (budgets : Budgets) : Prop where
  counts : ∀ name, budgets.counters name = budgets.held name
  within : ∀ name, budgets.counters name ≤ budgets.limits.permits name
  word : ∀ name, budgets.counters name < 2 ^ 63
  below : ∀ name current, ⟨name, .exchanging current⟩ ∈ budgets.calls → current < budgets.limits.get name

theorem counted_init (limits : Limits) : Counted (init limits) where
  counts _ := rfl
  within _ := le_max_left _ _
  word _ := (by decide : (0 : Int) < 2 ^ 63)
  below _ _ mem := by cases mem

theorem subGet_of_pos (positive : 0 < counter) (word : counter < 2 ^ 63) :
    subGet counter = counter - 1 := by
  exact Int.bmod_eq_of_le (by omega) (by omega)

theorem limits_step (stepped : step event before = some after) :
    after.limits = before.limits := by
  obtain ⟨name, rfl⟩ | ⟨index, name, stage, stage', counter, -, -, rfl⟩ := step_cases stepped
  · rfl
  · rfl

variable {budgets : Budgets}

/-- A call that begins reads next, and holds nothing. -/
theorem Counted.call (counted : Counted budgets) (name : BudgetName) :
    Counted { budgets with calls := budgets.calls ++ [⟨name, .reading⟩] } where
  counts other := by
    rw [counted.counts other]
    simp [held, count, Stage.holds]
  within := counted.within
  word := counted.word
  below other current mem := by
    rcases List.mem_append.1 mem with old | new
    · exact counted.below other current old
    · cases List.mem_singleton.1 new

variable {index : Nat} {name : BudgetName}

/-- What a move does to its word is what it does to the permits held. -/
theorem Move.counts (move : Move (budgets.limits.get name) (budgets.counters name) stage stage' counter)
    (counted : Counted budgets) (found : budgets.calls[index]? = some ⟨name, stage⟩) :
    counter = (budgets.moved index name stage' counter).held name := by
  have held := held_moved found stage' counter
  have counts := counted.counts name
  have word := counted.word name
  cases move with
  | release ended =>
    rw [subGet_of_pos] at held ⊢
    all_goals simp [Stage.holds] at held
    all_goals omega
  | _ => simp [Stage.holds] at held; omega

/-- Only an acquire makes a word greater, and it exchanges a value below the limit. -/
theorem Move.bounds (move : Move (budgets.limits.get name) (budgets.counters name) stage stage' counter)
    (counted : Counted budgets) (found : budgets.calls[index]? = some ⟨name, stage⟩) :
    counter ≤ budgets.limits.permits name ∧ counter < 2 ^ 63 := by
  have within := counted.within name
  have word := counted.word name
  cases move with
  | acquire fits =>
    have below := counted.below name _ (List.mem_of_getElem? found)
    exact ⟨le_max_of_le_right below, fits⟩
  | release ended =>
    have held := held_moved found (.finished ended) 0
    have counts := counted.counts name
    simp only [Stage.holds, if_true, Bool.false_eq_true, if_false] at held
    rw [subGet_of_pos (by omega) word]
    exact ⟨by omega, by omega⟩
  | _ => exact ⟨within, word⟩

theorem Counted.moved (counted : Counted budgets) (found : budgets.calls[index]? = some ⟨name, stage⟩)
    (move : Move (budgets.limits.get name) (budgets.counters name) stage stage' counter) :
    Counted (budgets.moved index name stage' counter) where
  counts other := by
    rw [counters_moved]
    split
    next same => rw [same]; exact move.counts counted found
    next differs => rw [held_moved_other found _ _ differs]; exact counted.counts other
  within other := by
    rw [counters_moved]
    split
    next same => rw [same]; exact (move.bounds counted found).1
    next => exact counted.within other
  word other := by
    rw [counters_moved]
    split
    next => exact (move.bounds counted found).2
    next => exact counted.word other
  below other current mem := by
    rcases mem_moved mem with old | new
    · exact counted.below other current old
    · cases new
      cases move with
      | read free => exact free

theorem Counted.step (counted : Counted before) (stepped : step event before = some after) : Counted after := by
  obtain ⟨name, rfl⟩ | ⟨index, name, stage, stage', counter, found, move, rfl⟩ := step_cases stepped
  · exact counted.call name
  · exact counted.moved found move

theorem counted_run {limits : Limits} {events : List BudgetEvent}
    (ran : Trace.run step events (init limits) = some budgets) : Counted budgets ∧ budgets.limits = limits := by
  refine Trace.run_induction (P := fun budgets => Counted budgets ∧ budgets.limits = limits) ran
    ⟨counted_init limits, rfl⟩ fun event before after kept stepped => ?_
  exact ⟨kept.1.step stepped, (limits_step stepped).trans kept.2⟩

theorem running_le_held (budgets : Budgets) (name : BudgetName) : budgets.running name ≤ budgets.held name := by
  refine List.countP_mono_left fun call _ stands => ?_
  simp only [Bool.and_eq_true, decide_eq_true_eq] at stands ⊢
  exact ⟨stands.1, by rw [stands.2]; rfl⟩

/-- A call is refused by its own read, where the word is at the limit. -/
theorem full_of_refused (stepped : step event before = some after)
    (refused : after.calls[index]? = some ⟨name, .refused⟩) (waiting : before.calls[index]? ≠ some ⟨name, .refused⟩) :
    before.calls[index]? = some ⟨name, .reading⟩ ∧ before.limits.get name ≤ before.counters name := by
  obtain ⟨other, rfl⟩ | ⟨turned, other, stage, stage', counter, found, move, rfl⟩ := step_cases stepped
  · rw [List.getElem?_append] at refused
    split at refused
    next => exact absurd refused waiting
    next => cases List.mem_singleton.1 (List.mem_of_getElem? refused)
  · have set : (before.calls.set turned ⟨other, stage'⟩)[index]? = some ⟨name, .refused⟩ := refused
    rw [List.getElem?_set] at set
    split at set
    next same =>
      rw [if_pos (List.getElem?_eq_some_iff.1 found).1] at set
      cases set
      cases move with
      | refuse full => exact ⟨same ▸ found, full⟩
    next => exact absurd set waiting

/-- **Budgets.** In every interleaving of `with_permit` calls the word of a budget counts the callers that hold a
permit and stays within the limit, so no more functions run. A call is refused only where its read finds all permits
held. -/
theorem permits_within_limit {limits : Limits} {events : List BudgetEvent} {budgets : Budgets}
    (ran : Trace.run step events (init limits) = some budgets) (name : BudgetName) :
    budgets.inUse name = budgets.held name ∧ 0 ≤ budgets.inUse name ∧ budgets.inUse name ≤ limits.permits name ∧
      budgets.running name ≤ limits.permits name ∧
      ∀ (event : BudgetEvent) (after : Budgets) (index : Nat), step event budgets = some after →
        after.calls[index]? = some ⟨name, .refused⟩ → budgets.calls[index]? ≠ some ⟨name, .refused⟩ →
        budgets.calls[index]? = some ⟨name, .reading⟩ ∧ budgets.held name = limits.permits name := by
  obtain ⟨counted, rfl⟩ := counted_run ran
  have counts := counted.counts name
  have within := counted.within name
  have few := budgets.running_le_held name
  refine ⟨counts, ?_, within, ?_, fun event after index stepped refused waiting => ?_⟩
  · rw [inUse, counts]
    exact Int.natCast_nonneg _
  · omega
  · obtain ⟨reading, full⟩ := full_of_refused stepped refused waiting
    refine ⟨reading, ?_⟩
    unfold Limits.permits at within ⊢
    omega

/-- Two calls of the function race for one permit: the second exchanges too late, reads again and is refused. -/
def sampleRace : List BudgetEvent :=
  [.call .native, .call .native, .turn 0, .turn 1, .turn 0, .turn 1]

def sampleLimits : Limits where
  endpoint := 256
  database := 24
  reconnect := 64
  native := 1
  task := 32

theorem sample_race_within_limit :
    ∃ budgets, Trace.run step sampleRace (init sampleLimits) = some budgets ∧ budgets.inUse .native = 1 ∧
      budgets.inUse .native ≤ sampleLimits.permits .native := by
  obtain ⟨budgets, ran⟩ := Option.isSome_iff_exists.1
    (by decide +kernel : (Trace.run step sampleRace (init sampleLimits)).isSome = true)
  have one : (Trace.run step sampleRace (init sampleLimits)).map (fun budgets => budgets.inUse .native) = some 1 := by
    decide +kernel
  rw [ran] at one
  exact ⟨budgets, ran, Option.some.inj one, (permits_within_limit ran .native).2.2.1⟩

end Budgets

end Liqi.Runtime
