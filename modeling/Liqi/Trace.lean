import Mathlib.Data.List.Basic

/-!
# Runs of a partial machine

A machine takes an event if it is enabled. A run is the list of its events; `Later` and `Throughout` are about the
states and the steps of a run, and `run_induction` is the rule for invariants.
-/

namespace Trace

variable {State Event : Type} {step : Event → State → Option State}

/-- The state after the events, if each of them was enabled. -/
def run (step : Event → State → Option State) : List Event → State → Option State
  | [], state => some state
  | event :: events, state => (step event state).bind (run step events)

/-- A state that a run can reach from another. -/
def Later (step : Event → State → Option State) (state later : State) : Prop :=
  ∃ events, run step events state = some later

/-- Every step of a run is as `P` says. -/
def Throughout (step : Event → State → Option State) (P : State → Event → State → Prop) (state : State)
    (events : List Event) : Prop :=
  ∀ before event rest between after, events = before ++ event :: rest → run step before state = some between →
    step event between = some after → P between event after

variable {events : List Event} {state later : State}

theorem run_cons {event : Event} (ran : run step (event :: events) state = some later) :
    ∃ next, step event state = some next ∧ run step events next = some later :=
  Option.bind_eq_some_iff.1 ran

/-- **Invariants.** What holds at the start and is kept by every step holds after every run. -/
theorem run_induction {P : State → Prop} (ran : run step events state = some later) (start : P state)
    (kept : ∀ event before after, P before → step event before = some after → P after) : P later := by
  induction events generalizing state with
  | nil =>
    cases ran
    exact start
  | cons event events ih =>
    obtain ⟨next, stepped, ran⟩ := run_cons ran
    exact ih ran (kept event state next start stepped)

/-- Every event of a run was taken. -/
theorem run_taken (ran : run step events state = some later) :
    ∀ event ∈ events, ∃ before after, step event before = some after := by
  induction events generalizing state with
  | nil => nofun
  | cons event events ih =>
    obtain ⟨next, stepped, ran⟩ := run_cons ran
    exact List.forall_mem_cons.2 ⟨⟨state, next, stepped⟩, ih ran⟩

section Writers

variable {ι β : Type} (view : State → ι → β) (touches : Event → ι → Bool) (value : Event → ι → β)

theorem run_written {state later : State} {events : List Event} (ran : run step events state = some later)
    (writes : ∀ event before after, step event before = some after →
      ∀ i, view after i = if touches event i then value event i else view before i) (i : ι) :
    view later i = ((events.reverse.find? (touches · i)).map (value · i)).getD (view state i) := by
  induction events generalizing state with
  | nil =>
    cases ran
    rfl
  | cons event events ih =>
    obtain ⟨next, stepped, ran⟩ := run_cons ran
    rw [ih ran, writes event state next stepped, List.reverse_cons, List.find?_append]
    rcases events.reverse.find? (touches · i) with _ | last
    · rcases touched : touches event i <;> simp [touched]
    · rfl

/-- **The last writer.** Where each event writes the places that it touches, the last one to touch a place decides. -/
theorem run_last {state later : State} {events : List Event} (ran : run step events state = some later)
    (writes : ∀ event before after, step event before = some after →
      ∀ i, view after i = if touches event i then value event i else view before i) {event : Event} {i : ι}
    (listed : event ∈ events) (touched : touches event i = true) :
    ∃ last ∈ events, events.reverse.find? (touches · i) = some last ∧ view later i = value last i := by
  have found : (events.reverse.find? (touches · i)).isSome := by
    rw [List.find?_isSome]
    exact ⟨event, List.mem_reverse.2 listed, touched⟩
  obtain ⟨last, found⟩ := Option.isSome_iff_exists.1 found
  refine ⟨last, List.mem_reverse.1 (List.mem_of_find?_eq_some found), found, ?_⟩
  rw [run_written view touches value ran writes, found]
  rfl

end Writers

theorem Later.induction {P : State → Prop} (reached : Later step state later) (start : P state)
    (kept : ∀ event before after, P before → step event before = some after → P after) : P later := by
  obtain ⟨events, ran⟩ := reached
  exact run_induction ran start kept

section Throughout

variable {P Q : State → Event → State → Prop} {state next later : State} {event : Event} {events : List Event}

theorem Throughout.head (every : Throughout step P state (event :: events)) (stepped : step event state = some next) :
    P state event next :=
  every [] event events state next rfl rfl stepped

theorem Throughout.tail (every : Throughout step P state (event :: events)) (stepped : step event state = some next) :
    Throughout step P next events := by
  intro before other rest between after split ran
  refine every (event :: before) other rest between after (by rw [split, List.cons_append]) ?_
  simp [run, stepped, ran]

/-- **Invariants of a kind of run.** What every step keeps that is as `P` says holds after the runs of such steps. -/
theorem Throughout.induction {I : State → Prop} (every : Throughout step P state events)
    (ran : run step events state = some later) (start : I state)
    (kept : ∀ event before after, I before → step event before = some after → P before event after → I after) :
    I later := by
  induction events generalizing state with
  | nil =>
    cases ran
    exact start
  | cons event events ih =>
    obtain ⟨next, stepped, ran⟩ := run_cons ran
    exact ih (every.tail stepped) ran (kept event state next start stepped (every.head stepped))

/-- From one kind of step to another, where an invariant holds. -/
theorem Throughout.imp {I : State → Prop} (every : Throughout step P state events) (start : I state)
    (kept : ∀ event before after, I before → step event before = some after → I after)
    (implies : ∀ event before after, I before → step event before = some after → P before event after →
      Q before event after) : Throughout step Q state events :=
  fun before event rest between after split ran stepped =>
    implies event between after (run_induction ran start kept) stepped
      (every before event rest between after split ran stepped)

/-- The steps of a run, with the states before and after them. -/
def steps (step : Event → State → Option State) : List Event → State → List (State × Event × State)
  | [], _ => []
  | event :: events, state =>
    match step event state with
    | none => []
    | some next => (state, event, next) :: steps step events next

theorem throughout_iff_steps :
    Throughout step P state events ↔ ∀ taken ∈ steps step events state, P taken.1 taken.2.1 taken.2.2 := by
  induction events generalizing state with
  | nil => simp [Throughout, steps]
  | cons event events ih =>
    unfold steps
    split
    next stuck =>
      refine iff_of_true (fun before other rest between after split ran stepped => ?_) nofun
      cases before with
      | nil =>
        cases split
        cases ran
        rw [stuck] at stepped
        cases stepped
      | cons =>
        cases split
        simp [run, stuck] at ran
    next next stepped =>
      rw [List.forall_mem_cons, ← ih]
      refine ⟨fun every => ⟨every.head stepped, every.tail stepped⟩, fun both => ?_⟩
      intro before other rest between after split ran taken
      cases before with
      | nil =>
        cases split
        cases ran
        rw [stepped] at taken
        cases taken
        exact both.1
      | cons first before =>
        cases split
        simp only [run, stepped, Option.bind_some] at ran
        exact both.2 before other rest between after rfl ran taken

instance [∀ state event next, Decidable (P state event next)] : Decidable (Throughout step P state events) :=
  decidable_of_iff _ throughout_iff_steps.symm

end Throughout

end Trace
