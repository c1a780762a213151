import Mathlib.Data.List.Basic

/-!
# Two machines side by side

A machine answers calls one after another. Two machines that stay related while the calls fit, and that answer a call
which does not fit differently, give the same answers exactly when every call fits the state it is made in.
-/

namespace Lockstep

variable {Call Answer S T : Type}

/-- The answers to the calls, in their order. -/
def answers (step : S → Call → Answer × S) : S → List Call → List Answer
  | _, [] => []
  | state, call :: calls => (step state call).1 :: answers step (step state call).2 calls

/-- The state after the calls. -/
def after (step : S → Call → Answer × S) (state : S) (calls : List Call) : S :=
  calls.foldl (fun state call => (step state call).2) state

/-- Every call fits the state in which it is made. -/
def Throughout (step : S → Call → Answer × S) (Fits : S → Call → Prop) (state : S) (calls : List Call) : Prop :=
  ∀ before call rest, calls = before ++ call :: rest → Fits (after step state before) call

section

variable {step : S → Call → Answer × S} {Fits : S → Call → Prop} {state : S} {call : Call} {calls : List Call}

theorem throughout_nil : Throughout step Fits state [] := by
  intro before call rest split
  simp at split

theorem throughout_cons : Throughout step Fits state (call :: calls) ↔
    Fits state call ∧ Throughout step Fits (step state call).2 calls := by
  constructor
  · intro fits
    refine ⟨fits [] call calls rfl, fun before later rest split => ?_⟩
    exact fits (call :: before) later rest (by rw [split]; rfl)
  · rintro ⟨first, others⟩ before later rest split
    cases before with
    | nil =>
      cases split
      exact first
    | cons earlier before =>
      cases split
      exact others before later rest rfl

/-- Two conditions on a call that come to the same where an invariant holds, which the calls that meet them keep. -/
theorem throughout_congr {Given Good : S → Call → Prop} {I : S → Prop}
    (good : ∀ {state call}, I state → Given state call → Fits state call → Good state call ∧ I (step state call).2)
    (fits : ∀ {state call}, I state → Given state call → Good state call → Fits state call) (start : I state)
    (given : Throughout step Given state calls) : Throughout step Good state calls ↔ Throughout step Fits state calls := by
  induction calls generalizing state with
  | nil => exact iff_of_true throughout_nil throughout_nil
  | cons call calls ih =>
    obtain ⟨first, others⟩ := throughout_cons.1 given
    rw [throughout_cons, throughout_cons]
    constructor
    · rintro ⟨here, later⟩
      have fit := fits start first here
      exact ⟨fit, (ih (good start first fit).2 others).1 later⟩
    · rintro ⟨here, later⟩
      obtain ⟨holds, next⟩ := good start first here
      exact ⟨holds, (ih next others).2 later⟩

end

/-- What relates two machines call by call. -/
structure Locked (step : S → Call → Answer × S) (step' : T → Call → Answer × T) (Related : S → T → Prop)
    (Given : Call → Prop) (Fits : S → Call → Prop) : Prop where
  agrees : ∀ {state state' call}, Related state state' → Given call → Fits state call →
    (step state call).1 = (step' state' call).1 ∧ Related (step state call).2 (step' state' call).2
  differs : ∀ {state state' call}, Related state state' → Given call → ¬ Fits state call →
    (step state call).1 ≠ (step' state' call).1

/-- **Lockstep.** From related states the answers are the same exactly when every call fits. -/
theorem Locked.answers_eq_iff {step : S → Call → Answer × S} {step' : T → Call → Answer × T} {Related : S → T → Prop}
    {Given : Call → Prop} {Fits : S → Call → Prop} (locked : Locked step step' Related Given Fits) {calls : List Call}
    (given : ∀ call ∈ calls, Given call) {state : S} {state' : T} (related : Related state state') :
    answers step state calls = answers step' state' calls ↔ Throughout step Fits state calls := by
  induction calls generalizing state state' with
  | nil => exact ⟨fun _ => throughout_nil, fun _ => rfl⟩
  | cons call calls ih =>
    have first := given call (by simp)
    have others := fun later listed => given later (List.mem_cons_of_mem call listed)
    simp only [answers, List.cons.injEq, throughout_cons]
    constructor
    · rintro ⟨same, rest⟩
      have fits : Fits state call := by
        by_contra misfit
        exact locked.differs related first misfit same
      exact ⟨fits, (ih others (locked.agrees related first fits).2).1 rest⟩
    · rintro ⟨fits, rest⟩
      obtain ⟨same, related⟩ := locked.agrees related first fits
      exact ⟨same, (ih others related).2 rest⟩

end Lockstep
