import Mathlib.Data.List.Basic
import Mathlib.Order.Basic

/-!
# Computations that may fail

How a computation in `Except` that returned is taken apart, step by step and loop by loop.
-/

namespace Liqi

variable {ε α β : Type}

theorem bind_ok {x : Except ε α} {f : α → Except ε β} {b : β} (h : (x >>= f) = .ok b) :
    ∃ a, x = .ok a ∧ f a = .ok b := by
  cases x with
  | error e => cases h
  | ok a => exact ⟨a, rfl, h⟩

theorem mapError_ok {ε' : Type} {x : Except ε α} {f : ε → ε'} {a : α} (h : x.mapError f = .ok a) : x = .ok a := by
  cases x with
  | error e => cases h
  | ok a => cases h; rfl

/-- Results that are collected stand in the order of the list, and none of them is an error. -/
theorem mapM_ok {f : α → Except ε β} {xs : List α} {ys : List β} (collected : xs.mapM f = .ok ys) :
    List.Forall₂ (fun x y => f x = .ok y) xs ys := by
  induction xs generalizing ys with
  | nil =>
    cases collected
    exact .nil
  | cons x xs ih =>
    rw [List.mapM_cons] at collected
    obtain ⟨y, first, collected⟩ := bind_ok collected
    obtain ⟨zs, rest, collected⟩ := bind_ok collected
    cases collected
    exact .cons first (ih rest)

theorem mem_of_mapM {f : α → Except ε β} {xs : List α} {ys : List β} (collected : xs.mapM f = .ok ys) {y : β} :
    y ∈ ys ↔ ∃ x ∈ xs, f x = .ok y := by
  have each := mapM_ok collected
  clear collected
  induction each with
  | nil => simp
  | cons first _ ih => simp [ih, first, eq_comm]

/-- The error of a collection is the error of one of the results. -/
theorem mapM_error {f : α → Except ε β} {xs : List α} {e : ε} (failed : xs.mapM f = .error e) :
    ∃ x ∈ xs, f x = .error e := by
  induction xs with
  | nil => cases failed
  | cons x xs ih =>
    rw [List.mapM_cons] at failed
    rcases first : f x with e' | y
    · rw [first] at failed
      cases failed
      exact ⟨x, List.mem_cons_self, first⟩
    rcases rest : xs.mapM f with e' | zs
    · rw [first, rest] at failed
      cases failed
      obtain ⟨other, member, error⟩ := ih rest
      exact ⟨other, List.mem_cons_of_mem _ member, error⟩
    · rw [first, rest] at failed
      cases failed

section Loops

variable {ε α σ : Type} {f : σ → α → Except ε σ} {xs : List α} {s s' : σ}

/-- A loop that ends in a good state was in good states all along, if no step mends a bad one. -/
theorem foldlM_backward {P : σ → Prop} {Q : α → Prop}
    (step : ∀ s x s', x ∈ xs → f s x = .ok s' → P s' → P s ∧ Q x) (ran : xs.foldlM f s = .ok s') (good : P s') :
    P s ∧ ∀ x ∈ xs, Q x := by
  induction xs generalizing s with
  | nil =>
    cases ran
    exact ⟨good, nofun⟩
  | cons x xs ih =>
    rw [List.foldlM_cons] at ran
    obtain ⟨s₁, first, rest⟩ := bind_ok ran
    obtain ⟨good₁, facts⟩ := ih (fun s y s' member => step s y s' (List.mem_cons_of_mem _ member)) rest
    obtain ⟨start, fact⟩ := step s x s₁ List.mem_cons_self first good₁
    refine ⟨start, fun y member => ?_⟩
    rcases List.mem_cons.1 member with rfl | later
    · exact fact
    · exact facts y later

/-- A loop whose steps go up goes up, and each of its steps lies between its ends. -/
theorem foldlM_mono [Preorder σ] (step : ∀ s x s', x ∈ xs → f s x = .ok s' → s ≤ s') (ran : xs.foldlM f s = .ok s') :
    s ≤ s' ∧ ∀ x ∈ xs, ∃ s₁ s₂, s ≤ s₁ ∧ f s₁ x = .ok s₂ ∧ s₂ ≤ s' := by
  induction xs generalizing s with
  | nil =>
    cases ran
    exact ⟨le_rfl, nofun⟩
  | cons x xs ih =>
    rw [List.foldlM_cons] at ran
    obtain ⟨s₁, first, rest⟩ := bind_ok ran
    have up : s ≤ s₁ := step s x s₁ List.mem_cons_self first
    obtain ⟨grows, steps⟩ := ih (fun s y s' member => step s y s' (List.mem_cons_of_mem _ member)) rest
    refine ⟨up.trans grows, fun y member => ?_⟩
    rcases List.mem_cons.1 member with rfl | later
    · exact ⟨s, s₁, le_rfl, first, grows⟩
    · obtain ⟨s₂, s₃, above, ran', below⟩ := steps y later
      exact ⟨s₂, s₃, up.trans above, ran', below⟩

end Loops

end Liqi
