import Mathlib.Algebra.Order.BigOperators.Group.Finset
import Mathlib.Order.Filter.AtTopBot.Basic

/-!
# Waiting for a turn

Somebody waits while turns come again and again. Everybody else has a number of turns left, which never grows and is
zero for all but finitely many. A turn serves the one who waits, or uses up a turn of somebody else; so the one who
waits is served.
-/

namespace Beam

open Filter

section Potential

variable {turn served : Nat → Prop} {start : Nat}

theorem potential_le (potential : Nat → Nat) (keeps : ∀ n, start ≤ n → potential (n + 1) ≤ potential n) {n : Nat}
    (late : start ≤ n) :
    potential n ≤ potential start := by
  induction n, late using Nat.le_induction with
  | base => exact le_rfl
  | succ n late below => exact (keeps n late).trans below

/-- A potential that never grows cannot fall for ever. -/
theorem served_of_potential (potential : Nat → Nat) (turns : ∃ᶠ n in atTop, turn n)
    (keeps : ∀ n, start ≤ n → potential (n + 1) ≤ potential n)
    (lowers : ∀ n, start ≤ n → turn n → served (n + 1) ∨ potential (n + 1) < potential n) : ∃ n, start ≤ n ∧ served n := by
  -- on the potential at the time from which it is watched
  induction bound : potential start using Nat.strong_induction_on generalizing start with
  | _ bound ih =>
    obtain ⟨n, late, turn⟩ := frequently_atTop.1 turns start
    have below := potential_le potential keeps late
    rcases lowers n late turn with served | lower
    · exact ⟨n + 1, by omega, served⟩
    · obtain ⟨m, later, served⟩ := ih (potential (n + 1)) (by omega) (fun k after => keeps k (by omega))
        (fun k after => lowers k (by omega)) rfl
      exact ⟨m, by omega, served⟩

end Potential

/-- **Turns.** The others' turns are used up one by one, so the turn of the one who waits comes. -/
theorem served_of_counts {κ : Type} {turn served : Nat → Prop} {start : Nat} (counts : Nat → κ → Nat) (others : Finset κ)
    (nobody_else : ∀ k, k ∉ others → counts start k = 0) (turns : ∃ᶠ n in atTop, turn n)
    (keeps : ∀ n, start ≤ n → ∀ k, counts (n + 1) k ≤ counts n k)
    (uses : ∀ n, start ≤ n → turn n → served (n + 1) ∨ ∃ k, counts (n + 1) k < counts n k) :
    ∃ n, start ≤ n ∧ served n := by
  refine served_of_potential (fun n => ∑ k ∈ others, counts n k) turns ?_ ?_
  · exact fun n late => Finset.sum_le_sum fun k _ => keeps n late k
  · intro n late turn
    refine (uses n late turn).imp_right fun ⟨k, fewer⟩ => ?_
    have member : k ∈ others := by
      by_contra outside
      have none : counts n k ≤ counts start k :=
        potential_le (fun m => counts m k) (fun m after => keeps m after k) late
      rw [nobody_else k outside] at none
      omega
    exact Finset.sum_lt_sum (fun k _ => keeps n late k) ⟨k, member, fewer⟩

end Beam
