import Mathlib.Data.Option.Basic

/-!
# SQL truth values

SQL conditions have three truth values. A comparison with `NULL` is unknown, `AND` and `OR` are
Kleene's connectives, and `IF` or `WHERE` accept a condition only when it is true. A guard written
with `<>` therefore lets `NULL` through where the same guard written with `=` does not.
-/

namespace Postgres

/-- A SQL truth value; `none` is unknown. -/
abbrev Truth := Option Bool

namespace Truth

def not : Truth → Truth
  | some b => some (!b)
  | none => none

def and : Truth → Truth → Truth
  | some false, _ => some false
  | some true, t => t
  | none, some false => some false
  | none, _ => none

def or : Truth → Truth → Truth
  | some true, _ => some true
  | some false, t => t
  | none, some true => some true
  | none, _ => none

/-- `IF` and `WHERE`: unknown is not accepted. -/
def holds (t : Truth) : Bool := t == some true

@[simp] theorem holds_some (b : Bool) : holds (some b) = b := by cases b <;> rfl

@[simp] theorem holds_none : holds none = false := rfl

@[simp] theorem holds_or (s t : Truth) : (s.or t).holds = (s.holds || t.holds) := by
  rcases s with _ | _ | _ <;> rcases t with _ | _ | _ <;> rfl

@[simp] theorem holds_and (s t : Truth) : (s.and t).holds = (s.holds && t.holds) := by
  rcases s with _ | _ | _ <;> rcases t with _ | _ | _ <;> rfl

end Truth

variable {α : Type} [DecidableEq α]

/-- `x = y` on nullable operands. -/
def sqlEq : Option α → Option α → Truth
  | some x, some y => some (decide (x = y))
  | _, _ => none

/-- `x <> y` on nullable operands. -/
def sqlNe (x y : Option α) : Truth := (sqlEq x y).not

/-- `x IS NOT DISTINCT FROM y`. -/
def isNotDistinctFrom (x y : Option α) : Bool := decide (x = y)

theorem sqlEq_holds {x y : Option α} : (sqlEq x y).holds = true ↔ ∃ a, x = some a ∧ y = some a := by
  cases x <;> cases y <;> simp [sqlEq, eq_comm]

theorem sqlNe_holds {x y : Option α} :
    (sqlNe x y).holds = true ↔ ∃ a b, x = some a ∧ y = some b ∧ a ≠ b := by
  cases x <;> cases y <;> simp [sqlNe, sqlEq, Truth.not]

/-- Where `<>` is not true against a present value, the other operand is that value or `NULL`. -/
theorem not_sqlNe_some {x : Option α} {a : α} :
    (sqlNe (some a) x).holds = false ↔ x = none ∨ x = some a := by
  cases x with
  | none => simp [sqlNe, sqlEq, Truth.not]
  | some b => simp [sqlNe, sqlEq, Truth.not, eq_comm (a := a)]

end Postgres
