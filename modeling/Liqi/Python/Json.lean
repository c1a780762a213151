import Mathlib.Algebra.Group.Int.Defs
import Liqi.Beam.Json

/-!
# JSON documents in Python

What Python does with a document that `json.loads` has returned. A method or an operator that the value does not have
raises; an exception that nobody catches ends the script.
-/

namespace Python

open Beam (Json)

/-- How a script ends before its last line: with a status of its own, or with an exception. -/
inductive Exit where
  | status (code : Nat)
  | raised
  deriving DecidableEq

/-- An exception of a kind that some caller catches, with its text, or one of another kind. -/
inductive Failure where
  | caught (message : String)
  | raised
  deriving DecidableEq

abbrev Script := Except Exit

/-- A call outside of every `try`. -/
def uncaught {α : Type} : Except Failure α → Script α
  | .ok a => .ok a
  | .error _ => .error .raised

theorem uncaught_ok {α : Type} {x : Except Failure α} {a : α} (ran : uncaught x = .ok a) : x = .ok a := by
  cases x with
  | error e => cases ran
  | ok b =>
    cases ran
    rfl

/-- `value.get(key, default)`. -/
def get (value : Json) (key : String) (default : Json) : Script Json :=
  match value with
  | .map _ => .ok ((value.fetch key).getD default)
  | _ => .error .raised

variable {value found : Json} {key : String}

theorem get_null (got : get value key .null = .ok found) : found = value.get key := by
  unfold get at got
  split at got
  · cases got
    rfl
  · cases got

variable {default : Json}

theorem get_held {held : Json} (got : get value key default = .ok found) (stored : value.fetch key = some held) :
    held = found := by
  unfold get at got
  split at got
  · rw [stored] at got
    exact Except.ok.inj got
  · cases got

theorem get_cases (got : get value key default = .ok found) :
    value.fetch key = some found ∨ found = default := by
  unfold get at got
  split at got
  next members =>
    rcases held : (Json.map members).fetch key with _ | stored
    · rw [held, Option.getD_none] at got
      exact .inr (Except.ok.inj got).symm
    · rw [held, Option.getD_some] at got
      rw [Except.ok.inj got]
      exact .inl rfl
  · cases got

/-- What is not the default was in the document. -/
theorem get_stored (got : get value key default = .ok found) (other : found ≠ default) :
    value.fetch key = some found :=
  (get_cases got).resolve_right other

/-- A text that is not the default was in the document. -/
theorem get_text {text : String} (got : get value key default = .ok (.string text)) (other : default ≠ .string text) :
    value.get key = .string text := by
  rw [Json.get, get_stored got other.symm, Option.getD_some]

/-- The default does not matter where the key is held. -/
theorem get_of_stored {default' : Json} (got : get value key default = .ok found)
    (stored : value.fetch key = some found) : get value key default' = .ok found := by
  unfold get at got ⊢
  split at got
  · rw [stored]
    rfl
  · cases got

/-- `value[key]`. -/
def index (value : Json) (key : String) : Script Json :=
  match value.fetch key with
  | some found => .ok found
  | none => .error .raised

/-- The values that `for item in value` goes through. -/
def iterate : Json → Script (List Json)
  | .list elements => .ok elements
  | .map members => .ok (members.map fun member => .string member.1)
  | .string text => .ok (text.toList.map fun c => .string (String.singleton c))
  | _ => .error .raised

/-- Whether the value can be a key of a dictionary or an element of a set. -/
def hashable : Json → Bool
  | .list _ => false
  | .map _ => false
  | _ => true

/-- `value == text`. -/
def isText (value : Json) (text : String) : Bool :=
  match value with
  | .string other => other == text
  | _ => false

theorem isText_iff {text : String} : isText value text = true ↔ value = .string text := by
  cases value <;> simp [isText]

/-- `value[:limit]`. -/
def slice (text : String) (limit : Nat) : String := String.ofList (text.toList.take limit)

/-- `isinstance(value, int)`, with the value; `True` and `False` are integers. -/
def int? : Json → Option Int
  | .bool value => some (if value then 1 else 0)
  | .integer value => some value
  | _ => none

/-- The value of a number as a mantissa and a decimal exponent. -/
def number? : Json → Option (Int × Int)
  | .float mantissa exponent => some (mantissa, exponent)
  | value => (int? value).map fun n => (n, 0)

def sameNumber (a b : Int × Int) : Bool :=
  let low := min a.2 b.2
  a.1 * 10 ^ (a.2 - low).toNat == b.1 * 10 ^ (b.2 - low).toNat

mutual

/-- `a == b`. -/
def equal : Json → Json → Bool
  | .null, .null => true
  | .string a, .string b => a == b
  | .list xs, .list ys => equalList xs ys
  | .map xs, .map ys => xs.length == ys.length && equalMembers xs ys
  | a, b => match number? a, number? b with
    | some a, some b => sameNumber a b
    | _, _ => false
termination_by structural a => a

def equalList : List Json → List Json → Bool
  | [], [] => true
  | x :: xs, y :: ys => equal x y && equalList xs ys
  | _, _ => false
termination_by structural xs => xs

def equalMembers : List (String × Json) → List (String × Json) → Bool
  | [], _ => true
  | member :: members, others => equalMember member others && equalMembers members others
termination_by structural members => members

def equalMember : String × Json → List (String × Json) → Bool
  | (key, value), others => match others.find? fun other => other.1 = key with
    | some other => equal value other.2
    | none => false
termination_by structural member => member

end

/-- `dictionary[key] = value`, for a dictionary in the order of its first insertions. -/
def setItem {κ α : Type} (same : κ → κ → Bool) (dictionary : List (κ × α)) (key : κ) (value : α) : List (κ × α) :=
  if dictionary.any fun entry => same entry.1 key then
    dictionary.map fun entry => if same entry.1 key then (entry.1, value) else entry
  else dictionary ++ [(key, value)]

theorem setItem_new {κ α : Type} {same : κ → κ → Bool} {dictionary : List (κ × α)} {key : κ} {value : α}
    (new : ∀ entry ∈ dictionary, same entry.1 key = false) :
    setItem same dictionary key value = dictionary ++ [(key, value)] := by
  refine if_neg fun present => ?_
  obtain ⟨entry, member, found⟩ := List.any_eq_true.1 present
  rw [new entry member] at found
  cases found

end Python
