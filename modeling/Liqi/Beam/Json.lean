import Mathlib.Data.List.Basic

/-!
# Decoded JSON

The terms to which a JSON text decodes. An integer and a float are different terms even where their values
are equal, as guards and pinned patterns tell them apart; a float is kept as its decimal mantissa and
exponent.
-/

namespace Beam

inductive Json where
  | null
  | bool (value : Bool)
  | integer (value : Int)
  | float (mantissa exponent : Int)
  | string (value : String)
  | list (elements : List Json)
  | map (members : List (String × Json))

namespace Json

/-- The value of a key in a pattern: none where the term is no map or lacks the key. -/
def fetch (json : Json) (key : String) : Option Json :=
  match json with
  | .map members => (members.find? fun member => member.1 = key).map Prod.snd
  | _ => none

/-- `map[key]`, which is `nil` for a missing key. -/
def get (json : Json) (key : String) : Json := (json.fetch key).getD .null

/-- `value || default`. -/
def orElse (value default : Json) : Json :=
  match value with
  | .null => default
  | .bool false => default
  | value => value

def integer? : Json → Option Int
  | .integer value => some value
  | _ => none

def string? : Json → Option String
  | .string value => some value
  | _ => none

end Json

end Beam
