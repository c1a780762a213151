import Mathlib.Data.List.Basic

/-!
# Identifiers

`Id.valid_uuid?` matches a regular expression of 36 character classes. The classes ignore case, and `$` also
matches before a newline that ends the text.
-/

namespace Liqi.Runtime

/-- A class of the expression, matched without regard to case. -/
def charClass (members : String) (c : Char) : Bool := members.toList.contains c.toLower

def hexClass : Char → Bool := charClass "0123456789abcdef"

/-- `^[0-9a-f]{8}-[0-9a-f]{4}-[1-5][0-9a-f]{3}-[89ab][0-9a-f]{3}-[0-9a-f]{12}$`, without its anchors. -/
def uuidClasses : List (Char → Bool) :=
  List.replicate 8 hexClass ++ [charClass "-"] ++ List.replicate 4 hexClass ++ [charClass "-"]
    ++ charClass "12345" :: List.replicate 3 hexClass ++ [charClass "-"]
    ++ charClass "89ab" :: List.replicate 3 hexClass ++ [charClass "-"] ++ List.replicate 12 hexClass

/-- The text after the classes, if they match. -/
def matchClasses : List (Char → Bool) → List Char → Option (List Char)
  | [], rest => some rest
  | accepts :: classes, c :: rest => if accepts c then matchClasses classes rest else none
  | _ :: _, [] => none

/-- `Id.valid_uuid?` for a binary. -/
def validUuid (value : String) : Bool :=
  match matchClasses uuidClasses value.toList with
  | some [] => true
  | some ['\n'] => true
  | _ => false

/-- The five groups of hexadecimal digits that `Ecto.UUID.cast` looks for. -/
def groupClasses : List (Char → Bool) :=
  List.replicate 8 hexClass ++ [charClass "-"] ++ List.replicate 4 hexClass ++ [charClass "-"]
    ++ List.replicate 4 hexClass ++ [charClass "-"] ++ List.replicate 4 hexClass ++ [charClass "-"]
    ++ List.replicate 12 hexClass

/-- `Ecto.UUID.cast` for a text: the text in lower case, or none where it is `:error`. -/
def ectoUuidCast (value : String) : Option String :=
  if matchClasses groupClasses value.toList = some [] then some (String.ofList (value.toList.map Char.toLower)) else none

example : validUuid "12345678-1234-1234-8234-123456789ABC" = true := by decide

end Liqi.Runtime
