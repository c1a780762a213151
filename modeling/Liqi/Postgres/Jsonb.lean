import Mathlib.Data.String.Basic

/-!
# `jsonb`

JSON documents with the operators the SQL functions use: `jsonb_typeof`, `->>`, `||`,
`jsonb_build_object` and `octet_length(document::text)`. An object keeps its members in `jsonb`'s
storage order (shorter keys first, then byte order), one member a key, so that equal documents are
equal values. Numbers are integers, the only ones the functions build or read back.
-/

namespace Postgres

inductive Jsonb where
  | null
  | bool (value : Bool)
  | number (value : Int)
  | string (value : String)
  | array (elements : List Jsonb)
  | object (members : List (String × Jsonb))

namespace Jsonb

mutual

def decEq : (a b : Jsonb) → Decidable (a = b)
  | .null, b => match b with
    | .null => isTrue rfl
    | .bool _ | .number _ | .string _ | .array _ | .object _ => isFalse nofun
  | .bool x, b => match b with
    | .bool y => decidable_of_iff (x = y) (by simp)
    | .null | .number _ | .string _ | .array _ | .object _ => isFalse nofun
  | .number x, b => match b with
    | .number y => decidable_of_iff (x = y) (by simp)
    | .null | .bool _ | .string _ | .array _ | .object _ => isFalse nofun
  | .string x, b => match b with
    | .string y => decidable_of_iff (x = y) (by simp)
    | .null | .bool _ | .number _ | .array _ | .object _ => isFalse nofun
  | .array xs, b => match b with
    | .array ys => match decEqElements xs ys with
      | isTrue h => isTrue (by rw [h])
      | isFalse h => isFalse fun e => h (by cases e; rfl)
    | .null | .bool _ | .number _ | .string _ | .object _ => isFalse nofun
  | .object xs, b => match b with
    | .object ys => match decEqMembers xs ys with
      | isTrue h => isTrue (by rw [h])
      | isFalse h => isFalse fun e => h (by cases e; rfl)
    | .null | .bool _ | .number _ | .string _ | .array _ => isFalse nofun

def decEqElements : (xs ys : List Jsonb) → Decidable (xs = ys)
  | [], [] => isTrue rfl
  | [], _ :: _ => isFalse nofun
  | _ :: _, [] => isFalse nofun
  | x :: xs, y :: ys => match decEq x y, decEqElements xs ys with
    | isTrue h, isTrue h' => isTrue (by rw [h, h'])
    | isFalse h, _ => isFalse fun e => h (by cases e; rfl)
    | _, isFalse h => isFalse fun e => h (by cases e; rfl)

def decEqMembers : (xs ys : List (String × Jsonb)) → Decidable (xs = ys)
  | [], [] => isTrue rfl
  | [], _ :: _ => isFalse nofun
  | _ :: _, [] => isFalse nofun
  | (k, x) :: xs, (l, y) :: ys =>
    if hk : k = l then match decEq x y, decEqMembers xs ys with
      | isTrue h, isTrue h' => isTrue (by rw [hk, h, h'])
      | isFalse h, _ => isFalse fun e => h (by cases e; rfl)
      | _, isFalse h => isFalse fun e => h (by cases e; rfl)
    else isFalse fun e => hk (by cases e; rfl)

end

instance : DecidableEq Jsonb := decEq

/-- `'{}'::jsonb`. -/
def empty : Jsonb := .object []

/-- `jsonb_typeof(document) = 'object'`. -/
def isObject : Jsonb → Bool
  | .object _ => true
  | _ => false

/-- One character of `escape_json`. -/
def escapeChar (c : Char) : String :=
  if c = '\x22' then "\\\""
  else if c = '\x5c' then "\\\\"
  else if c = '\x08' then "\\b"
  else if c = '\x0c' then "\\f"
  else if c = '\n' then "\\n"
  else if c = '\r' then "\\r"
  else if c = '\t' then "\\t"
  else if c.toNat < 32 then
    "\\u00" ++ (if c.toNat < 16 then "0" else "1") ++ String.ofList [(Nat.digitChar (c.toNat % 16))]
  else String.ofList [c]

def escape (s : String) : String :=
  "\"" ++ s.toList.foldr (fun c acc => escapeChar c ++ acc) "" ++ "\""

mutual

/-- `document::text`. -/
def text : Jsonb → String
  | .null => "null"
  | .bool b => if b then "true" else "false"
  | .number n => n.repr
  | .string s => escape s
  | .array xs => "[" ++ elementsText xs ++ "]"
  | .object ms => "\x7b" ++ membersText ms ++ "\x7d"

def elementsText : List Jsonb → String
  | [] => ""
  | [x] => text x
  | x :: xs => text x ++ ", " ++ elementsText xs

def membersText : List (String × Jsonb) → String
  | [] => ""
  | [(k, x)] => escape k ++ ": " ++ text x
  | (k, x) :: ms => escape k ++ ": " ++ text x ++ ", " ++ membersText ms

end

/-- `octet_length(document::text)`. -/
def octetLength (j : Jsonb) : Nat := (text j).utf8ByteSize

/-- A `text` value cannot hold a NUL. -/
def storableText (s : String) : Bool := !s.toList.contains '\x00'

mutual

/-- `jsonb` refuses a document with `\u0000` in a string. -/
def storable : Jsonb → Bool
  | .string s => storableText s
  | .array xs => elementsStorable xs
  | .object ms => membersStorable ms
  | _ => true

def elementsStorable : List Jsonb → Bool
  | [] => true
  | x :: xs => storable x && elementsStorable xs

def membersStorable : List (String × Jsonb) → Bool
  | [] => true
  | (k, x) :: ms => storableText k && storable x && membersStorable ms

end

/-- A value as `->>` returns it: the text of a string, `NULL` for JSON null. -/
def asText : Jsonb → Option String
  | .null => none
  | .string s => some s
  | j => some (text j)

/-- `document ->> key`. -/
def getText (j : Jsonb) (key : String) : Option String :=
  match j with
  | .object ms => (ms.lookup key).bind asText
  | _ => none

/-- Storage order of keys: by length in bytes, then by bytes. -/
def keyBefore (k l : String) : Bool :=
  k.utf8ByteSize < l.utf8ByteSize || (k.utf8ByteSize == l.utf8ByteSize && decide (k < l))

/-- Set one member, replacing the key's old value. -/
def setMember (key : String) (value : Jsonb) : List (String × Jsonb) → List (String × Jsonb)
  | [] => [(key, value)]
  | (k, v) :: ms =>
    if k = key then (key, value) :: ms
    else if keyBefore key k then (key, value) :: (k, v) :: ms
    else (k, v) :: setMember key value ms

/-- `jsonb_build_object`: a later key replaces an earlier one. -/
def buildObject (members : List (String × Jsonb)) : Jsonb :=
  .object (members.foldl (fun ms m => setMember m.1 m.2 ms) [])

/-- `a || b`: objects merge, anything else is concatenated as arrays. -/
def concat : Jsonb → Jsonb → Jsonb
  | .object ms, .object ns => .object (ns.foldl (fun acc m => setMember m.1 m.2 acc) ms)
  | .array xs, .array ys => .array (xs ++ ys)
  | .array xs, b => .array (xs ++ [b])
  | a, .array ys => .array (a :: ys)
  | a, b => .array [a, b]

/-- A character takes at most four bytes, its escape six. -/
theorem utf8ByteSize_escapeChar_le (c : Char) : (escapeChar c).utf8ByteSize ≤ 6 := by
  have digit : ∀ n < 16, (Nat.digitChar n).utf8Size = 1 := by decide
  have half := digit (c.toNat % 16) (Nat.mod_lt _ (by decide))
  have plain := Char.utf8Size_le_four c
  unfold escapeChar
  split_ifs <;> simp +decide [half]
  omega

theorem utf8ByteSize_escape_le (s : String) : (escape s).utf8ByteSize ≤ 6 * s.toList.length + 2 := by
  have body : ∀ cs : List Char,
      (cs.foldr (fun c acc => escapeChar c ++ acc) "").utf8ByteSize ≤ 6 * cs.length := by
    intro cs
    induction cs with
    | nil => simp
    | cons c cs ih =>
      have head := utf8ByteSize_escapeChar_le c
      simp only [List.foldr_cons, String.utf8ByteSize_append, List.length_cons]
      omega
  have quote : "\"".utf8ByteSize = 1 := by decide
  have inner := body s.toList
  simp only [escape, String.utf8ByteSize_append, quote]
  omega

theorem octetLength_pair (k l : String) (x y : Jsonb) : (object [(k, x), (l, y)]).octetLength
    = (escape k).utf8ByteSize + x.octetLength + (escape l).utf8ByteSize + y.octetLength + 8 := by
  have brace : "\x7b".utf8ByteSize = 1 ∧ "\x7d".utf8ByteSize = 1 := by decide
  have between : ": ".utf8ByteSize = 2 ∧ ", ".utf8ByteSize = 2 := by decide
  simp only [octetLength, text, membersText, String.utf8ByteSize_append, brace, between]
  omega

theorem octetLength_string_le (s : String) : (Jsonb.string s).octetLength ≤ 6 * s.toList.length + 2 := by
  simpa [octetLength, text] using utf8ByteSize_escape_le s

theorem lookup_setMember (key : String) (value : Jsonb) (ms : List (String × Jsonb)) (k : String) :
    (setMember key value ms).lookup k = if k = key then some value else ms.lookup k := by
  by_cases h : k = key
  · subst h
    induction ms with
    | nil => simp [setMember]
    | cons m ms ih =>
      obtain ⟨l, v⟩ := m
      simp only [setMember]
      split
      · simp
      · rename_i hne
        have other : (k == l) = false := by simpa using fun e => hne e.symm
        split
        · simp
        · simpa [List.lookup_cons, other] using ih
  · have hb : (k == key) = false := by simpa using h
    induction ms with
    | nil => simp [setMember, List.lookup_cons, hb, h]
    | cons m ms ih =>
      obtain ⟨l, v⟩ := m
      simp only [setMember]
      split
      · rename_i he
        subst he
        simp [List.lookup_cons, hb]
      · split
        · simp [List.lookup_cons, hb]
        · simp only [List.lookup_cons, ih, h, if_false]

/-- Reading the member that `||` or `jsonb_build_object` set last. -/
theorem getText_concat_single (ms : List (String × Jsonb)) (key : String) (value : Jsonb) :
    (concat (.object ms) (buildObject [(key, value)])).getText key = asText value := by
  simp [concat, buildObject, setMember, getText, lookup_setMember]

@[simp] theorem asText_string (s : String) : asText (.string s) = some s := rfl

@[simp] theorem asText_number (n : Int) : asText (.number n) = some n.repr := by
  simp [asText, text]

@[simp] theorem asText_bool (b : Bool) : asText (.bool b) = some (if b then "true" else "false") := by
  simp [asText, text]

end Jsonb

/-- `text::boolean` (`parse_bool`): unique abbreviations, case-blind, surrounding blanks ignored. -/
def boolOfText (s : String) : Option Bool :=
  let t := String.ofList ((s.toList.map Char.toLower).dropWhile (· == ' ') |>.reverse.dropWhile (· == ' ') |>.reverse)
  if t ∈ ["t", "tr", "tru", "true", "y", "ye", "yes", "on", "1"] then some true
  else if t ∈ ["f", "fa", "fal", "fals", "false", "n", "no", "of", "off", "0"] then some false
  else none

@[simp] theorem boolOfText_true : boolOfText "true" = some true := by decide

end Postgres
