import Mathlib.Data.String.Basic
import Liqi.Postgres.Uuid
import Liqi.Runtime.Id

/-!
# The texts that are valid identifiers

A text that matches the expression is 36 ASCII characters, perhaps with a newline after them. The texts that
`Ecto.UUID.cast` accepts are, in lower case, the texts that PostgreSQL gives to a `uuid`.
-/

namespace Liqi.Runtime

open Postgres

/-- The characters of an identifier in lower case. -/
def uuidChars : List Char := "0123456789abcdef-".toList

variable {c : Char}

theorem charClass_subset {members : String} (subset : members.toList ⊆ uuidChars)
    (accepted : charClass members c = true) : c.toLower ∈ uuidChars :=
  subset (by simpa [charClass] using accepted)

theorem uuidClasses_chars {accepts : Char → Bool} (member : accepts ∈ uuidClasses) (accepted : accepts c = true) :
    c.toLower ∈ uuidChars := by
  simp only [uuidClasses, List.mem_append, List.mem_cons, List.mem_replicate, List.not_mem_nil, or_false] at member
  have classes : accepts = hexClass ∨ accepts = charClass "-" ∨ accepts = charClass "12345" ∨ accepts = charClass "89ab" := by
    tauto
  rcases classes with rfl | rfl | rfl | rfl
  all_goals exact charClass_subset (by decide) accepted

theorem length_uuidClasses : uuidClasses.length = 36 := rfl

variable {text : List Char}

/-- A match consumes one character for each class. -/
theorem matchClasses_eq_some {classes : List (Char → Bool)} {rest : List Char}
    (matched : matchClasses classes text = some rest) :
    ∃ front, text = front ++ rest ∧ List.Forall₂ (fun accepts c => accepts c = true) classes front := by
  induction classes generalizing text with
  | nil =>
    cases matched
    exact ⟨[], rfl, .nil⟩
  | cons accepts classes ih =>
    cases text with
    | nil => cases matched
    | cons c text =>
      simp only [matchClasses] at matched
      split_ifs at matched with accepted
      obtain ⟨front, rfl, both⟩ := ih matched
      exact ⟨c :: front, rfl, .cons accepted both⟩

variable {value : String}

/-- The characters of a valid identifier. -/
theorem validUuid_chars (valid : validUuid value = true) :
    ∃ front rest, value.toList = front ++ rest ∧ List.Forall₂ (fun accepts c => accepts c = true) uuidClasses front
      ∧ (rest = [] ∨ rest = ['\n']) := by
  unfold validUuid at valid
  split at valid
  next matched =>
    obtain ⟨front, text, both⟩ := matchClasses_eq_some matched
    exact ⟨front, [], text, both, .inl rfl⟩
  next matched =>
    obtain ⟨front, text, both⟩ := matchClasses_eq_some matched
    exact ⟨front, _, text, both, .inr rfl⟩
  next => cases valid

/-- Lower case does not make a character ASCII. -/
theorem utf8Size_of_toLower (ascii : c.toLower.val ≤ 127) : c.utf8Size = 1 := by
  rw [Char.utf8Size_eq_one_iff]
  unfold Char.toLower at ascii
  split at ascii
  next upper =>
    have below : c.val ≤ 'Z'.val := upper.2
    exact UInt32.le_trans below (by decide)
  next => exact ascii

theorem utf8Size_of_uuidClasses {classes : List (Char → Bool)} (known : classes ⊆ uuidClasses)
    (matched : List.Forall₂ (fun accepts c => accepts c = true) classes text) :
    String.utf8Len text = classes.length := by
  have all : uuidChars.all (fun c => decide (c.val ≤ 127)) = true := by decide
  have ascii : ∀ c ∈ uuidChars, c.val ≤ 127 := fun c member => of_decide_eq_true (List.all_eq_true.1 all c member)
  induction matched with
  | nil => rfl
  | cons accepted _ ih =>
    have size := utf8Size_of_toLower (ascii _ (uuidClasses_chars (known (by simp)) accepted))
    have rest := ih fun _ member => known (by simp [member])
    simp [size, rest]

theorem validUuid_size (valid : validUuid value = true) : value.utf8ByteSize ≤ 37 := by
  obtain ⟨front, rest, text, matched, newline⟩ := validUuid_chars valid
  have size := utf8Size_of_uuidClasses (fun _ member => member) matched
  have parts : value = String.ofList (front ++ rest) := by rw [← text, String.ofList_toList]
  rw [parts, String.utf8ByteSize_ofList, String.utf8Len_append, size, length_uuidClasses]
  rcases newline with rfl | rfl
  · decide
  · decide

/-! ## Casts -/

/-- The classes of the text of `n` bytes from byte `i` on. -/
def bytesClasses : Nat → Nat → List (Char → Bool)
  | _, 0 => []
  | i, n + 1 => hexClass :: hexClass ::
      (if i = 3 ∨ i = 5 ∨ i = 7 ∨ i = 9 then charClass "-" :: bytesClasses (i + 1) n else bytesClasses (i + 1) n)

theorem groupClasses_eq : groupClasses = bytesClasses 0 16 := rfl

theorem hexDigit_of_hexClass (accepted : hexClass c = true) : ∃ n, Uuid.hexDigit n = c.toLower := by
  have listed : c.toLower ∈ "0123456789abcdef".toList := by simpa [hexClass, charClass] using accepted
  obtain ⟨i, lt, digit⟩ := List.mem_iff_getElem.1 listed
  refine ⟨⟨i, lt⟩, ?_⟩
  simp only [Uuid.hexDigit, List.getD_eq_getElem?_getD, List.getElem?_eq_getElem lt, digit, Option.getD_some]

theorem hyphen_of_charClass (accepted : charClass "-" c = true) : c.toLower = '-' := by
  simpa [charClass] using accepted

/-- What the classes accept is, in lower case, the text of bytes. -/
theorem textFrom_of_classes {n i : Nat}
    (matched : List.Forall₂ (fun accepts c => accepts c = true) (bytesClasses i n) text) :
    ∃ bytes, bytes.length = n ∧ Uuid.textFrom i bytes = text.map Char.toLower := by
  induction n generalizing i text with
  | zero =>
    cases matched
    exact ⟨[], rfl, rfl⟩
  | succ n ih =>
    obtain _ | ⟨high, _ | ⟨low, matched⟩⟩ := matched
    obtain ⟨h, highDigit⟩ := hexDigit_of_hexClass high
    obtain ⟨l, lowDigit⟩ := hexDigit_of_hexClass low
    have highHalf : (16 * h.val + l.val) / 16 = h.val := by omega
    have lowHalf : (16 * h.val + l.val) % 16 = l.val := by omega
    split at matched
    next hyphen =>
      obtain _ | ⟨dash, matched⟩ := matched
      obtain ⟨bytes, length, text⟩ := ih matched
      refine ⟨⟨16 * h + l, by omega⟩ :: bytes, by simp [length], ?_⟩
      simp [Uuid.textFrom, hyphen, highHalf, lowHalf, highDigit, lowDigit, hyphen_of_charClass dash, text]
    next other =>
      obtain ⟨bytes, length, text⟩ := ih matched
      refine ⟨⟨16 * h + l, by omega⟩ :: bytes, by simp [length], ?_⟩
      simp [Uuid.textFrom, other, highHalf, lowHalf, highDigit, lowDigit, text]

/-- A text that `Ecto.UUID.cast` accepts becomes the text of a `uuid`, which differs from it only in case. -/
theorem ectoUuidCast_eq_some {text : String} (accepted : ectoUuidCast value = some text) :
    text = String.ofList (value.toList.map Char.toLower) ∧ ∃ uuid : Uuid, uuid.text = text := by
  unfold ectoUuidCast at accepted
  split_ifs at accepted with matched
  cases accepted
  obtain ⟨front, whole, classes⟩ := matchClasses_eq_some matched
  rw [List.append_nil] at whole
  rw [whole]
  obtain ⟨bytes, length, text⟩ := textFrom_of_classes (groupClasses_eq ▸ classes)
  exact ⟨rfl, ⟨bytes, length⟩, congrArg String.ofList text⟩

/-- The classes accept the text of bytes. -/
theorem matchClasses_textFrom (bytes : List (Fin 256)) (i : Nat) :
    matchClasses (bytesClasses i bytes.length) (Uuid.textFrom i bytes) = some [] := by
  have digit : ∀ n, hexClass (Uuid.hexDigit n) = true := by decide
  have hyphen : charClass "-" '-' = true := by decide
  induction bytes generalizing i with
  | nil => rfl
  | cons b bytes ih =>
    simp only [List.length_cons, bytesClasses, Uuid.textFrom, matchClasses, digit, if_true]
    split
    · simp only [matchClasses, hyphen, if_true, ih]
    · exact ih (i + 1)

/-- A text of a `uuid` is cast to itself. -/
@[simp] theorem ectoUuidCast_text (uuid : Uuid) : ectoUuidCast uuid.text = some uuid.text := by
  have matched := matchClasses_textFrom uuid.bytes 0
  rw [uuid.size, ← groupClasses_eq] at matched
  have digit : ∀ n, (Uuid.hexDigit n).toLower = Uuid.hexDigit n := by decide
  have lower : (Uuid.textFrom 0 uuid.bytes).map Char.toLower = Uuid.textFrom 0 uuid.bytes := by
    refine (List.map_congr_left fun c written => ?_).trans (List.map_id _)
    rcases Uuid.mem_textFrom written with rfl | ⟨n, rfl⟩
    · decide
    · exact digit n
  unfold ectoUuidCast Uuid.text
  rw [String.toList_ofList, if_pos matched, lower]

end Liqi.Runtime
