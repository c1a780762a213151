import Mathlib.Algebra.GroupWithZero.Nat
import Mathlib.Data.List.Lex
import Mathlib.Order.Fin.Basic

/-!
# `uuid`

Sixteen bytes, compared as `memcmp` does, with PostgreSQL's text form: `uuid_out` writes
lower-case hexadecimal with four hyphens, `uuid_in` also accepts upper case, braces and a hyphen
after any group of two bytes. `ofText_text` is the round trip behind every `uuid::text` that is
later cast back.
-/

namespace Postgres

instance byteNeZero : NeZero 256 := ⟨by decide⟩

structure Uuid where
  bytes : List (Fin 256)
  size : bytes.length = 16
  deriving DecidableEq

namespace Uuid

instance : LinearOrder Uuid :=
  LinearOrder.lift' bytes (fun a b h => by cases a; cases b; cases h; rfl)

def hexDigit (n : Fin 16) : Char :=
  "0123456789abcdef".toList.getD n '0'

def hexValue (c : Char) : Option (Fin 16) :=
  (List.finRange 16).find? fun n => hexDigit n == c.toLower

/-- `uuid_out` from byte `i` on: the hyphens follow bytes 3, 5, 7 and 9. -/
def textFrom : Nat → List (Fin 256) → List Char
  | _, [] => []
  | i, b :: bs =>
    hexDigit ⟨b / 16, by omega⟩ :: hexDigit ⟨b % 16, by omega⟩ ::
      (if i = 3 ∨ i = 5 ∨ i = 7 ∨ i = 9 then '-' :: textFrom (i + 1) bs else textFrom (i + 1) bs)

/-- `uuid::text`. -/
def text (u : Uuid) : String := String.ofList (textFrom 0 u.bytes)

/-- `uuid_in` skips a hyphen after an odd byte, the last one excepted. -/
def skipHyphen (i : Nat) : List Char → List Char
  | '-' :: rest => if i % 2 = 1 ∧ i < 15 then rest else '-' :: rest
  | cs => cs

/-- The byte loop of `uuid_in`: `n` bytes are still to be read, the next one is byte `i`. -/
def parseBytes : Nat → Nat → List Char → Option (List (Fin 256) × List Char)
  | 0, _, cs => some ([], cs)
  | n + 1, i, c :: d :: cs =>
    match hexValue c, hexValue d with
    | some h, some l =>
      match parseBytes n (i + 1) (skipHyphen i cs) with
      | some (bs, rest) => some (⟨16 * h + l, by omega⟩ :: bs, rest)
      | none => none
    | _, _ => none
  | _ + 1, _, _ => none

/-- `text::uuid`; `none` is `invalid_text_representation`. -/
def ofText (s : String) : Option Uuid :=
  let body := match s.toList with
    | '\x7b' :: cs => parseBytes 16 0 cs |>.bind fun r =>
        if r.2 = ['\x7d'] then some r.1 else none
    | cs => parseBytes 16 0 cs |>.bind fun r => if r.2 = [] then some r.1 else none
  body.bind fun bs => if h : bs.length = 16 then some ⟨bs, h⟩ else none

theorem hexValue_hexDigit (n : Fin 16) : hexValue (hexDigit n) = some n := by
  revert n; decide

theorem hexDigit_ne_hyphen (n : Fin 16) : hexDigit n ≠ '-' := by
  revert n; decide

theorem hexDigit_ne_brace (n : Fin 16) : hexDigit n ≠ '\x7b' := by
  revert n; decide

theorem skipHyphen_of_ne {i : Nat} {c : Char} {cs : List Char} (h : c ≠ '-') :
    skipHyphen i (c :: cs) = c :: cs := by
  unfold skipHyphen
  split
  · rename_i heq; cases heq; exact absurd rfl h
  · rfl

theorem skipHyphen_textFrom (i : Nat) (bs : List (Fin 256)) (h : i + 1 + bs.length = 16) :
    skipHyphen i (if i = 3 ∨ i = 5 ∨ i = 7 ∨ i = 9 then '-' :: textFrom (i + 1) bs else textFrom (i + 1) bs) =
      textFrom (i + 1) bs := by
  split
  · rename_i hi
    have odd : i % 2 = 1 ∧ i < 15 := by omega
    simp [skipHyphen, odd]
  · cases bs with
    | nil => rfl
    | cons b bs => exact skipHyphen_of_ne (hexDigit_ne_hyphen _)

theorem parseBytes_textFrom (bs : List (Fin 256)) :
    ∀ i, i + bs.length = 16 → parseBytes bs.length i (textFrom i bs) = some (bs, []) := by
  induction bs with
  | nil => intro i _; rfl
  | cons b bs ih =>
    intro i hi
    have skip := skipHyphen_textFrom i bs (by simpa [Nat.add_assoc, Nat.add_comm] using hi)
    have rest := ih (i + 1) (by simp only [List.length_cons] at hi; omega)
    simp only [textFrom, List.length_cons, parseBytes, hexValue_hexDigit, skip, rest]
    congr 3
    apply Fin.ext
    simp only
    omega

theorem parse_text (u : Uuid) : parseBytes 16 0 (textFrom 0 u.bytes) = some (u.bytes, []) := by
  have := parseBytes_textFrom u.bytes 0 (by rw [u.size])
  rwa [u.size] at this

/-- Casting a `uuid` to text and back is the identity. -/
@[simp] theorem ofText_text (u : Uuid) : ofText u.text = some u := by
  obtain ⟨bs, size⟩ := u
  have parsed := parse_text ⟨bs, size⟩
  cases bs with
  | nil => cases size
  | cons b bs =>
    simp only [ofText, text, String.toList_ofList]
    split
    · rename_i cs heq
      exact absurd (List.cons.inj heq).1 (hexDigit_ne_brace _)
    · simp [parsed, size]

/-- The characters of a text are hexadecimal digits and hyphens. -/
theorem mem_textFrom {bs : List (Fin 256)} {i : Nat} {c : Char} (written : c ∈ textFrom i bs) :
    c = '-' ∨ ∃ n, c = hexDigit n := by
  induction bs generalizing i with
  | nil => cases written
  | cons b bs ih =>
    simp only [textFrom, List.mem_cons] at written
    rcases written with rfl | rfl | written
    · exact .inr ⟨_, rfl⟩
    · exact .inr ⟨_, rfl⟩
    · split at written
      · rcases List.mem_cons.1 written with rfl | written
        · exact .inl rfl
        · exact ih written
      · exact ih written

theorem length_textFrom_le (bs : List (Fin 256)) (i : Nat) : (textFrom i bs).length ≤ 3 * bs.length := by
  induction bs generalizing i with
  | nil => simp [textFrom]
  | cons b bs ih =>
    have rest := ih (i + 1)
    simp only [textFrom, List.length_cons]
    split
    · simp only [List.length_cons]
      omega
    · omega

theorem length_text_le (u : Uuid) : u.text.toList.length ≤ 48 := by
  have bound := length_textFrom_le u.bytes 0
  rw [u.size] at bound
  simpa [text] using bound

theorem text_injective {a b : Uuid} (same : a.text = b.text) : a = b := by
  have parsed := ofText_text a
  rw [same, ofText_text] at parsed
  exact (Option.some.inj parsed).symm

end Uuid

end Postgres
