import Mathlib.Algebra.Group.Int.Defs
import Mathlib.Data.String.Basic

/-!
# Library functions of Rust

`str::parse` for integers, the splitting and trimming of a `str`, and a bounded `mpsc` channel as its sender sees it. The
receiver of a channel is another task: what it did between two attempts to send is not known to the sender,
so it is a parameter of the attempt.
-/

namespace Rust

/-- The sign and the digits of a numeral; an unsigned type does not take a minus. -/
def signed (minus : Bool) : List Char → Bool × List Char
  | '+' :: digits => (false, digits)
  | '-' :: digits => if minus then (true, digits) else (false, '-' :: digits)
  | digits => (false, digits)

/-- `str::parse` of an integer type with the given range. -/
def parseInteger (minus : Bool) (low high : Int) (text : String) : Option Int :=
  let (negative, digits) := signed minus text.toList
  if digits = [] ∨ digits.all Char.isDigit = false then none
  else
    let magnitude : Int := Nat.ofDigitChars 10 digits 0
    let value := if negative then -magnitude else magnitude
    if low ≤ value ∧ value ≤ high then some value else none

def i64Max : Nat := 2 ^ 63 - 1

def parseI64 (text : String) : Option Int := parseInteger true (-2 ^ 63) i64Max text

def parseU32 (text : String) : Option Int := parseInteger false 0 (2 ^ 32 - 1) text

theorem digits_toDigits (n : Nat) : (Nat.toDigits 10 n).all Char.isDigit = true := by
  rw [List.all_eq_true]
  intro c member
  exact Nat.isDigit_of_mem_toDigits (by decide) (by decide) member

theorem signed_of_digits (minus : Bool) {digits : List Char} (all : digits.all Char.isDigit = true) :
    signed minus digits = (false, digits) := by
  unfold signed
  split
  · exact absurd all (by simp)
  · exact absurd all (by simp)
  · rfl

/-- A number read back from its decimal text. -/
theorem parseI64_toString (n : Nat) : parseI64 (toString n) = if n ≤ i64Max then some (n : Int) else none := by
  have digits : (toString n).toList = Nat.toDigits 10 n := Nat.toList_repr
  have value : (Nat.ofDigitChars 10 (Nat.toDigits 10 n) 0 : Int) = n := by rw [Nat.ofDigitChars_ten_toDigits]
  unfold parseI64 parseInteger
  rw [digits, signed_of_digits true (digits_toDigits n)]
  simp only [digits_toDigits, value, Nat.toDigits_ne_nil, Bool.true_eq_false, or_self, if_false, Bool.false_eq_true]
  split_ifs with low high
  · rfl
  · omega
  · omega
  · rfl

/-- An unsigned numeral has no minus. -/
theorem signed_false (text : List Char) :
    ∃ digits, (text = digits ∨ text = '+' :: digits) ∧ signed false text = (false, digits) := by
  unfold signed
  split
  next digits => exact ⟨digits, .inr rfl, rfl⟩
  next digits => exact ⟨'-' :: digits, .inl rfl, rfl⟩
  next => exact ⟨text, .inl rfl, rfl⟩

/-- The texts that parse as a `u32`: digits, after a plus or not. -/
theorem parseU32_iff {text : List Char} {n : Int} :
    parseU32 (String.ofList text) = some n ↔
      ∃ digits, (text = digits ∨ text = '+' :: digits) ∧ digits ≠ [] ∧ digits.all Char.isDigit = true ∧
        (Nat.ofDigitChars 10 digits 0 : Int) = n ∧ n ≤ 2 ^ 32 - 1 := by
  have parsed {digits : List Char} (read : signed false text = (false, digits)) :
      parseU32 (String.ofList text) = some n ↔ digits ≠ [] ∧ digits.all Char.isDigit = true ∧
        (Nat.ofDigitChars 10 digits 0 : Int) = n ∧ n ≤ 2 ^ 32 - 1 := by
    unfold parseU32 parseInteger
    rw [String.toList_ofList, read]
    simp only [Bool.false_eq_true, if_false]
    split_ifs with malformed range
    · refine iff_of_false nofun ?_
      rintro ⟨some, all, _⟩
      simp [some, all] at malformed
    · simp only [not_or, Bool.not_eq_false] at malformed
      constructor
      · rintro ⟨⟩
        exact ⟨malformed.1, malformed.2, rfl, range.2⟩
      · rintro ⟨_, _, rfl, _⟩
        rfl
    · refine iff_of_false nofun ?_
      rintro ⟨_, _, rfl, high⟩
      exact range ⟨Int.natCast_nonneg _, high⟩
  constructor
  · intro answer
    obtain ⟨digits, form, read⟩ := signed_false text
    exact ⟨digits, form, (parsed read).1 answer⟩
  · rintro ⟨digits, rfl | rfl, some, all, value⟩
    · exact (parsed (signed_of_digits false all)).2 ⟨some, all, value⟩
    · exact (parsed rfl).2 ⟨some, all, value⟩

/-- `str::rsplit_once`: the parts before and after the last occurrence of the separator. -/
def rsplitOnce (separator : List Char) : List Char → Option (List Char × List Char)
  | [] => none
  | c :: cs => match rsplitOnce separator cs with
    | some (before, after) => some (c :: before, after)
    | none => if separator.isPrefixOf (c :: cs) then some ([], (c :: cs).drop separator.length) else none

theorem rsplitOnce_some {separator cs before after : List Char} (split : rsplitOnce separator cs = some (before, after)) :
    cs = before ++ separator ++ after := by
  induction cs generalizing before with
  | nil => cases split
  | cons c cs ih =>
    unfold rsplitOnce at split
    split at split
    next found =>
      cases split
      rw [ih found]
      rfl
    next =>
      split at split
      next found =>
        cases split
        rw [List.nil_append, List.prefix_iff_eq_append.1 (List.isPrefixOf_iff_prefix.1 found)]
      next => cases split

theorem rsplitOnce_of_not_mem {c : Char} {separator cs : List Char} (absent : c ∉ cs) :
    rsplitOnce (c :: separator) cs = none := by
  induction cs with
  | nil => rfl
  | cons d cs ih =>
    have differs : (c == d) = false := beq_false_of_ne fun same => absent (by simp [same])
    simp [rsplitOnce, ih fun mem => absent (List.mem_cons_of_mem d mem), List.isPrefixOf, differs]

/-- A text is split where its separator stands, if the separator's first character comes no more. -/
theorem rsplitOnce_append {c : Char} {separator after : List Char} (single : c ∉ separator) (absent : c ∉ after)
    (before : List Char) : rsplitOnce (c :: separator) (before ++ c :: separator ++ after) = some (before, after) := by
  induction before with
  | nil =>
    have rest : rsplitOnce (c :: separator) (separator ++ after) = none :=
      rsplitOnce_of_not_mem fun mem => (List.mem_append.1 mem).elim single absent
    simp [rsplitOnce, rest, List.isPrefixOf]
  | cons d before ih =>
    simp only [List.cons_append, rsplitOnce] at ih ⊢
    rw [ih]

/-- `str::split_once`: the parts before and after the first occurrence of the separator. -/
def splitOnce (separator : List Char) : List Char → Option (List Char × List Char)
  | [] => if separator = [] then some ([], []) else none
  | c :: cs =>
    if separator.isPrefixOf (c :: cs) then some ([], (c :: cs).drop separator.length)
    else (splitOnce separator cs).map fun (before, after) => (c :: before, after)

/-- `char::is_whitespace`: the characters with the property `White_Space`. -/
def isWhitespace (c : Char) : Bool :=
  (0x9 ≤ c.toNat && c.toNat ≤ 0xd) || (0x2000 ≤ c.toNat && c.toNat ≤ 0x200a) ||
    [0x20, 0x85, 0xa0, 0x1680, 0x2028, 0x2029, 0x202f, 0x205f, 0x3000].contains c.toNat

/-- `text.trim().is_empty()`. -/
def isBlank (text : String) : Bool := text.toList.all isWhitespace

/-- A bounded channel: the messages that wait for the receiver, and how often a message was offered. -/
structure Channel (μ : Type) where
  capacity : Nat
  waiting : List μ
  offers : Nat

/-- What the receiver did since the offer before: it took some messages, and it may be gone. -/
structure Receiver where
  taken : Nat
  gone : Bool

namespace Channel

variable {μ : Type}

def create (capacity : Nat) : Channel μ := ⟨capacity, [], 0⟩

/-- `Sender::try_send`: refused where the receiver is gone or the channel is full. -/
def trySend (receiver : Nat → Receiver) (channel : Channel μ) (message : μ) : Bool × Channel μ :=
  let waiting := channel.waiting.drop (receiver channel.offers).taken
  if (receiver channel.offers).gone = false ∧ waiting.length < channel.capacity then
    (true, { channel with waiting := waiting ++ [message], offers := channel.offers + 1 })
  else (false, { channel with waiting, offers := channel.offers + 1 })

end Channel

end Rust
