import Mathlib.Algebra.Group.Nat.Defs
import Mathlib.Data.List.Basic
import Mathlib.Data.Nat.Basic

/-!
# Binaries

A binary is a list of bytes. `bigEndian` writes an unsigned integer of a fixed width and `words64` reads a
binary as 64-bit words, as the pattern `<<word::unsigned-big-integer-size(64), rest::binary>>` does.
-/

namespace Beam

abbrev Binary := List (Fin 256)

/-- The `width` bytes of an unsigned integer, most significant first. -/
def bigEndian : Nat → Nat → Binary
  | 0, _ => []
  | width + 1, n => bigEndian width (n / 256) ++ [⟨n % 256, Nat.mod_lt n (by omega)⟩]

/-- The unsigned integer that the bytes write. -/
def ofBigEndian (bytes : Binary) : Nat := bytes.foldl (fun n byte => n * 256 + byte) 0

/-- The 64-bit words of a binary; a rest of less than eight bytes is left out. -/
def words64 : Binary → List Nat
  | a :: b :: c :: d :: e :: f :: g :: h :: rest => ofBigEndian [a, b, c, d, e, f, g, h] :: words64 rest
  | _ => []

@[simp] theorem length_bigEndian (width n : Nat) : (bigEndian width n).length = width := by
  induction width generalizing n with
  | zero => rfl
  | succ width ih => simp [bigEndian, ih]

theorem ofBigEndian_concat (bytes : Binary) (byte : Fin 256) :
    ofBigEndian (bytes ++ [byte]) = ofBigEndian bytes * 256 + byte := by
  simp [ofBigEndian, List.foldl_append]

/-- Reading back what was written. -/
theorem ofBigEndian_bigEndian {width n : Nat} (fits : n < 256 ^ width) : ofBigEndian (bigEndian width n) = n := by
  induction width generalizing n with
  | zero => simp [bigEndian, ofBigEndian] at *; omega
  | succ width ih =>
    have high : n / 256 < 256 ^ width := by
      rw [Nat.div_lt_iff_lt_mul (by omega), ← Nat.pow_succ]
      exact fits
    rw [bigEndian, ofBigEndian_concat, ih high]
    dsimp only
    omega

theorem words64_append {word rest : Binary} (full : word.length = 8) :
    words64 (word ++ rest) = ofBigEndian word :: words64 rest := by
  match word, full with
  | [a, b, c, d, e, f, g, h], _ => rfl

theorem length_words64 (bytes : Binary) : (words64 bytes).length = bytes.length / 8 := by
  fun_induction words64 bytes with
  | case1 a b c d e f g h rest ih =>
    simp only [List.length_cons, ih]
    omega
  | case2 bytes short =>
    match bytes, short with
    | [], _ | [_], _ | [_, _], _ | [_, _, _], _ | [_, _, _, _], _ | [_, _, _, _, _], _ | [_, _, _, _, _, _], _
    | [_, _, _, _, _, _, _], _ => simp
    | a :: b :: c :: d :: e :: f :: g :: h :: rest, short => exact absurd rfl (short a b c d e f g h rest)

/-- The words of a binary made of 64-bit integers are these integers. -/
theorem words64_bigEndian {numbers : List Nat} (fit : ∀ n ∈ numbers, n < 2 ^ 64) :
    words64 (numbers.flatMap (bigEndian 8)) = numbers := by
  induction numbers with
  | nil => rfl
  | cons n numbers ih =>
    have fits : n < 256 ^ 8 := fit n List.mem_cons_self
    rw [List.flatMap_cons, words64_append (length_bigEndian 8 n), ofBigEndian_bigEndian fits,
      ih fun m member => fit m (List.mem_cons_of_mem n member)]

theorem length_bigEndian_flatMap (numbers : List Nat) : (numbers.flatMap (bigEndian 8)).length = 8 * numbers.length := by
  induction numbers with
  | nil => rfl
  | cons n numbers ih =>
    rw [List.flatMap_cons, List.length_append, ih, length_bigEndian, List.length_cons]
    omega

end Beam
