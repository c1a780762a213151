import Mathlib.Computability.RegularExpressions

/-!
# Patterns of texts

The constructs of a pattern that Mathlib's regular expressions lack: a class of characters, `P+`, a literal, and lists
with a separator. For each of them a rule says which texts match.
-/

namespace Pattern

open RegularExpression

/-- The characters from `low` to `high`. -/
def between (low high : Char) : List Char := (List.range' low.toNat (high.toNat + 1 - low.toNat)).map Char.ofNat

/-- `[...]`. -/
def oneOf (chars : List Char) : RegularExpression Char := (chars.map char).foldr (· + ·) 0

/-- `P+`. -/
def oneOrMore (P : RegularExpression Char) : RegularExpression Char := P * P.star

def literal (text : String) : RegularExpression Char := (text.toList.map char).foldr (· * ·) 1

/-- `P(sP)+`. -/
def separated (separator : Char) (P : RegularExpression Char) : RegularExpression Char :=
  P * oneOrMore (char separator * P)

variable {P Q : RegularExpression Char} {cs : List Char}

theorem mem_mul : cs ∈ (P * Q).matches' ↔ ∃ front back, front ∈ P.matches' ∧ back ∈ Q.matches' ∧ cs = front ++ back := by
  rw [matches'_mul, Language.mem_mul]
  constructor
  · rintro ⟨front, first, back, second, rfl⟩
    exact ⟨front, back, first, second, rfl⟩
  · rintro ⟨front, back, first, second, rfl⟩
    exact ⟨front, first, back, second, rfl⟩

theorem mem_char {c : Char} : cs ∈ (char c).matches' ↔ cs = [c] := by
  rw [matches'_char]
  rfl

/-- The class of a range below the surrogates. -/
theorem mem_between {low high c : Char} (plain : high.toNat < 0xd800) :
    c ∈ between low high ↔ low.toNat ≤ c.toNat ∧ c.toNat ≤ high.toNat := by
  simp only [between, List.mem_map, List.mem_range'_1]
  constructor
  · rintro ⟨n, bounds, rfl⟩
    have valid : n.isValidChar := .inl (by omega)
    have read : (Char.ofNat n).toNat = n := by
      rw [Char.ofNat, dif_pos valid]
      rfl
    omega
  · intro bounds
    exact ⟨c.toNat, by omega, Char.ofNat_toNat c⟩

theorem mem_oneOf {chars : List Char} : cs ∈ (oneOf chars).matches' ↔ ∃ c ∈ chars, cs = [c] := by
  induction chars with
  | nil =>
    refine iff_of_false ?_ nofun
    exact id
  | cons c chars ih =>
    have unfolded : (oneOf (c :: chars)).matches' = (char c).matches' + (oneOf chars).matches' := rfl
    rw [unfolded, Language.mem_add, mem_char, ih]
    simp

theorem mem_literal {text : String} : cs ∈ (literal text).matches' ↔ cs = text.toList := by
  unfold literal
  induction text.toList generalizing cs with
  | nil => exact Iff.rfl
  | cons c rest ih =>
    rw [List.map_cons, List.foldr_cons, mem_mul]
    constructor
    · rintro ⟨front, back, first, second, rfl⟩
      rw [mem_char.1 first, ih.1 second, List.singleton_append]
    · rintro rfl
      exact ⟨[c], rest, mem_char.2 rfl, ih.2 rfl, rfl⟩

theorem mem_star : cs ∈ P.star.matches' ↔
    ∃ parts : List (List Char), cs = parts.flatten ∧ ∀ part ∈ parts, part ∈ P.matches' := by
  rw [matches'_star, Language.mem_kstar]

theorem mem_oneOrMore :
    cs ∈ (oneOrMore P).matches' ↔
      ∃ parts : List (List Char), parts ≠ [] ∧ cs = parts.flatten ∧ ∀ part ∈ parts, part ∈ P.matches' := by
  rw [oneOrMore, mem_mul]
  constructor
  · rintro ⟨front, back, first, rest, rfl⟩
    obtain ⟨parts, rfl, all⟩ := mem_star.1 rest
    exact ⟨front :: parts, List.cons_ne_nil _ _, rfl, List.forall_mem_cons.2 ⟨first, all⟩⟩
  · rintro ⟨parts, some, rfl, all⟩
    cases parts with
    | nil => exact absurd rfl some
    | cons front parts =>
      obtain ⟨first, rest⟩ := List.forall_mem_cons.1 all
      exact ⟨front, parts.flatten, first, mem_star.2 ⟨parts, rfl, rest⟩, rfl⟩

/-- A repeated class. -/
theorem mem_star_oneOf {chars : List Char} : cs ∈ (oneOf chars).star.matches' ↔ ∀ c ∈ cs, c ∈ chars := by
  rw [mem_star]
  constructor
  · rintro ⟨parts, rfl, all⟩ c mem
    obtain ⟨part, listed, mem⟩ := List.mem_flatten.1 mem
    obtain ⟨d, allowed, rfl⟩ := mem_oneOf.1 (all part listed)
    rwa [List.mem_singleton.1 mem]
  · intro allowed
    refine ⟨cs.map fun c => [c], ?_, ?_⟩
    · rw [← List.flatMap_def, List.flatMap_singleton']
    · intro part listed
      obtain ⟨c, mem, rfl⟩ := List.mem_map.1 listed
      exact mem_oneOf.2 ⟨c, allowed c mem, rfl⟩

theorem mem_oneOrMore_oneOf {chars : List Char} :
    cs ∈ (oneOrMore (oneOf chars)).matches' ↔ cs ≠ [] ∧ ∀ c ∈ cs, c ∈ chars := by
  rw [oneOrMore, mem_mul]
  constructor
  · rintro ⟨front, back, first, rest, rfl⟩
    obtain ⟨c, allowed, rfl⟩ := mem_oneOf.1 first
    exact ⟨by simp, List.forall_mem_cons.2 ⟨allowed, mem_star_oneOf.1 rest⟩⟩
  · rintro ⟨some, all⟩
    cases cs with
    | nil => exact absurd rfl some
    | cons c cs =>
      obtain ⟨allowed, rest⟩ := List.forall_mem_cons.1 all
      exact ⟨[c], cs, mem_oneOf.2 ⟨c, allowed, rfl⟩, mem_star_oneOf.2 rest, rfl⟩

theorem intercalate_cons (separator : Char) (first : List Char) (rest : List (List Char)) :
    [separator].intercalate (first :: rest) = first ++ (rest.map (separator :: ·)).flatten := by
  induction rest generalizing first with
  | nil => simp
  | cons second rest ih =>
    rw [List.intercalate_cons_cons, ih]
    simp

/-- A list of two or more texts with a separator. -/
theorem mem_separated {separator : Char} :
    cs ∈ (separated separator P).matches' ↔
      ∃ first rest, rest ≠ [] ∧ first ∈ P.matches' ∧ (∀ part ∈ rest, part ∈ P.matches') ∧
        cs = [separator].intercalate (first :: rest) := by
  have part_iff {part : List Char} :
      part ∈ (char separator * P).matches' ↔ ∃ tail ∈ P.matches', part = separator :: tail := by
    rw [mem_mul]
    constructor
    · rintro ⟨front, back, first, second, rfl⟩
      rw [mem_char.1 first]
      exact ⟨back, second, rfl⟩
    · rintro ⟨tail, mem, rfl⟩
      exact ⟨[separator], tail, mem_char.2 rfl, mem, rfl⟩
  rw [separated, mem_mul]
  constructor
  · rintro ⟨first, back, mem, more, rfl⟩
    obtain ⟨parts, some, rfl, all⟩ := mem_oneOrMore.1 more
    choose! tail matching same using fun part listed => part_iff.1 (all part listed)
    refine ⟨first, parts.map tail, by simpa using some, mem, ?_, ?_⟩
    · intro part listed
      obtain ⟨whole, within, rfl⟩ := List.mem_map.1 listed
      exact matching whole within
    · have parts_eq : (parts.map tail).map (separator :: ·) = parts := by
        rw [List.map_map]
        exact (List.map_congr_left fun part listed => (same part listed).symm).trans (List.map_id parts)
      rw [intercalate_cons, parts_eq]
  · rintro ⟨first, rest, some, mem, all, rfl⟩
    refine ⟨first, _, mem, mem_oneOrMore.2 ⟨rest.map (separator :: ·), by simpa using some, rfl, ?_⟩,
      intercalate_cons separator first rest⟩
    intro part listed
    obtain ⟨tail, within, rfl⟩ := List.mem_map.1 listed
    exact part_iff.2 ⟨tail, all tail within, rfl⟩

end Pattern
