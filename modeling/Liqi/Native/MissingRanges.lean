import Mathlib.Data.Finset.Card
import Liqi.Except
import Liqi.Native.SequenceDiff

/-!
# The missing ranges are exact

A list of ranges in order, none empty and no two adjacent, is determined by the numbers it covers. The kernel's ranges are
the list for the window without the observed sequences: after each sequence they cover what is missing before it, and
`next_missing` is where the next range would start.
-/

namespace Liqi.Native

open Beam

/-! ### Ranges -/

def Covered (ranges : List SequenceRange) (n : Nat) : Prop := ∃ range ∈ ranges, range.first ≤ n ∧ n ≤ range.last

/-- The ranges are in order, not empty and not adjacent. -/
structure Separated (ranges : List SequenceRange) : Prop where
  nonempty : ∀ range ∈ ranges, range.first ≤ range.last
  apart : ranges.Pairwise fun a b => a.last + 1 < b.first

section Ranges

variable {range other : SequenceRange} {ranges others : List SequenceRange} {n : Nat}

theorem covered_cons : Covered (range :: ranges) n ↔ range.first ≤ n ∧ n ≤ range.last ∨ Covered ranges n := by
  simp [Covered]

theorem covered_concat : Covered (ranges ++ [range]) n ↔ Covered ranges n ∨ range.first ≤ n ∧ n ≤ range.last := by
  simp [Covered, or_and_right, exists_or]

theorem Separated.tail (separated : Separated (range :: ranges)) : Separated ranges :=
  ⟨fun other member => separated.nonempty other (List.mem_cons_of_mem _ member), (List.pairwise_cons.1 separated.apart).2⟩

theorem Separated.above (separated : Separated (range :: ranges)) (covered : Covered ranges n) : range.last + 1 < n := by
  obtain ⟨other, member, first, _⟩ := covered
  have apart := (List.pairwise_cons.1 separated.apart).1 other member
  omega

theorem Separated.concat (separated : Separated ranges) (nonempty : range.first ≤ range.last)
    (below : ∀ n, Covered ranges n → n + 1 < range.first) : Separated (ranges ++ [range]) where
  nonempty other member := by
    rcases List.mem_append.1 member with before | here
    · exact separated.nonempty other before
    · rw [List.mem_singleton.1 here]
      exact nonempty
  apart := by
    refine List.pairwise_append.2 ⟨separated.apart, List.pairwise_singleton _ _, fun other member last here => ?_⟩
    rw [List.mem_singleton.1 here]
    exact below other.last ⟨other, member, separated.nonempty other member, Nat.le_refl _⟩

/-- What is covered by a first range and by nothing after it. -/
theorem Separated.covered_first (separated : Separated (range :: ranges)) (covered : Covered (range :: ranges) n) :
    range.first ≤ n := by
  have nonempty := separated.nonempty range List.mem_cons_self
  rcases covered_cons.1 covered with here | later
  · exact here.1
  · have above := separated.above later
    omega

theorem Separated.not_covered_after (separated : Separated (range :: ranges)) :
    ¬ Covered (range :: ranges) (range.last + 1) := by
  intro covered
  rcases covered_cons.1 covered with here | later
  · omega
  · have above := separated.above later
    omega

theorem Separated.covered_tail (separated : Separated (range :: ranges)) :
    Covered ranges n ↔ Covered (range :: ranges) n ∧ range.last < n := by
  refine ⟨fun later => ⟨covered_cons.2 (.inr later), ?_⟩, fun ⟨covered, after⟩ => ?_⟩
  · have above := separated.above later
    omega
  · rcases covered_cons.1 covered with here | later
    · omega
    · exact later

/-- The first ranges of two lists that cover the same numbers: neither ends before the other. -/
theorem Separated.last_le (separated : Separated (other :: others))
    (same : ∀ n, Covered (range :: ranges) n ↔ Covered (other :: others) n) (first : range.first = other.first) :
    range.last ≤ other.last := by
  by_contra longer
  have nonempty := separated.nonempty other List.mem_cons_self
  refine separated.not_covered_after ((same (other.last + 1)).1 (covered_cons.2 (.inl ?_)))
  omega

/-- **Ranges.** A separated list is determined by what it covers. -/
theorem Separated.unique (separated : Separated ranges) (separated' : Separated others)
    (same : ∀ n, Covered ranges n ↔ Covered others n) : ranges = others := by
  induction ranges generalizing others with
  | nil =>
    cases others with
    | nil => rfl
    | cons other others =>
      have covered : Covered (other :: others) other.first :=
        covered_cons.2 (.inl ⟨Nat.le_refl _, separated'.nonempty other List.mem_cons_self⟩)
      obtain ⟨_, member, _⟩ := (same _).2 covered
      cases member
  | cons range ranges ih =>
    have here : Covered (range :: ranges) range.first :=
      covered_cons.2 (.inl ⟨Nat.le_refl _, separated.nonempty range List.mem_cons_self⟩)
    cases others with
    | nil =>
      obtain ⟨_, member, _⟩ := (same _).1 here
      cases member
    | cons other others =>
      have there : Covered (other :: others) other.first :=
        covered_cons.2 (.inl ⟨Nat.le_refl _, separated'.nonempty other List.mem_cons_self⟩)
      have first : range.first = other.first := Nat.le_antisymm (separated.covered_first ((same _).2 there))
        (separated'.covered_first ((same _).1 here))
      have last : range.last = other.last := Nat.le_antisymm (separated'.last_le same first)
        (separated.last_le (fun n => (same n).symm) first.symm)
      have equal : range = other := by
        cases range
        cases other
        simp_all
      subst equal
      congr 1
      refine ih separated.tail separated'.tail fun n => ?_
      rw [separated.covered_tail, separated'.covered_tail, same]

end Ranges

/-! ### The scan -/

/-- The number up to which the window is decided: the one after the last sequence. -/
def decided (expectedFirst : Nat) (done : List Nat) : Nat := (done.getLast?.map (· + 1)).getD expectedFirst

/-- The variables of the loop after the sequences `done`. -/
structure Scanned (expectedFirst expectedLast : Nat) (done : List Nat) (loop : Core.Loop) : Prop where
  previous : loop.previous = done.getLast?
  next : loop.nextMissing = if decided expectedFirst done ≤ maxU64 then some (decided expectedFirst done) else none
  sorted : done.Pairwise (· ≤ ·)
  window : ∀ n ∈ done, expectedFirst ≤ n ∧ n ≤ expectedLast
  below : ∀ n ∈ done, n < decided expectedFirst done
  separated : Separated loop.missingRanges
  covered : ∀ n, Covered loop.missingRanges n ↔ expectedFirst ≤ n ∧ n < decided expectedFirst done ∧ n ∉ done
  gap : ∀ n, Covered loop.missingRanges n → n + 1 < decided expectedFirst done
  unique : loop.uniqueCount = done.toFinset.card
  counted : loop.uniqueCount + loop.duplicateCount = done.length

section Scan

variable {expectedFirst expectedLast sequence : Nat} {done : List Nat} {loop : Core.Loop}

@[simp] theorem decided_concat : decided expectedFirst (done ++ [sequence]) = sequence + 1 := by
  simp [decided]

theorem not_covered_nil (n : Nat) : ¬ Covered [] n := by
  rintro ⟨_, member, _⟩
  cases member

theorem scanned_start (small : expectedFirst ≤ maxU64) :
    Scanned expectedFirst expectedLast [] (Core.start expectedFirst) where
  previous := rfl
  next := (if_pos small).symm
  sorted := List.Pairwise.nil
  window := nofun
  below := nofun
  separated := ⟨nofun, List.Pairwise.nil⟩
  covered n := by
    refine ⟨fun covered => absurd covered (not_covered_nil n), fun ⟨above, under, _⟩ => ?_⟩
    have first : decided expectedFirst [] = expectedFirst := rfl
    omega
  gap n covered := absurd covered (not_covered_nil n)
  unique := rfl
  counted := rfl

theorem Scanned.first_le (scanned : Scanned expectedFirst expectedLast done loop) :
    expectedFirst ≤ decided expectedFirst done := by
  unfold decided
  rcases last : done.getLast? with _ | n
  · exact Nat.le_refl _
  · have window := scanned.window n (List.mem_of_getLast? last)
    simp only [Option.map_some, Option.getD_some]
    omega

/-- The next sequence is new if it is not below what is decided. -/
theorem Scanned.observe (scanned : Scanned expectedFirst expectedLast done loop)
    (inside : expectedFirst ≤ sequence ∧ sequence ≤ expectedLast) (small : expectedLast ≤ maxU64)
    (new : decided expectedFirst done ≤ sequence) (room : done.length < maxU64) :
    Scanned expectedFirst expectedLast (done ++ [sequence]) (loop.observe sequence) := by
  have absent : sequence ∉ done := fun member => by
    have below := scanned.below sequence member
    omega
  have next : loop.nextMissing = some (decided expectedFirst done) := by
    rw [scanned.next]
    exact if_pos (by omega)
  have ranges : (loop.observe sequence).missingRanges = if decided expectedFirst done < sequence then
      loop.missingRanges ++ [⟨decided expectedFirst done, sequence - 1⟩] else loop.missingRanges := by
    dsimp only [Core.Loop.observe]
    rw [next]
  have separated : Separated (loop.observe sequence).missingRanges := by
    rw [ranges]
    split_ifs with missing
    · exact scanned.separated.concat (by dsimp only; omega) scanned.gap
    · exact scanned.separated
  have covered : ∀ n, Covered (loop.observe sequence).missingRanges n ↔
      expectedFirst ≤ n ∧ n < sequence + 1 ∧ n ∉ done ++ [sequence] := by
    intro n
    have first : expectedFirst ≤ decided expectedFirst done := scanned.first_le
    have under : n ∈ done → n < decided expectedFirst done := scanned.below n
    rw [ranges, List.mem_append, List.mem_singleton]
    split_ifs with missing
    · rw [covered_concat, scanned.covered]
      by_cases member : n ∈ done
      · simp only [member, not_true_eq_false, and_false, false_or, true_or, iff_false, not_and]
        have := under member
        omega
      · simp only [member, not_false_eq_true, and_true, false_or]
        omega
    · rw [scanned.covered]
      by_cases member : n ∈ done
      · simp [member]
      · simp only [member, not_false_eq_true, and_true, false_or]
        omega
  have unique : Core.saturatingAdd loop.uniqueCount 1 = loop.uniqueCount + 1 := by
    have counted := scanned.counted
    exact saturatingAdd_one (by omega)
  constructor
  case previous => simp [Core.Loop.observe]
  case next => rw [decided_concat]; rfl
  case sorted =>
    refine List.pairwise_append.2 ⟨scanned.sorted, List.pairwise_singleton _ _, fun n member m here => ?_⟩
    have below := scanned.below n member
    rw [List.mem_singleton.1 here]
    omega
  case window =>
    intro n member
    rcases List.mem_append.1 member with before | here
    · exact scanned.window n before
    · rw [List.mem_singleton.1 here]
      exact inside
  case below =>
    intro n member
    rw [decided_concat]
    rcases List.mem_append.1 member with before | here
    · have below := scanned.below n before
      omega
    · rw [List.mem_singleton.1 here]
      exact Nat.lt_succ_self sequence
  case separated => exact separated
  case covered =>
    rw [decided_concat]
    exact covered
  case gap =>
    intro n here
    obtain ⟨_, under, other⟩ := (covered n).1 here
    have different : n ≠ sequence := fun same => other (by simp [same])
    rw [decided_concat]
    omega
  case unique =>
    have new : (done ++ [sequence]).toFinset = insert sequence done.toFinset := by
      ext n
      simp
    rw [new, Finset.card_insert_of_notMem (by simpa using absent), ← scanned.unique]
    exact unique
  case counted =>
    have counted := scanned.counted
    simp only [Core.Loop.observe, unique, List.length_append, List.length_singleton]
    omega

theorem Scanned.repeated (scanned : Scanned expectedFirst expectedLast done loop) (last : done.getLast? = some sequence)
    (room : done.length < maxU64) : Scanned expectedFirst expectedLast (done ++ [sequence])
      { loop with duplicateCount := Core.saturatingAdd loop.duplicateCount 1 } := by
  have member : sequence ∈ done := List.mem_of_getLast? last
  have same : decided expectedFirst (done ++ [sequence]) = decided expectedFirst done := by
    rw [decided_concat, decided, last]
    rfl
  have elements : ∀ n, n ∈ done ++ [sequence] ↔ n ∈ done := by
    intro n
    rw [List.mem_append, List.mem_singleton]
    exact ⟨fun either => either.elim id fun here => here ▸ member, .inl⟩
  have duplicate : Core.saturatingAdd loop.duplicateCount 1 = loop.duplicateCount + 1 := by
    have counted := scanned.counted
    exact saturatingAdd_one (by omega)
  constructor
  case previous =>
    rw [List.getLast?_concat, ← last]
    exact scanned.previous
  case next =>
    rw [same]
    exact scanned.next
  case sorted =>
    refine List.pairwise_append.2 ⟨scanned.sorted, List.pairwise_singleton _ _, fun n before m here => ?_⟩
    have below := scanned.below n before
    rw [decided, last] at below
    rw [List.mem_singleton.1 here]
    exact Nat.lt_succ_iff.1 below
  case window => exact fun n here => scanned.window n ((elements n).1 here)
  case below =>
    rw [same]
    exact fun n here => scanned.below n ((elements n).1 here)
  case separated => exact scanned.separated
  case covered =>
    intro n
    rw [same, elements]
    exact scanned.covered n
  case gap =>
    rw [same]
    exact scanned.gap
  case unique =>
    have set : (done ++ [sequence]).toFinset = done.toFinset := by
      ext n
      rw [List.mem_toFinset, List.mem_toFinset, elements]
    rw [set]
    exact scanned.unique
  case counted =>
    have counted := scanned.counted
    simp only [duplicate, List.length_append, List.length_singleton]
    omega

/-- The sequences are in order and inside the window. -/
structure Acceptable (expectedFirst expectedLast : Nat) (words : List Nat) : Prop where
  sorted : words.Pairwise (· ≤ ·)
  window : ∀ n ∈ words, expectedFirst ≤ n ∧ n ≤ expectedLast

theorem Scanned.acceptable (scanned : Scanned expectedFirst expectedLast done loop) :
    Acceptable expectedFirst expectedLast done :=
  ⟨scanned.sorted, scanned.window⟩

/-- The loop ends with all sequences scanned, or because they are not acceptable. -/
def ScanEnd (expectedFirst expectedLast : Nat) (words : List Nat) : Except Core.SequenceDiffError Core.Loop → Prop
  | .ok ended => Scanned expectedFirst expectedLast words ended
  | .error _ => ¬ Acceptable expectedFirst expectedLast words

/-- **Scan.** The loop goes through exactly the acceptable sequences. -/
theorem scan_spec (small : expectedLast ≤ maxU64) (index : Nat) (words : List Nat)
    (scanned : Scanned expectedFirst expectedLast done loop) (room : done.length + words.length ≤ maxU64) :
    ScanEnd expectedFirst expectedLast (done ++ words) (Core.scan expectedFirst expectedLast index words loop) := by
  induction words generalizing index done loop with
  | nil =>
    rw [List.append_nil]
    exact scanned
  | cons sequence rest ih =>
    rw [List.length_cons] at room
    have step : done ++ sequence :: rest = (done ++ [sequence]) ++ rest := by simp
    unfold Core.scan
    rw [step]
    by_cases outside : sequence < expectedFirst ∨ expectedLast < sequence
    · simp only [outside, if_true]
      intro acceptable
      have window := acceptable.window sequence (by simp)
      omega
    simp only [outside, if_false]
    have inside : expectedFirst ≤ sequence ∧ sequence ≤ expectedLast := by omega
    split
    next previous held =>
      have last : done.getLast? = some previous := scanned.previous.symm.trans held
      have limit : decided expectedFirst done = previous + 1 := by
        rw [decided, last]
        rfl
      split_ifs with before repeated
      · intro acceptable
        have ordered := (List.pairwise_append.1 (List.pairwise_append.1 acceptable.sorted).1).2.2 previous
          (List.mem_of_getLast? last) sequence (List.mem_singleton.2 rfl)
        omega
      · subst repeated
        exact ih (index + 1) (scanned.repeated last (by omega)) (by simp; omega)
      · exact ih (index + 1) (scanned.observe inside small (by omega) (by omega)) (by simp; omega)
    next held =>
      have new : decided expectedFirst done ≤ sequence := by
        rw [decided, scanned.previous.symm.trans held]
        exact inside.1
      exact ih (index + 1) (scanned.observe inside small new (by omega)) (by simp; omega)

/-- What is missing from the window, once all sequences are through. -/
theorem Scanned.finish (scanned : Scanned expectedFirst expectedLast done loop) (small : expectedLast ≤ maxU64)
    (ordered : expectedFirst ≤ expectedLast) (observedCount : Nat) :
    Separated (Core.finish expectedLast observedCount loop).missingRanges ∧
      ∀ n, Covered (Core.finish expectedLast observedCount loop).missingRanges n ↔
        expectedFirst ≤ n ∧ n ≤ expectedLast ∧ n ∉ done := by
  have limit : decided expectedFirst done ≤ expectedLast + 1 := by
    unfold decided
    rcases last : done.getLast? with _ | n
    · exact Nat.le_succ_of_le ordered
    · have window := scanned.window n (List.mem_of_getLast? last)
      exact Nat.succ_le_succ window.2
  have first := scanned.first_le
  have ranges : (Core.finish expectedLast observedCount loop).missingRanges =
      if decided expectedFirst done ≤ expectedLast then
        loop.missingRanges ++ [⟨decided expectedFirst done, expectedLast⟩]
      else loop.missingRanges := by
    dsimp only [Core.finish]
    rw [scanned.next]
    by_cases inside : decided expectedFirst done ≤ expectedLast
    · rw [if_pos (by omega)]
    · split_ifs <;> simp [inside]
  rw [ranges]
  split_ifs with open_
  · refine ⟨scanned.separated.concat open_ scanned.gap, fun n => ?_⟩
    have below := scanned.below n
    rw [covered_concat, scanned.covered]
    by_cases member : n ∈ done
    · simp only [member, not_true_eq_false, and_false, false_or, iff_false]
      have := below member
      omega
    · simp only [member, not_false_eq_true, and_true]
      omega
  · refine ⟨scanned.separated, fun n => ?_⟩
    rw [scanned.covered]
    constructor
    all_goals
      rintro ⟨above, under, absent⟩
      exact ⟨above, by omega, absent⟩

end Scan

/-! ### The kernel -/

/-- The inputs that the kernel takes. -/
structure Accepted (expectedFirst expectedLast : Nat) (observed : Binary) : Prop where
  ordered : expectedFirst ≤ expectedLast
  span : expectedLast - expectedFirst + 1 ≤ 65536
  bytes : observed.length ≤ 16384
  whole : 8 ∣ observed.length
  words : Acceptable expectedFirst expectedLast (words64 observed)

/-- The result says what is missing from the window, and counts the sequences. -/
structure ExactDiff (expectedFirst expectedLast : Nat) (observed : Binary) (diff : SequenceDiff) : Prop where
  separated : Separated diff.missingRanges
  covered : ∀ n, Covered diff.missingRanges n ↔ expectedFirst ≤ n ∧ n ≤ expectedLast ∧ n ∉ words64 observed
  unique : ∀ ranges, Separated ranges →
    (∀ n, Covered ranges n ↔ expectedFirst ≤ n ∧ n ≤ expectedLast ∧ n ∉ words64 observed) → ranges = diff.missingRanges
  few : diff.missingRanges.length ≤ 2049
  uniqueCount : diff.uniqueCount = (words64 observed).toFinset.card
  counted : diff.uniqueCount + diff.duplicateCount = diff.observedCount
  observedCount : diff.observedCount = observed.length / 8

section Kernel

variable {expectedFirst expectedLast : Nat} {observed : Binary}

theorem validateWindow_iff :
    Core.validateWindow expectedFirst expectedLast = .ok () ↔
      expectedFirst ≤ expectedLast ∧ expectedLast - expectedFirst + 1 ≤ 65536 := by
  unfold Core.validateWindow Core.saturatingAdd
  dsimp only
  have limit : maxWindowSpan = 65536 := rfl
  have u64 : maxU64 = 18446744073709551615 := rfl
  split_ifs with inverted wide
  · simp only [false_iff]
    omega
  · simp only [false_iff]
    omega
  · simp only [true_iff]
    omega

theorem validateInputBytes_iff :
    Core.validateInputBytes observed = .ok () ↔ observed.length ≤ 16384 ∧ 8 ∣ observed.length := by
  unfold Core.validateInputBytes
  have limit : maxInputBytes = 16384 := rfl
  split_ifs with long ragged
  · simp only [false_iff]
    omega
  · simp only [false_iff]
    omega
  · simp only [true_iff]
    omega

theorem room_of_bytes (short : observed.length ≤ 16384) : ([] : List Nat).length + (words64 observed).length ≤ maxU64 := by
  have u64 : maxU64 = 18446744073709551615 := rfl
  rw [length_words64, List.length_nil]
  omega

/-- A result comes from accepted inputs, through a scan of all sequences. -/
theorem compactSequenceDiff_ok (small : expectedFirst ≤ maxU64 ∧ expectedLast ≤ maxU64) {diff : SequenceDiff}
    (ran : Core.compactSequenceDiff expectedFirst expectedLast observed = .ok diff) :
    Accepted expectedFirst expectedLast observed ∧ ∃ loop,
      Scanned expectedFirst expectedLast (words64 observed) loop ∧
      diff = Core.finish expectedLast (observed.length / 8) loop ∧ diff.missingRanges.length ≤ maxOutputRanges := by
  obtain ⟨_, window, ran⟩ := bind_ok ran
  obtain ⟨_, input, ran⟩ := bind_ok ran
  obtain ⟨loop, looped, ran⟩ := bind_ok ran
  cases ran
  obtain ⟨ordered, span⟩ := validateWindow_iff.1 window
  obtain ⟨short, whole⟩ := validateInputBytes_iff.1 input
  have ended := scan_spec small.2 0 (words64 observed) (scanned_start small.1) (room_of_bytes short)
  rw [looped] at ended
  exact ⟨⟨ordered, span, short, whole, ended.acceptable⟩, loop, ended, rfl, Core.finish_few input looped⟩

theorem compactSequenceDiff_of_accepted (small : expectedFirst ≤ maxU64 ∧ expectedLast ≤ maxU64)
    (accepted : Accepted expectedFirst expectedLast observed) :
    ∃ diff, Core.compactSequenceDiff expectedFirst expectedLast observed = .ok diff := by
  have ended := scan_spec small.2 0 (words64 observed) (scanned_start small.1) (room_of_bytes accepted.bytes)
  unfold Core.compactSequenceDiff
  rw [validateWindow_iff.2 ⟨accepted.ordered, accepted.span⟩,
    validateInputBytes_iff.2 ⟨accepted.bytes, accepted.whole⟩]
  rcases looped : Core.scan expectedFirst expectedLast 0 (words64 observed) (Core.start expectedFirst) with failure | loop
  · rw [looped] at ended
    exact absurd accepted.words ended
  · exact ⟨_, rfl⟩

theorem exactDiff_of_scanned {loop : Core.Loop} (small : expectedLast ≤ maxU64)
    (accepted : Accepted expectedFirst expectedLast observed)
    (scanned : Scanned expectedFirst expectedLast (words64 observed) loop)
    (few : (Core.finish expectedLast (observed.length / 8) loop).missingRanges.length ≤ maxOutputRanges) :
    ExactDiff expectedFirst expectedLast observed (Core.finish expectedLast (observed.length / 8) loop) := by
  obtain ⟨separated, covered⟩ := scanned.finish small accepted.ordered (observed.length / 8)
  refine ⟨separated, covered, fun ranges separated' covered' => ?_, few, scanned.unique, ?_, rfl⟩
  · exact separated'.unique separated fun n => (covered' n).trans (covered n).symm
  · exact scanned.counted.trans (length_words64 observed)

/-- **The kernel.** It never panics, takes exactly the accepted inputs, and its result is exact. -/
theorem compact_sequence_diff_exact (expectedFirst expectedLast : UInt64) (observed : Binary) :
    ∃ outcome, Core.compactOrPanic expectedFirst.toNat expectedLast.toNat observed = some outcome ∧
      ((∃ diff, outcome = .ok diff) ↔ Accepted expectedFirst.toNat expectedLast.toNat observed) ∧
      ∀ diff, outcome = .ok diff → ExactDiff expectedFirst.toNat expectedLast.toNat observed diff := by
  have first := expectedFirst.toNat_lt
  have last := expectedLast.toNat_lt
  have u64 : maxU64 = 2 ^ 64 - 1 := rfl
  have small : expectedFirst.toNat ≤ maxU64 ∧ expectedLast.toNat ≤ maxU64 := by omega
  refine ⟨_, Core.compactOrPanic_eq observed, ⟨fun ⟨diff, ran⟩ => (compactSequenceDiff_ok small ran).1,
    compactSequenceDiff_of_accepted small⟩, fun diff ran => ?_⟩
  obtain ⟨accepted, loop, scanned, rfl, few⟩ := compactSequenceDiff_ok small ran
  exact exactDiff_of_scanned small.2 accepted scanned few

end Kernel

end Liqi.Native
