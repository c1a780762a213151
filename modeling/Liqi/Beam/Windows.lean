import Mathlib.Data.List.Range
import Mathlib.Data.Nat.Find

/-!
# Reading a numbered log window by window

A reader of a log with the ids up to `last` sees the `width` ids after its cursor and moves the cursor to the
last `relevant` one among them; if there is none, it stays where it is. `covers_iff` says when this reader
gets past every relevant id: no two neighbouring relevant ids are more than `width` apart.
-/

namespace Beam

variable (relevant : Nat → Bool) (last width : Nat)

/-- The relevant ids of the window after a cursor. -/
def window (cursor : Nat) : List Nat :=
  (List.range' (cursor + 1) (min (cursor + width) last - cursor)).filter relevant

/-- The cursor after one window. -/
def advance (cursor : Nat) : Nat := (window relevant last width cursor).getLast?.getD cursor

/-- The cursor after some windows. -/
def cursorAt (start : Nat) : Nat → Nat
  | 0 => start
  | n + 1 => advance relevant last width (cursorAt start n)

variable {cursor start id : Nat}

theorem mem_window : id ∈ window relevant last width cursor
    ↔ relevant id = true ∧ cursor < id ∧ id ≤ cursor + width ∧ id ≤ last := by
  rw [window, List.mem_filter, List.mem_range'_1]
  constructor
  · rintro ⟨inside, matching⟩
    exact ⟨matching, by omega, by omega, by omega⟩
  · rintro ⟨matching, above, within, stored⟩
    exact ⟨by omega, matching⟩

theorem window_pairwise : (window relevant last width cursor).Pairwise (· < ·) :=
  List.Pairwise.filter _ (List.pairwise_lt_range' ..)

/-- The cursor stays, or moves to the last id of the window. -/
theorem advance_cases (cursor : Nat) :
    (window relevant last width cursor = [] ∧ advance relevant last width cursor = cursor)
      ∨ advance relevant last width cursor ∈ window relevant last width cursor := by
  unfold advance
  rcases found : (window relevant last width cursor).getLast? with _ | top
  · exact .inl ⟨List.getLast?_eq_none_iff.1 found, rfl⟩
  · exact .inr (List.mem_of_getLast? found)

theorem le_advance (cursor : Nat) : cursor ≤ advance relevant last width cursor := by
  rcases advance_cases relevant last width cursor with ⟨_, same⟩ | member
  · omega
  · have := (mem_window relevant last width).1 member
    omega

theorem le_advance_of_mem (member : id ∈ window relevant last width cursor) :
    id ≤ advance relevant last width cursor := by
  unfold advance
  rcases found : (window relevant last width cursor).getLast? with _ | top
  · rw [List.getLast?_eq_none_iff.1 found] at member
    cases member
  · obtain ⟨earlier, split⟩ := List.getLast?_eq_some_iff.1 found
    have sorted : (window relevant last width cursor).Pairwise (· < ·) := window_pairwise relevant last width
    rw [split] at member sorted
    rcases List.mem_append.1 member with before | final
    · exact Nat.le_of_lt ((List.pairwise_append.1 sorted).2.2 id before top List.mem_cons_self)
    · exact Nat.le_of_eq (List.mem_singleton.1 final)

/-- A relevant id that the cursor passes is in the window. -/
theorem mem_window_of_le_advance (matching : relevant id = true) (above : cursor < id) (stored : id ≤ last)
    (passed : id ≤ advance relevant last width cursor) : id ∈ window relevant last width cursor := by
  refine (mem_window relevant last width).2 ⟨matching, above, ?_, stored⟩
  rcases advance_cases relevant last width cursor with ⟨_, same⟩ | member
  · omega
  · have inside := (mem_window relevant last width).1 member
    omega

theorem cursorAt_mono {m n : Nat} (le : m ≤ n) :
    cursorAt relevant last width start m ≤ cursorAt relevant last width start n := by
  induction le with
  | refl => exact Nat.le_refl _
  | step _ ih => exact Nat.le_trans ih (le_advance relevant last width _)

/-- The cursor is at the start or at a relevant id beyond it. -/
theorem cursorAt_cases (n : Nat) : cursorAt relevant last width start n = start
    ∨ (relevant (cursorAt relevant last width start n) = true ∧ start < cursorAt relevant last width start n
      ∧ cursorAt relevant last width start n ≤ last) := by
  induction n with
  | zero => exact .inl rfl
  | succ n ih =>
    show advance relevant last width (cursorAt relevant last width start n) = start ∨ _
    rcases advance_cases relevant last width (cursorAt relevant last width start n) with ⟨_, same⟩ | member
    · rw [cursorAt, same]
      exact ih
    · have inside := (mem_window relevant last width).1 member
      have above : start ≤ cursorAt relevant last width start n := cursorAt_mono relevant last width (Nat.zero_le n)
      exact .inr ⟨inside.1, by rw [cursorAt]; omega, inside.2.2.2⟩

/-- No relevant id is more than `width` beyond the start or an earlier relevant id. -/
def Spaced (start : Nat) : Prop :=
  ∀ id, relevant id = true → start < id → id ≤ last →
    ∃ earlier, (earlier = start ∨ relevant earlier = true ∧ start < earlier) ∧ earlier < id ∧ id ≤ earlier + width

/-- The cursor is past every relevant id beyond the start. -/
def Covered (start cursor : Nat) : Prop :=
  ∀ id, relevant id = true → start < id → id ≤ last → id ≤ cursor

variable {relevant last width}

/-- While a relevant id is left, the next window has one. -/
theorem Spaced.progress {n : Nat} (spaced : Spaced relevant last width start)
    (left : ¬ Covered relevant last start (cursorAt relevant last width start n)) :
    cursorAt relevant last width start n < cursorAt relevant last width start (n + 1) := by
  have above : start ≤ cursorAt relevant last width start n := cursorAt_mono relevant last width (Nat.zero_le n)
  have missed : ∃ id, relevant id = true ∧ cursorAt relevant last width start n < id ∧ id ≤ last := by
    simp only [Covered, not_forall, Nat.not_le] at left
    obtain ⟨id, matching, _, stored, beyond⟩ := left
    exact ⟨id, matching, beyond, stored⟩
  -- The first one beyond the cursor is near an id that the cursor has reached.
  have first := Nat.find_spec missed
  have least := fun {m} => Nat.find_min missed (m := m)
  obtain ⟨earlier, origin, before, near⟩ := spaced _ first.1 (by omega) first.2.2
  have reached : earlier ≤ cursorAt relevant last width start n := by
    rcases origin with rfl | ⟨matching, _⟩
    · exact above
    · by_contra beyond
      exact least before ⟨matching, by omega, by omega⟩
  have member : Nat.find missed ∈ window relevant last width (cursorAt relevant last width start n) :=
    (mem_window relevant last width).2 ⟨first.1, first.2.1, by omega, first.2.2⟩
  exact Nat.lt_of_lt_of_le first.2.1 (le_advance_of_mem relevant last width member)

theorem Spaced.covers (spaced : Spaced relevant last width start) :
    ∃ n, Covered relevant last start (cursorAt relevant last width start n) := by
  have progress : ∀ n, Covered relevant last start (cursorAt relevant last width start n)
      ∨ start + n ≤ cursorAt relevant last width start n := by
    intro n
    induction n with
    | zero => exact .inr (Nat.le_refl _)
    | succ n ih =>
      by_cases covered : Covered relevant last start (cursorAt relevant last width start n)
      · refine .inl fun id matching above stored => (covered id matching above stored).trans ?_
        exact cursorAt_mono relevant last width (Nat.le_succ n)
      · have moved := spaced.progress covered
        have := ih.resolve_left covered
        exact .inr (by omega)
  rcases progress last with covered | far
  · exact ⟨last, covered⟩
  · exact ⟨last, fun id _ above stored => by omega⟩

/-- Each relevant id that the cursor passed was in a window. -/
theorem mem_window_of_passed {n : Nat} (matching : relevant id = true) (above : start < id) (stored : id ≤ last)
    (passed : id ≤ cursorAt relevant last width start n) :
    ∃ m, m < n ∧ id ∈ window relevant last width (cursorAt relevant last width start m) := by
  induction n with
  | zero => exact absurd passed (Nat.not_le.2 above)
  | succ n ih =>
    by_cases earlier : id ≤ cursorAt relevant last width start n
    · obtain ⟨m, before, member⟩ := ih earlier
      exact ⟨m, Nat.lt_succ_of_lt before, member⟩
    · exact ⟨n, Nat.lt_succ_self n, mem_window_of_le_advance relevant last width matching (by omega) stored passed⟩

/-- **Coverage.** The reader gets past every relevant id exactly if they are spaced by at most its width. -/
theorem covers_iff : (∃ n, Covered relevant last start (cursorAt relevant last width start n))
    ↔ Spaced relevant last width start := by
  constructor
  · rintro ⟨n, covered⟩ id matching above stored
    obtain ⟨m, _, member⟩ := mem_window_of_passed matching above stored (covered id matching above stored)
    have inside := (mem_window relevant last width).1 member
    refine ⟨cursorAt relevant last width start m, ?_, inside.2.1, inside.2.2.1⟩
    exact (cursorAt_cases relevant last width m).imp_right fun found => ⟨found.1, found.2.1⟩
  · exact fun spaced => spaced.covers

end Beam
