import Mathlib.Data.List.Nodup

/-!
# A bounded memory of recent elements

The elements of a list in the order they were remembered, oldest first; at most `limit` of them, the oldest
is forgotten first.
-/

namespace Beam

variable {α : Type} {limit : Nat} {seen recent : List α} {a : α}

/-- The memory with one more element. -/
def remember (limit : Nat) (seen : List α) (a : α) : List α :=
  if limit < seen.length + 1 then (seen ++ [a]).tail else seen ++ [a]

theorem length_remember (bounded : seen.length ≤ limit) : (remember limit seen a).length ≤ limit := by
  unfold remember
  split
  · simp only [List.length_tail, List.length_append, List.length_singleton]
    omega
  · simp only [List.length_append, List.length_singleton]
    omega

theorem remember_suffix : remember limit seen a <:+ seen ++ [a] := by
  unfold remember
  split
  · exact List.tail_suffix _
  · exact List.suffix_rfl

theorem nodup_remember (nodup : seen.Nodup) (fresh : a ∉ seen) : (remember limit seen a).Nodup := by
  refine remember_suffix.sublist.nodup (List.Nodup.append nodup (List.nodup_singleton a) ?_)
  simpa using fresh

/-- The last elements stay, as long as there are fewer than `limit` of them. -/
theorem suffix_remember (latest : recent <:+ seen) (short : recent.length < limit) :
    recent ++ [a] <:+ remember limit seen a := by
  have appended : recent ++ [a] <:+ seen ++ [a] := by
    obtain ⟨older, rfl⟩ := latest
    exact ⟨older, by simp⟩
  unfold remember
  split
  next full =>
    refine List.suffix_of_suffix_length_le appended (List.tail_suffix _) ?_
    simp only [List.length_tail, List.length_append, List.length_singleton]
    omega
  next => exact appended

end Beam
