import Mathlib.Data.List.Sort

/-!
# Tables with a primary key

A table is its rows together with the proof that the primary key separates them, so a duplicate
key cannot be stored. `get?` is the lookup by key, and every operation is described by what it does
to `get?`: the proofs above this file never look at the order of the rows.
-/

namespace Postgres

/-- Rows of type `ρ` whose primary key is `key`. -/
structure Table {κ ρ : Type} (key : ρ → κ) where
  rows : List ρ
  unique : (rows.map key).Nodup

namespace Table

variable {κ ρ : Type} {key : ρ → κ}

def empty : Table key := ⟨[], by simp⟩

instance : Membership ρ (Table key) := ⟨fun t r => r ∈ t.rows⟩

instance [DecidableEq ρ] : DecidableEq (Table key) := fun s t =>
  decidable_of_iff (s.rows = t.rows) ⟨fun h => by cases s; cases t; cases h; rfl, fun h => by rw [h]⟩

variable {t : Table key}

theorem mem_def {r : ρ} : r ∈ t ↔ r ∈ t.rows := Iff.rfl

@[simp] theorem not_mem_empty (r : ρ) : ¬ r ∈ (empty : Table key) := List.not_mem_nil

theorem forall_empty {P : ρ → Prop} : ∀ r ∈ (empty : Table key), P r := fun r stored => absurd stored (not_mem_empty r)

@[ext] theorem ext {s t : Table key} (h : s.rows = t.rows) : s = t := by
  cases s; cases t; cases h; rfl

/-- Two rows with one key are one row. -/
theorem eq_of_key {r s : ρ} (hr : r ∈ t) (hs : s ∈ t) (h : key r = key s) : r = s :=
  List.inj_on_of_nodup_map t.unique hr hs h

theorem nodup (t : Table key) : t.rows.Nodup := List.Nodup.of_map key t.unique

/-- `UPDATE ... WHERE`, by a function that keeps the key. -/
def update (t : Table key) (p : ρ → Bool) (f : ρ → ρ) (hf : ∀ r, key (f r) = key r) : Table key :=
  ⟨t.rows.map fun r => if p r then f r else r, by
    have same : (t.rows.map fun r => if p r then f r else r).map key = t.rows.map key := by
      rw [List.map_map]
      apply List.map_congr_left
      intro r _
      simp only [Function.comp]
      split
      · exact hf r
      · rfl
    rw [same]
    exact t.unique⟩

variable {p : ρ → Bool}

theorem mem_update {f : ρ → ρ} {hf : ∀ r, key (f r) = key r} {s : ρ} :
    s ∈ t.update p f hf ↔ ∃ r ∈ t, s = if p r then f r else r := by
  rw [mem_def]
  simp only [update, List.mem_map]
  exact ⟨fun ⟨r, hr, h⟩ => ⟨r, hr, h.symm⟩, fun ⟨r, hr, h⟩ => ⟨r, hr, h.symm⟩⟩

/-- An update whose condition no row meets. -/
theorem update_of_none {f : ρ → ρ} {hf : ∀ r, key (f r) = key r} (h : ∀ r ∈ t, p r = false) :
    t.update p f hf = t := by
  apply ext
  simp only [update]
  conv_rhs => rw [← List.map_id t.rows]
  exact List.map_congr_left fun r hr => by simp [h r hr]

/-- `DELETE ... WHERE`. -/
def delete (t : Table key) (p : ρ → Bool) : Table key :=
  ⟨t.rows.filter fun r => !p r, List.Nodup.sublist (List.Sublist.map key List.filter_sublist) t.unique⟩

theorem mem_delete {r : ρ} : r ∈ t.delete p ↔ r ∈ t ∧ p r = false := by
  simp [mem_def, delete]

theorem delete_of_none (h : ∀ r ∈ t, p r = false) : t.delete p = t := by
  apply ext
  exact List.filter_eq_self.2 fun r hr => by simp [h r hr]

section Lookup

variable [DecidableEq κ]

/-- The row with primary key `k`. -/
def get? (t : Table key) (k : κ) : Option ρ := t.rows.find? fun r => key r = k

variable {t : Table key} {r : ρ}

theorem get?_eq_some {k : κ} : t.get? k = some r ↔ r ∈ t ∧ key r = k := by
  constructor
  · intro h
    exact ⟨List.mem_of_find?_eq_some h, by simpa using List.find?_some h⟩
  · rintro ⟨hr, rfl⟩
    obtain ⟨s, found⟩ : ∃ s, t.get? (key r) = some s :=
      Option.isSome_iff_exists.1 (List.find?_isSome.2 ⟨r, hr, by simp⟩)
    have same : key s = key r := by simpa using List.find?_some found
    rw [found, eq_of_key (List.mem_of_find?_eq_some found) hr same]

theorem get?_eq_none {k : κ} : t.get? k = none ↔ ∀ r ∈ t, key r ≠ k := by
  constructor
  · intro h r hr
    have := List.find?_eq_none.1 h r hr
    simpa using this
  · intro h
    exact List.find?_eq_none.2 fun r hr => by simpa using h r hr

theorem get?_self (h : r ∈ t) : t.get? (key r) = some r :=
  get?_eq_some.2 ⟨h, rfl⟩

theorem get?_delete_of_kept {p : ρ → Bool} {k : κ} (kept : ∀ r ∈ t, key r = k → p r = false) :
    (t.delete p).get? k = t.get? k := by
  cases found : t.get? k with
  | none =>
    exact get?_eq_none.2 fun r stored => get?_eq_none.1 found r (mem_delete.1 stored).1
  | some r =>
    obtain ⟨stored, at_key⟩ := get?_eq_some.1 found
    exact get?_eq_some.2 ⟨mem_delete.2 ⟨stored, kept r stored at_key⟩, at_key⟩

@[simp] theorem get?_empty (k : κ) : (empty : Table key).get? k = none := rfl

/-- `INSERT`, once the caller has found no row with this key; a present key is kept as it is. -/
def insert (t : Table key) (r : ρ) : Table key :=
  if h : t.get? (key r) = none then
    ⟨t.rows ++ [r], by
      rw [List.map_append, List.nodup_append]
      refine ⟨t.unique, by simp, ?_⟩
      intro k hk l hl
      obtain ⟨s, hs, rfl⟩ := List.mem_map.1 hk
      have : l = key r := by simpa using hl
      exact this ▸ get?_eq_none.1 h s hs⟩
  else t

theorem insert_rows (h : t.get? (key r) = none) :
    (t.insert r).rows = t.rows ++ [r] := by
  simp [insert, h]

theorem mem_insert {s : ρ} (h : t.get? (key r) = none) :
    s ∈ t.insert r ↔ s ∈ t ∨ s = r := by
  rw [mem_def, insert_rows h]
  simp [mem_def]

theorem get?_insert (h : t.get? (key r) = none) (k : κ) :
    (t.insert r).get? k = if k = key r then some r else t.get? k := by
  unfold get?
  rw [insert_rows h, List.find?_append]
  split
  · rename_i hk
    subst hk
    have : t.rows.find? (fun s => key s = key r) = none := h
    simp [this]
  · rename_i hk
    have : key r ≠ k := fun e => hk e.symm
    simp [this]

/-- Whether a present key is kept or a new one added, the key is there afterwards. -/
theorem isSome_get?_insert (r : ρ) (k : κ) :
    ((t.insert r).get? k).isSome ↔ k = key r ∨ (t.get? k).isSome := by
  by_cases h : t.get? (key r) = none
  · rw [get?_insert h]
    split <;> simp [*]
  · rw [show t.insert r = t by simp [insert, h]]
    constructor
    · exact .inr
    · rintro (rfl | present)
      · exact Option.isSome_iff_ne_none.2 h
      · exact present

theorem insert_of_present (h : (t.get? (key r)).isSome) : t.insert r = t := by
  simp [insert, Option.isSome_iff_ne_none.1 h]

/-- A row with another key leaves a key absent. -/
theorem get?_insert_of_ne {k : κ} (absent : t.get? k = none) (ne : key r ≠ k) :
    (t.insert r).get? k = none := by
  by_cases present : (t.get? (key r)).isSome
  · rwa [insert_of_present present]
  · rw [get?_insert (by simpa using present), if_neg (Ne.symm ne)]
    exact absent

/-- Inserting loses no row. -/
theorem mem_insert_of_mem {s : ρ} (h : s ∈ t) : s ∈ t.insert r := by
  by_cases present : t.get? (key r) = none
  · exact (mem_insert present).2 (.inl h)
  · rw [insert_of_present (Option.isSome_iff_ne_none.2 present)]
    exact h

/-- Inserting adds no other row. -/
theorem mem_of_mem_insert {s : ρ} (h : s ∈ t.insert r) : s ∈ t ∨ s = r := by
  by_cases present : t.get? (key r) = none
  · exact (mem_insert present).1 h
  · rw [insert_of_present (Option.isSome_iff_ne_none.2 present)] at h
    exact .inl h

/-- Several rows, none of whose keys is present or repeated. -/
def insertAll (t : Table key) (rs : List ρ) : Table key := rs.foldl insert t

theorem mem_insertAll {rs : List ρ} : ∀ {t : Table key}, (∀ r ∈ rs, t.get? (key r) = none) →
    (rs.map key).Nodup → ∀ {s : ρ}, s ∈ t.insertAll rs ↔ s ∈ t ∨ s ∈ rs := by
  induction rs with
  | nil => intro t _ _ s; simp [insertAll]
  | cons r rs ih =>
    intro t fresh distinct s
    obtain ⟨apart, distinct⟩ := List.nodup_cons.1 distinct
    have head := fresh r (by simp)
    have tail : ∀ u ∈ rs, (t.insert r).get? (key u) = none := by
      intro u hu
      have ne : key u ≠ key r := fun e => apart (List.mem_map.2 ⟨u, hu, e⟩)
      rw [get?_insert head, if_neg ne]
      exact fresh u (by simp [hu])
    show s ∈ (t.insert r).insertAll rs ↔ _
    rw [ih tail distinct, mem_insert head, List.mem_cons, or_assoc]

theorem mem_of_mem_insertAll {rs : List ρ} : ∀ {t : Table key} {s : ρ}, s ∈ t.insertAll rs → s ∈ t ∨ s ∈ rs := by
  induction rs with
  | nil => exact fun h => .inl h
  | cons r rs ih =>
    intro t s h
    rcases ih h with old | new
    · rcases mem_of_mem_insert old with older | rfl
      · exact .inl older
      · exact .inr (by simp)
    · exact .inr (by simp [new])

theorem get?_update {p : ρ → Bool} {f : ρ → ρ} {hf : ∀ r, key (f r) = key r} (k : κ) :
    (t.update p f hf).get? k = (t.get? k).map fun r => if p r then f r else r := by
  have keep : ∀ r, key (if p r then f r else r) = key r := by
    intro r
    split
    · exact hf r
    · rfl
  cases h : t.get? k with
  | none =>
    refine get?_eq_none.2 fun s hs => ?_
    obtain ⟨r, hr, rfl⟩ := mem_update.1 hs
    rw [keep]
    exact get?_eq_none.1 h r hr
  | some r =>
    obtain ⟨hr, rfl⟩ := get?_eq_some.1 h
    exact get?_eq_some.2 ⟨mem_update.2 ⟨r, hr, rfl⟩, keep r⟩

end Lookup

/-- `SELECT ... WHERE p ORDER BY le LIMIT n`; `none` is `LIMIT NULL`, no limit at all. -/
def select (t : Table key) (p : ρ → Bool) (le : ρ → ρ → Prop) [DecidableRel le] (limit : Option Nat) :
    List ρ :=
  let sorted := (t.rows.filter p).insertionSort le
  match limit with
  | some n => sorted.take n
  | none => sorted

section Select

variable {t : Table key} {p : ρ → Bool} {le : ρ → ρ → Prop} [DecidableRel le] {limit : Option Nat}

theorem mem_of_select {r : ρ} (h : r ∈ t.select p le limit) : r ∈ t ∧ p r = true := by
  have sorted : r ∈ (t.rows.filter p).insertionSort le := by
    cases limit with
    | none => exact h
    | some n => exact List.mem_of_mem_take h
  simpa [mem_def] using (List.perm_insertionSort le (t.rows.filter p)).mem_iff.1 sorted

theorem select_nodup : (t.select p le limit).Nodup := by
  have sorted : ((t.rows.filter p).insertionSort le).Nodup :=
    (List.perm_insertionSort le (t.rows.filter p)).nodup_iff.2 (t.nodup.filter p)
  cases limit with
  | none => exact sorted
  | some n => exact sorted.sublist (List.take_sublist n _)

/-- A row that meets the condition and is not selected: the limit is used up by rows before it. -/
theorem select_before [Std.Total le] [IsTrans ρ le] {n : Nat} (some_row : 0 < n) {r : ρ} (stored : r ∈ t) (meets : p r = true)
    (left_out : r ∉ t.select p le (some n)) :
    t.select p le (some n) ≠ [] ∧ ∀ s ∈ t.select p le (some n), le s r := by
  have sorted : ((t.rows.filter p).insertionSort le).Pairwise le := List.pairwise_insertionSort le _
  have member : r ∈ (t.rows.filter p).insertionSort le :=
    (List.perm_insertionSort le _).mem_iff.2 (List.mem_filter.2 ⟨stored, meets⟩)
  change r ∉ ((t.rows.filter p).insertionSort le).take n at left_out
  show ((t.rows.filter p).insertionSort le).take n ≠ [] ∧ ∀ s ∈ ((t.rows.filter p).insertionSort le).take n, le s r
  generalize (t.rows.filter p).insertionSort le = rows at sorted member left_out ⊢
  refine ⟨fun none => ?_, fun s first => ?_⟩
  · rcases List.take_eq_nil_iff.1 none with zero | nil
    · omega
    · rw [nil] at member
      exact List.not_mem_nil member
  · rw [← List.take_append_drop n rows] at sorted member
    have last : r ∈ rows.drop n := (List.mem_append.1 member).resolve_left left_out
    exact (List.pairwise_append.1 sorted).2.2 s first r last

end Select

/-- An increasing list without repetition whose elements are those above `a` up to `b`. -/
theorem eq_range'_of_sorted {l : List Nat} {a b : Nat} (sorted : l.Pairwise (· ≤ ·)) (distinct : l.Nodup)
    (mem : ∀ i, i ∈ l ↔ a < i ∧ i ≤ b) : l = List.range' (a + 1) (b - a) := by
  have same : l.Perm (List.range' (a + 1) (b - a)) := by
    rw [List.perm_ext_iff_of_nodup distinct List.nodup_range']
    intro i
    rw [mem, List.mem_range'_1]
    omega
  exact same.eq_of_pairwise (fun x y _ _ h h' => Nat.le_antisymm h h') sorted List.pairwise_le_range'

theorem take_range' (s m n : Nat) : (List.range' s m).take n = List.range' s (min n m) := by
  induction n generalizing s m with
  | zero => simp
  | succ n ih =>
    cases m with
    | zero => simp
    | succ m => rw [List.range'_succ, List.take_succ_cons, ih, Nat.succ_min_succ, List.range'_succ]

/-- **Paging.** Where every key above `a` up to `b` is present and none beyond, a page of `n` rows
after `a` is the consecutive keys from `a + 1`. -/
theorem map_select_range' {key : ρ → Nat} {t : Table key} {le : ρ → ρ → Prop} [DecidableRel le]
    (order : ∀ r s, le r s ↔ key r ≤ key s) {a b : Nat} (n : Nat)
    (keys : ∀ i, a < i → ((∃ r ∈ t, key r = i) ↔ i ≤ b)) :
    (t.select (fun r => decide (a < key r)) le (some n)).map key = List.range' (a + 1) (min n (b - a)) := by
  have total : Std.Total le := ⟨fun r s => by rw [order, order]; exact Nat.le_total _ _⟩
  have trans : IsTrans ρ le := ⟨fun r s u => by rw [order, order, order]; exact Nat.le_trans⟩
  let sorted := (t.rows.filter fun r => decide (a < key r)).insertionSort le
  have same : sorted.Perm (t.rows.filter fun r => decide (a < key r)) := List.perm_insertionSort le _
  have increasing : (sorted.map key).Pairwise (· ≤ ·) := by
    rw [List.pairwise_map]
    exact (List.pairwise_insertionSort le _).imp fun h => (order _ _).1 h
  have distinct : (sorted.map key).Nodup := by
    rw [(same.map key).nodup_iff]
    exact t.unique.sublist (List.filter_sublist.map key)
  have mem : ∀ i, i ∈ sorted.map key ↔ a < i ∧ i ≤ b := by
    intro i
    rw [(same.map key).mem_iff]
    simp only [List.mem_map, List.mem_filter, decide_eq_true_eq]
    constructor
    · rintro ⟨r, ⟨stored, above⟩, rfl⟩
      exact ⟨above, (keys _ above).1 ⟨r, stored, rfl⟩⟩
    · rintro ⟨above, below⟩
      obtain ⟨r, stored, rfl⟩ := (keys i above).2 below
      exact ⟨r, ⟨stored, above⟩, rfl⟩
  show (sorted.take n).map key = _
  rw [List.map_take, eq_range'_of_sorted increasing distinct mem, take_range']

/-! ## Maps for tables

A function from keys to options stands for a table if it finds what the table has, up to a relation. -/

section Rel

variable {α β : Type} {R : α → β → Prop}

theorem rel_none {found : Option β} (same : Option.Rel R none found) : found = none := by
  cases same
  rfl

theorem rel_some {value : α} {found : Option β} (same : Option.Rel R (some value) found) :
    ∃ stored, found = some stored ∧ R value stored := by
  cases same with
  | some same => exact ⟨_, rfl, same⟩

end Rel

/-- A map that stands for a table still does after a new key was put into both. -/
theorem rel_insert {ν α : Type} [DecidableEq κ] [DecidableEq ν] {row : ρ} {map : ν → Option α} {name : κ → ν}
    {value : α} {Old New : α → ρ → Prop} (absent : t.get? (key row) = none) (named : Function.Injective name)
    (old : ∀ k, Option.Rel Old (map (name k)) (t.get? k)) (kept : ∀ value row, Old value row → New value row)
    (new : New value row) (k : κ) :
    Option.Rel New (Function.update map (name (key row)) (some value) (name k)) ((t.insert row).get? k) := by
  rw [get?_insert absent]
  by_cases here : k = key row
  · rw [if_pos here, here, Function.update_self]
    exact .some new
  · rw [if_neg here, Function.update_of_ne fun same => here (named same)]
    have before := old k
    generalize map (name k) = found, t.get? k = stored at before
    cases before with
    | some same => exact .some (kept _ _ same)
    | none => exact .none

end Table

end Postgres
