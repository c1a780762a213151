import Liqi.Database.CallEffects

/-!
# Retention of the handoff log

Retention deletes rows by age, in batches, and passes over locked rows, so it may leave a row
standing between two deleted ones. The invariant `Retains` says what survives this: above the
watermark the log has every id up to the counter. It is kept by every call of the schema, and a
reader at or beyond the watermark therefore sees consecutive ids.
-/

namespace Liqi.Database

open Postgres

/-- A log that has lost no row above `retained`. -/
structure Retains (retained : Nat) (log : HandoffLog) : Prop where
  within : retained ≤ log.lastHandoffId
  bounded : ∀ row ∈ log.events, 0 < row.handoffId ∧ row.handoffId ≤ log.lastHandoffId
  kept : ∀ id, retained < id → id ≤ log.lastHandoffId → ∃ row ∈ log.events, row.handoffId = id
  single : ∀ row ∈ log.events, ∀ other ∈ log.events, row.eventId = other.eventId → row = other

variable {log : HandoffLog}

theorem HandoffLog.find_eq_none {eventId : Uuid} :
    log.find eventId = none ↔ ∀ row ∈ log.events, row.eventId ≠ eventId := by
  unfold HandoffLog.find
  rw [List.find?_eq_none]
  simp [Table.mem_def]

theorem HandoffLog.find_eq_some {eventId : Uuid} {row : HandoffEvent} (found : log.find eventId = some row) :
    row ∈ log.events ∧ row.eventId = eventId :=
  ⟨List.mem_of_find?_eq_some found, by simpa using List.find?_some found⟩

namespace Retains

variable {retained : Nat} {log : HandoffLog}

theorem empty : Retains 0 ⟨0, .empty⟩ where
  within := Nat.le_refl 0
  bounded := Table.forall_empty
  kept _ above below := absurd (Nat.lt_of_lt_of_le above below) (Nat.lt_irrefl 0)
  single := Table.forall_empty

/-- The id after the counter is unused. -/
theorem get?_next (inv : Retains retained log) : log.events.get? (log.lastHandoffId + 1) = none := by
  rw [Table.get?_eq_none]
  intro row stored same
  have := (inv.bounded row stored).2
  omega

theorem append (inv : Retains retained log) {row : HandoffEvent} (next : row.handoffId = log.lastHandoffId + 1)
    (missing : log.find row.eventId = none) : Retains retained (log.append row) := by
  have unused : log.events.get? row.handoffId = none := by rw [next]; exact inv.get?_next
  have others := HandoffLog.find_eq_none.1 missing
  have mem : ∀ other, other ∈ (log.append row).events ↔ other ∈ log.events ∨ other = row :=
    fun other => Table.mem_insert unused
  have last : (log.append row).lastHandoffId = log.lastHandoffId + 1 := next
  refine ⟨?_, ?_, ?_, ?_⟩
  · have := inv.within
    omega
  · intro other stored
    rw [last]
    rcases (mem other).1 stored with old | rfl
    · have := inv.bounded other old
      omega
    · omega
  · intro id above below
    rw [last] at below
    by_cases new : id = log.lastHandoffId + 1
    · exact ⟨row, (mem row).2 (.inr rfl), by omega⟩
    · obtain ⟨other, old, same⟩ := inv.kept id above (by omega)
      exact ⟨other, (mem other).2 (.inl old), same⟩
  · intro a ha b hb same
    rcases (mem a).1 ha with olda | rfl <;> rcases (mem b).1 hb with oldb | rfl
    · exact inv.single a olda b oldb same
    · exact absurd same (others a olda)
    · exact absurd same.symm (others b oldb)
    · rfl

end Retains

theorem raiseWatermark_cases (retained : Nat) (deleted : List Nat) :
    (deleted = [] ∧ raiseWatermark retained deleted = retained) ∨
    ∃ highest ∈ deleted, (∀ id ∈ deleted, id ≤ highest) ∧ raiseWatermark retained deleted = max retained highest := by
  unfold raiseWatermark
  cases top : deleted.max? with
  | none => exact .inl ⟨List.max?_eq_none_iff.1 top, rfl⟩
  | some highest =>
    obtain ⟨mem, above⟩ := List.max?_eq_some_iff.1 top
    exact .inr ⟨highest, mem, above, rfl⟩

variable {retained : Nat}

/-- The watermark covers every deleted id, whichever rows were deleted. -/
theorem Retains.delete (inv : Retains retained log) {ids : List Nat}
    (stored : ∀ id ∈ ids, ∃ row ∈ log.events, row.handoffId = id) :
    Retains (raiseWatermark retained ids) { log with events := log.events.delete fun row => ids.contains row.handoffId } where
  within := by
    have within := inv.within
    rcases raiseWatermark_cases retained ids with ⟨_, same⟩ | ⟨highest, deleted, _, raised⟩
    · rw [same]
      exact within
    · obtain ⟨row, old, rfl⟩ := stored highest deleted
      have := (inv.bounded row old).2
      show raiseWatermark retained ids ≤ log.lastHandoffId
      omega
  bounded row left := inv.bounded row (Table.mem_delete.1 left).1
  kept id above below := by
    have beyond : retained < id ∧ id ∉ ids := by
      rcases raiseWatermark_cases retained ids with ⟨rfl, same⟩ | ⟨highest, _, top, raised⟩
      · exact ⟨by omega, List.not_mem_nil⟩
      · exact ⟨by omega, fun deleted => by have := top id deleted; omega⟩
    obtain ⟨row, old, rfl⟩ := inv.kept id beyond.1 below
    exact ⟨row, Table.mem_delete.2 ⟨old, by simpa using beyond.2⟩, rfl⟩
  single a ha b hb same := inv.single a (Table.mem_delete.1 ha).1 b (Table.mem_delete.1 hb).1 same

/-- The page after a cursor that retention has not passed. -/
theorem Retains.page (inv : Retains retained log) {after : Nat} (current : retained ≤ after) (n : Nat) :
    (log.page after n).map HandoffEvent.handoffId
      = List.range' (after + 1) (min (after + n) log.lastHandoffId - after) := by
  have keys : ∀ i, after < i → ((∃ row ∈ log.events, row.handoffId = i) ↔ i ≤ log.lastHandoffId) := by
    intro i above
    constructor
    · rintro ⟨row, stored, rfl⟩
      exact (inv.bounded row stored).2
    · intro below
      exact inv.kept i (by omega) below
  have size : min n (log.lastHandoffId - after) = min (after + n) log.lastHandoffId - after := by omega
  have order : ∀ a b : HandoffEvent, a.before b ↔ a.handoffId ≤ b.handoffId := fun _ _ => Iff.rfl
  unfold HandoffLog.page
  rw [Table.map_select_range' order n keys, size]

/-- The ids that retention may have deleted; V0 has no retention. -/
def Db.watermark (db : Db) : Version → Nat
  | .v0 => 0
  | .v1 => db.retainedAfterHandoffId

/-- Both logs are intact above their watermarks. -/
def LogsRetained (db : Db) : Prop := ∀ version, Retains (db.watermark version) (db.handoff version)

/-- A call that leaves the handoff logs alone. -/
structure SameLogs (db db' : Db) : Prop where
  v0 : db'.handoffV0 = db.handoffV0
  v1 : db'.handoffV1 = db.handoffV1
  watermark : db'.retainedAfterHandoffId = db.retainedAfterHandoffId

theorem SameLogs.refl (db : Db) : SameLogs db db := ⟨rfl, rfl, rfl⟩

variable {db db' : Db}

theorem SameLogs.trans {db'' : Db} (first : SameLogs db db') (last : SameLogs db' db'') : SameLogs db db'' :=
  ⟨last.v0.trans first.v0, last.v1.trans first.v1, last.watermark.trans first.watermark⟩

theorem SameLogs.handoff (same : SameLogs db db') (version : Version) :
    db'.handoff version = db.handoff version := by
  cases version with
  | v0 => exact same.v0
  | v1 => exact same.v1

/-- What a call other than a prune can do to the handoff logs. -/
inductive LogGrowth (db : Db) : Db → Prop where
  | same {db' : Db} (logs : SameLogs db db') : LogGrowth db db'
  | append {db' : Db} (version : Version) (row : HandoffEvent)
      (next : row.handoffId = (db.handoff version).lastHandoffId + 1)
      (missing : (db.handoff version).find row.eventId = none)
      (log : db'.handoff version = (db.handoff version).append row)
      (others : ∀ other, other ≠ version → db'.handoff other = db.handoff other)
      (watermark : db'.retainedAfterHandoffId = db.retainedAfterHandoffId) : LogGrowth db db'

/-- What a call can do to them. -/
inductive LogStep (db : Db) : Db → Prop where
  | grow {db' : Db} (growth : LogGrowth db db') : LogStep db db'
  | delete (ids : List Nat) (stored : ∀ id ∈ ids, ∃ row ∈ db.handoffV1.events, row.handoffId = id) :
      LogStep db (deleteHandoffs ids db)

theorem LogGrowth.watermark (growth : LogGrowth db db') :
    db'.retainedAfterHandoffId = db.retainedAfterHandoffId := by
  cases growth with
  | same logs => exact logs.watermark
  | append version row next missing log others watermark => exact watermark

theorem LogsRetained.step (inv : LogsRetained db) (step : LogStep db db') : LogsRetained db' := by
  intro version
  rcases step with growth | ⟨ids, stored⟩
  · have same : db'.watermark version = db.watermark version := by
      cases version with
      | v0 => rfl
      | v1 => exact growth.watermark
    rw [same]
    cases growth with
    | same logs =>
      rw [logs.handoff]
      exact inv version
    | append published row next missing log others =>
      by_cases h : version = published
      · subst h
        rw [log]
        exact (inv version).append next missing
      · rw [others version h]
        exact inv version
  · cases version with
    | v0 => exact inv .v0
    | v1 => exact (inv .v1).delete stored

/-! ## Each call -/

theorem ConsumerOnly.sameLogs (only : ConsumerOnly db db') : SameLogs db db' := by
  obtain ⟨_, _, _, _, rfl⟩ := only
  exact ⟨rfl, rfl, rfl⟩

/-- A publication, with other tables written before and after it. -/
theorem Published.logGrowth {version : Version} {now : Timestamp} {eventId : Uuid} {id : Nat} {db₁ db₂ : Db}
    (before : SameLogs db db₁) (h : Published version now eventId db₁ id db₂) (after : SameLogs db₂ db') :
    LogGrowth db db' := by
  cases h with
  | already => exact .same (before.trans after)
  | @appended event stored missing unused =>
    have log := before.handoff version
    rw [log] at missing
    refine .append version ⟨(db.handoff version).lastHandoffId + 1, eventId, event.envelope, now⟩ rfl missing ?_ ?_ ?_
    · rw [after.handoff, Db.handoff_setHandoff_self, log]
    · intro other ne
      rw [after.handoff, Db.handoff_setHandoff_of_ne _ _ ne, before.handoff]
    · rw [after.watermark, Db.retained_setHandoff, before.watermark]

theorem ProbeRequested.logGrowth {version : Version} {now : Timestamp} {state : ProbeState} {row : OutboxEvent} {id : Nat}
    {db₁ db₂ db₃ : Db} (h : ProbeRequested version now state row id db db₁ db₂ db₃ db') : LogGrowth db db' := by
  refine h.handoff.logGrowth (h.probe.consumerOnly.sameLogs.trans h.event.outboxOnly.consumerOnly.sameLogs) ?_
  rw [h.after]
  exact ⟨rfl, rfl, rfl⟩

/-- The rows that retention deletes are in the log. -/
theorem mem_pruneCandidates {cutoff : Timestamp} {n : Nat} {skipped : Nat → Bool} {id : Nat}
    (h : id ∈ pruneCandidates cutoff n skipped db) : ∃ row ∈ db.handoffV1.events, row.handoffId = id := by
  obtain ⟨row, selected, rfl⟩ := List.mem_map.1 h
  exact ⟨row, (Table.mem_of_select selected).1, rfl⟩

theorem Call.logGrowth_exec {call : Call} {r : Reply} (ran : call.exec db = .ok (r, db')) :
    LogGrowth db db' ∨ ∃ cutoff n skipped, call = .pruneHandoff (some cutoff) (some n) skipped ∧ (1 ≤ n ∧ n ≤ 500)
      ∧ db' = deleteHandoffs (pruneCandidates cutoff n.toNat skipped db) db := by
  cases Call.done ran with
  | enqueuedV0 _ event | enqueuedV1 _ event => exact .inl (.same event.outboxOnly.consumerOnly.sameLogs)
  | published handoff => exact .inl (handoff.logGrowth (.refl db) (.refl db'))
  | requestedV0 h | created _ h => exact .inl h.request.logGrowth
  | repeated => exact .inl (.same (.refl db))
  | leased h => exact .inl (.same h.outboxOnly.consumerOnly.sameLogs)
  | acked h => exact .inl (.same (ack_outboxOnly h).consumerOnly.sameLogs)
  | failed h => exact .inl (.same (fail_outboxOnly h).consumerOnly.sameLogs)
  | applied h => exact .inl (.same (apply_consumerOnly h).sameLogs)
  | pruned size => exact .inr ⟨_, _, _, rfl, size, rfl⟩

theorem Call.logStep_exec {call : Call} {r : Reply} (ran : call.exec db = .ok (r, db')) : LogStep db db' := by
  rcases Call.logGrowth_exec ran with growth | ⟨_, _, _, _, _, rfl⟩
  · exact .grow growth
  · exact .delete _ fun id h => mem_pruneCandidates h

theorem Call.logStep (db : Db) (call : Call) : LogStep db (call.step db) := by
  unfold Call.step
  split
  · rename_i ran
    exact Call.logStep_exec ran
  · exact .grow (.same (.refl db))

/-- Every run keeps both logs intact above their watermarks. -/
theorem runCalls_logsRetained (calls : List Call) : LogsRetained (runCalls calls) := by
  refine runCalls_invariant (fun version => ?_) fun db inv call _ => inv.step (Call.logStep db call)
  cases version <;> exact Retains.empty

/-- The call is a prune that deletes a row. -/
def Call.DeletesHandoffs (call : Call) (db : Db) : Prop :=
  ∃ cutoff batch skipped, call = .pruneHandoff (some cutoff) (some batch) skipped ∧ 1 ≤ batch ∧ batch ≤ 500
    ∧ pruneCandidates cutoff batch.toNat skipped db ≠ []

theorem raiseWatermark_eq_zero {deleted : List Nat} (positive : ∀ id ∈ deleted, 0 < id) :
    raiseWatermark retained deleted = 0 ↔ retained = 0 ∧ deleted = [] := by
  rcases raiseWatermark_cases retained deleted with ⟨rfl, same⟩ | ⟨highest, mem, _, raised⟩
  · rw [same]
    exact ⟨fun zero => ⟨zero, rfl⟩, fun both => both.1⟩
  · have above := positive highest mem
    refine iff_of_false (by omega) ?_
    rintro ⟨_, rfl⟩
    cases mem

/-- A prune with valid arguments. -/
theorem pruneRealtimeHandoffV1_valid (inv : LogsRetained db) (cutoff : Timestamp) {batch : Int} (skipped : Nat → Bool)
    (valid : 1 ≤ batch ∧ batch ≤ 500) :
    Call.step db (.pruneHandoff (some cutoff) (some batch) skipped)
      = deleteHandoffs (pruneCandidates cutoff batch.toNat skipped db) db := by
  have retained : Retains (deleteHandoffs (pruneCandidates cutoff batch.toNat skipped db) db).retainedAfterHandoffId
      (deleteHandoffs (pruneCandidates cutoff batch.toNat skipped db) db).handoffV1 :=
    (inv .v1).delete fun id listed => mem_pruneCandidates listed
  have size : ¬ (batch < 1 ∨ 500 < batch) := by omega
  unfold Call.step Call.exec pruneRealtimeHandoffV1
  simp only [if_neg size, if_neg (Nat.not_lt.2 retained.within), reply, Except.map]

/-- The watermark stays zero exactly through the calls that delete nothing. -/
theorem Call.watermark_step (inv : LogsRetained db) (call : Call) :
    (call.step db).retainedAfterHandoffId = 0 ↔ db.retainedAfterHandoffId = 0 ∧ ¬ call.DeletesHandoffs db := by
  by_cases valid : ∃ cutoff batch skipped, call = .pruneHandoff (some cutoff) (some batch) skipped ∧ 1 ≤ batch ∧ batch ≤ 500
  · obtain ⟨cutoff, batch, skipped, rfl, size⟩ := valid
    have positive : ∀ id ∈ pruneCandidates cutoff batch.toNat skipped db, 0 < id := by
      intro id listed
      obtain ⟨row, stored, rfl⟩ := mem_pruneCandidates listed
      exact ((inv .v1).bounded row stored).1
    have deletes : (Call.pruneHandoff (some cutoff) (some batch) skipped).DeletesHandoffs db
        ↔ pruneCandidates cutoff batch.toNat skipped db ≠ [] := by
      constructor
      · rintro ⟨_, _, _, same, _, _, found⟩
        cases same
        exact found
      · exact fun found => ⟨cutoff, batch, skipped, rfl, size.1, size.2, found⟩
    rw [pruneRealtimeHandoffV1_valid inv cutoff skipped size, deletes, not_not]
    exact raiseWatermark_eq_zero positive
  · have quiet : ¬ call.DeletesHandoffs db := by
      rintro ⟨cutoff, batch, skipped, rfl, low, high, _⟩
      exact valid ⟨cutoff, batch, skipped, rfl, low, high⟩
    have same : (call.step db).retainedAfterHandoffId = db.retainedAfterHandoffId := by
      unfold Call.step
      split
      next _ db' ran =>
        rcases Call.logGrowth_exec ran with growth | ⟨cutoff, n, skipped, made, size, _⟩
        · exact growth.watermark
        · exact absurd ⟨cutoff, n, skipped, made, size⟩ valid
      next => rfl
    rw [same]
    exact ⟨fun zero => ⟨zero, quiet⟩, fun both => both.1⟩

/-- No prune of the run deletes a row. -/
def NothingPruned (calls : List Call) : Prop :=
  ∀ before call, before ++ [call] <+: calls → ¬ call.DeletesHandoffs (runCalls before)

theorem runCalls_watermark (calls : List Call) :
    (runCalls calls).retainedAfterHandoffId = 0 ↔ NothingPruned calls := by
  induction calls using List.reverseRecOn with
  | nil =>
    refine iff_of_true rfl fun before call earlier => ?_
    exact absurd (List.prefix_nil.1 earlier) (by simp)
  | append_singleton calls last ih =>
    rw [runCalls_append, Call.watermark_step (runCalls_logsRetained calls), ih]
    constructor
    · rintro ⟨nothing, quiet⟩ before call earlier
      rcases List.prefix_concat_iff.1 earlier with same | earlier
      · obtain ⟨rfl, rfl⟩ := List.append_inj' same rfl |>.imp_right List.singleton_inj.1
        exact quiet
      · exact nothing before call earlier
    · intro nothing
      exact ⟨fun before call earlier => nothing before call (earlier.trans (List.prefix_append _ _)),
        nothing calls last List.prefix_rfl⟩

end Liqi.Database
