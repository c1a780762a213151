import Mathlib.Data.Set.List
import Liqi.Readiness.Evidence

/-!
# Supporting documents that have passed

What a clean step has checked about checkpoints, compatibility and mutations. All three share `SupportingPassed`, which
has no upper bound for the time.
-/

namespace Liqi.Readiness

open Beam (Json)
open Python

variable {world : World} {inputs : Inputs}

/-! ### Supporting evidence -/

/-- What has been checked about a supporting document: nothing bounds its time from above. -/
structure SupportingPassed (world : World) (inputs : Inputs) (rule : Rule) (label path : String) (document : Json) : Prop where
  presented : Presented world inputs rule.schema label path document
  time : ∃ text time, document.get "observed_at" = .string text ∧ world.parseDatetime text = .ok time ∧
    inputs.now - rule.maxAgeSeconds * 1000000 - 1000000 ≤ time

section Supporting

variable {rule : Rule} {label path : String} {document : Json}

theorem loadSupporting_clean (loaded : loadSupporting world rule label path = .ok (document, [])) :
    world.loadJson path = .ok document ∧ world.validateDocument rule.schema document label = .ok [] := by
  unfold loadSupporting at loaded
  rcases readable : world.loadJson path with failure | found
  · rw [readable] at loaded
    cases failure <;> cases loaded
  rw [readable] at loaded
  dsimp only at loaded
  rcases valid : world.validateDocument rule.schema found label with failure | errors
  · rw [valid] at loaded
    cases failure <;> cases loaded
  · rw [valid] at loaded
    cases loaded
    exact ⟨rfl, valid⟩

theorem bindingErrors_clean (bound : bindingErrors inputs label document = .ok []) :
    document.get "git_sha" = .string inputs.sha ∧ document.get "release_id" = .string inputs.releaseId := by
  obtain ⟨gitSha, committed, bound⟩ := bind_ok bound
  obtain ⟨releaseId, released, bound⟩ := bind_ok bound
  have none := Except.ok.inj bound
  rw [List.append_eq_nil_iff, errorUnless_nil, errorUnless_nil, isText_iff, isText_iff] at none
  rw [← get_null committed, ← get_null released]
  exact none

theorem supportingTime_clean (timed : supportingTime world inputs rule label document = .ok (false, [])) :
    ∃ text time, document.get "observed_at" = .string text ∧ world.parseDatetime text = .ok time ∧
      inputs.now - rule.maxAgeSeconds * 1000000 - 1000000 ≤ time := by
  obtain ⟨observed, got, timed⟩ := bind_ok timed
  have held := get_null got
  split at timed
  next timestamp =>
    rcases parsed : world.parseDatetime timestamp with failure | time
    · rw [parsed] at timed
      cases failure <;> cases timed
    · rw [parsed] at timed
      simp only [pure, Except.pure, Except.ok.injEq, Prod.mk.injEq, decide_eq_false_iff_not, and_true] at timed
      exact ⟨timestamp, time, held.symm, parsed, fresh_of_age timed⟩
  next => cases timed

/-- The common part of the three kinds of supporting documents. -/
theorem supporting_clean {binding : String} (loaded : loadSupporting world rule label path = .ok (document, []))
    (bound : bindingErrors inputs binding document = .ok [])
    (timed : supportingTime world inputs rule binding document = .ok (false, []))
    (status : supportingStatus document [] = .ok (.string "passed")) :
    SupportingPassed world inputs rule label path document := by
  obtain ⟨readable, valid⟩ := loadSupporting_clean loaded
  obtain ⟨gitSha, releaseId⟩ := bindingErrors_clean bound
  exact ⟨⟨readable, valid, gitSha, releaseId, get_text status (by simp)⟩, supportingTime_clean timed⟩

/-- The end of a clean step: the document is not stale and has passed without errors, and nothing it says blocks. -/
theorem Composition.Clean.supported {state state' : Composition} {status stalled : Json} {stale : Bool} {found : List Json}
    {errors : List String} (clean : state'.Clean) (reported : supportingStatus document errors = .ok status)
    (blockers : state'.blockers = state.blockers ++ (if stale then [stalled] else []) ++ found)
    (statuses : state'.statusInputs = state.statusInputs ++ [status]) :
    state.Clean ∧ stale = false ∧ status = .string "passed" ∧ found = [] ∧ errors = [] := by
  have passed : status = .string "passed" := clean.statuses status (by simp [statuses])
  have none := clean.blockers
  rw [blockers, List.append_eq_nil_iff, List.append_eq_nil_iff] at none
  refine ⟨⟨none.1.1, fun other member => clean.statuses other (by simp [statuses, member])⟩, ite_nil none.1.2, passed,
    none.2, ?_⟩
  cases errors with
  | nil => rfl
  | cons error errors => exact absurd (passed ▸ Except.ok.inj reported) (by simp)

end Supporting

/-! ### Checkpoints -/

/-- The checkpoint lists no blocker. -/
def Unblocked (document : Json) : Prop := ∀ held, document.fetch "blockers" = some held → iterate held = .ok []

def CheckpointPassed (world : World) (inputs : Inputs) (rule : Rule) (name : String) : Prop :=
  ∃ path document, inputs.checkpointPaths.lookup name = some path ∧
    SupportingPassed world inputs rule name path document ∧ document.get "name" = .string name ∧ Unblocked document

theorem checkpoint_clean {rule : Rule} {name : String} {state state' : Composition}
    (ran : checkpoint world inputs rule state name = .ok state') (clean : state'.Clean) :
    state.Clean ∧ state'.documents = state.documents ∧ CheckpointPassed world inputs rule name := by
  unfold checkpoint at ran
  rcases supplied : inputs.checkpointPaths.lookup name with _ | path
  · rw [supplied] at ran
    cases ran
    exact absurd clean.blockers (by simp)
  rw [supplied] at ran
  obtain ⟨⟨document, loaded⟩, load, ran⟩ := bind_ok ran
  obtain ⟨named, naming, ran⟩ := bind_ok ran
  obtain ⟨binding, bound, ran⟩ := bind_ok ran
  obtain ⟨⟨stale, timed⟩, time, ran⟩ := bind_ok ran
  obtain ⟨status, reported, ran⟩ := bind_ok ran
  obtain ⟨_, _, ran⟩ := bind_ok ran
  obtain ⟨listed, listing, ran⟩ := bind_ok ran
  cases ran
  obtain ⟨before, rfl, rfl, rfl, none⟩ := clean.supported reported rfl rfl
  rw [none] at reported listing
  simp only [List.append_eq_nil_iff, errorUnless_nil] at none
  obtain ⟨⟨⟨rfl, isNamed⟩, rfl⟩, rfl⟩ := none
  refine ⟨before, rfl, path, document, supplied, supporting_clean load bound time reported, ?_, ?_⟩
  · rw [← get_null naming]
    exact isText_iff.1 isNamed
  · intro held stored
    obtain ⟨found, got, items⟩ := bind_ok listing
    rw [get_held got stored]
    exact items

/-! ### Compatibility -/

/-- The document has all four checks, and nothing but checks that have passed. -/
def ChecksPassed (document : Json) : Prop :=
  ∃ held items, document.fetch "checks" = some held ∧ iterate held = .ok items ∧
    (∀ name ∈ compatibilityOwners.map Prod.fst, ∃ item ∈ items, item.get "name" = .string name) ∧
    ∀ item ∈ items, item.get "status" = .string "passed"

section Compatibility

variable {values : List Json} {expected : List String} {label : String} {checks checks' : List (Json × Json)}

theorem equal_string {a b : String} : equal (.string a) (.string b) = decide (a = b) := by
  simp [equal, beq_eq_decide]

theorem setErrors_nil {text : String} (none : setErrors world values text = .ok []) : values = [] := by
  unfold setErrors at none
  split_ifs at none with empty
  · exact List.isEmpty_iff.1 empty
  · obtain ⟨listed, _, none⟩ := bind_ok none
    cases none

/-- Values without duplicates, gaps and extras are the expected texts in some order. -/
theorem exactSet_nil (exact : exactSet world values expected label = .ok []) :
    ∃ texts : List String, values = texts.map .string ∧ texts.Nodup ∧ ∀ text, text ∈ texts ↔ text ∈ expected := by
  unfold exactSet at exact
  split_ifs at exact
  obtain ⟨twice, duplicates, exact⟩ := bind_ok exact
  obtain ⟨lacking, missing, exact⟩ := bind_ok exact
  obtain ⟨unexpected, extra, exact⟩ := bind_ok exact
  have none := Except.ok.inj exact
  simp only [List.append_eq_nil_iff] at none
  obtain ⟨⟨rfl, rfl⟩, rfl⟩ := none
  have known := setErrors_nil extra
  have all := setErrors_nil missing
  have once := setErrors_nil duplicates
  have expectedText : ∀ value ∈ values, ∃ text ∈ expected, Json.string text = value := by
    intro value member
    have here := List.filter_eq_nil_iff.1 known value member
    rw [Bool.not_eq_true', Bool.not_eq_false, List.any_eq_true] at here
    obtain ⟨text, listed, same⟩ := here
    exact ⟨text, listed, (isText_iff.1 same).symm⟩
  obtain ⟨texts, rfl⟩ : values ∈ Set.range (List.map Json.string) := by
    rw [Set.range_list_map]
    intro value member
    obtain ⟨text, _, same⟩ := expectedText value member
    exact ⟨text, same⟩
  refine ⟨texts, rfl, List.nodup_iff_count_le_one.2 fun text => ?_, fun text => ⟨fun member => ?_, fun member => ?_⟩⟩
  · by_cases member : text ∈ texts
    · have here := List.filter_eq_nil_iff.1 once _ (List.mem_map_of_mem member)
      rw [List.countP_map, decide_eq_true_eq, Nat.not_lt] at here
      refine le_of_eq_of_le (List.countP_congr fun other _ => ?_) here
      rw [Function.comp_apply, equal_string, beq_iff_eq, decide_eq_true_eq]
      exact eq_comm
    · rw [List.count_eq_zero.2 member]
      exact Nat.zero_le 1
  · obtain ⟨other, listed, same⟩ := expectedText _ (List.mem_map_of_mem member)
    cases same
    exact listed
  · have here := List.filter_eq_nil_iff.1 (List.map_eq_nil_iff.1 all) text member
    rw [Bool.not_eq_true', Bool.not_eq_false, List.any_eq_true] at here
    obtain ⟨value, held, same⟩ := here
    obtain ⟨other, found, rfl⟩ := List.mem_map.1 held
    cases isText_iff.1 same
    exact found

/-- Checks of different names are all kept. -/
theorem putChecks_distinct {items : List Json} {texts : List String}
    (named : List.Forall₂ (fun item text => Python.get item "name" (.string "") = .ok (.string text)) items texts)
    (nonempty : ∀ text ∈ texts, text ≠ "") (distinct : texts.Nodup)
    (fresh : ∀ entry ∈ checks, ∀ text ∈ texts, equal entry.1 (.string text) = false)
    (ran : items.foldlM putCheck checks = .ok checks') : checks' = checks ++ (texts.map Json.string).zip items := by
  induction named generalizing checks with
  | nil =>
    cases ran
    exact (List.append_nil _).symm
  | @cons item text items texts naming rest ih =>
    have stored : item.fetch "name" = some (.string text) :=
      get_stored naming fun same => nonempty text List.mem_cons_self (Json.string.inj same)
    rw [List.nodup_cons] at distinct
    rw [List.foldlM_cons] at ran
    obtain ⟨checks₁, first, ran⟩ := bind_ok ran
    unfold putCheck at first
    rw [get_of_stored naming stored] at first
    have put : checks₁ = setItem equal checks (.string text) item := (Except.ok.inj first).symm
    rw [setItem_new fun entry member => fresh entry member text List.mem_cons_self] at put
    rw [ih (fun other later => nonempty other (List.mem_cons_of_mem _ later)) distinct.2
      (fun entry member other later => ?_) ran, put, List.append_assoc]
    · rfl
    rw [put, List.mem_append, List.mem_singleton] at member
    rcases member with old | rfl
    · exact fresh entry old other (List.mem_cons_of_mem _ later)
    · rw [equal_string]
      exact decide_eq_false fun same => distinct.1 (same ▸ later)

theorem blockChecks_nil (ran : checks.foldlM (blockCheck world) [] = .ok []) :
    ∀ entry ∈ checks, entry.2.get "status" = .string "passed" := by
  refine (foldlM_backward (P := fun blockers => blockers = []) ?_ ran rfl).2
  rintro blockers entry blockers' _ step rfl
  obtain ⟨status, got, step⟩ := bind_ok step
  obtain ⟨severity, _, step⟩ := bind_ok step
  have none := Except.ok.inj step
  split_ifs at none with passed
  · rw [← get_null got]
    exact ⟨none, isText_iff.1 passed⟩
  · exact absurd none (by simp)

/-- The checks of a document with exactly the expected names have passed if none of them is a blocker. -/
theorem checksPassed {document : Json} {names : List Json} (named : fieldValues document "checks" "name" = .ok names)
    (exact : exactSet world names (compatibilityOwners.map Prod.fst) label = .ok [])
    (kept : checksByName document = .ok checks) (ran : checks.foldlM (blockCheck world) [] = .ok []) :
    ChecksPassed document := by
  obtain ⟨texts, rfl, distinct, same⟩ := exactSet_nil exact
  obtain ⟨held, got, named⟩ := bind_ok named
  obtain ⟨items, iterated, named⟩ := bind_ok named
  obtain ⟨held', got', kept⟩ := bind_ok kept
  rw [got] at got'
  cases got'
  obtain ⟨items', iterated', kept⟩ := bind_ok kept
  rw [iterated] at iterated'
  cases iterated'
  have stored : document.fetch "checks" = some held := by
    refine get_stored got fun empty => ?_
    subst empty
    cases iterated
    cases texts with
    | nil => exact absurd ((same _).2 (by decide : "config-versioned" ∈ _)) (by simp)
    | cons text texts => cases named
  have naming := List.forall₂_map_right_iff.1 (mapM_ok named)
  have nonempty : ∀ text ∈ texts, text ≠ "" := by
    rintro text member rfl
    exact absurd ((same "").1 member) (by decide)
  have zipped := putChecks_distinct naming nonempty distinct (by simp) kept
  refine ⟨held, items, stored, iterated, fun name listed => ?_, fun item member => ?_⟩
  · obtain ⟨item, member, found⟩ := (mem_of_mapM named).1 (List.mem_map_of_mem ((same name).2 listed))
    exact ⟨item, member, get_text found fun empty => nonempty name ((same name).2 listed) (Json.string.inj empty).symm⟩
  · have values : checks.map Prod.snd = items := by
      rw [zipped, List.nil_append, List.map_snd_zip]
      rw [List.length_map, naming.length_eq]
    obtain ⟨entry, kept, rfl⟩ := List.mem_map.1 (values ▸ member)
    exact blockChecks_nil ran entry kept

def CompatibilityPassed (world : World) (inputs : Inputs) : Prop :=
  ∃ rule path document, inputs.policy.compatibility = some rule ∧ inputs.compatibility = some path ∧
    SupportingPassed world inputs rule "compatibility" path document ∧ ChecksPassed document

theorem required_ok {α : Type} {value : Option α} {a : α} (ran : required value = .ok a) : value = some a := by
  cases value with
  | none => cases ran
  | some b =>
    cases ran
    rfl

theorem compatibility_clean {state state' : Composition} (ran : compatibility world inputs state = .ok state')
    (clean : state'.Clean) : state.Clean ∧ state'.documents = state.documents ∧ CompatibilityPassed world inputs := by
  unfold compatibility at ran
  rcases supplied : inputs.compatibility with _ | path
  · rw [supplied] at ran
    cases ran
    exact absurd clean.blockers (by simp)
  rw [supplied] at ran
  obtain ⟨rule, ruled, ran⟩ := bind_ok ran
  obtain ⟨⟨document, loaded⟩, load, ran⟩ := bind_ok ran
  obtain ⟨binding, bound, ran⟩ := bind_ok ran
  obtain ⟨⟨stale, timed⟩, time, ran⟩ := bind_ok ran
  obtain ⟨names, named, ran⟩ := bind_ok ran
  obtain ⟨wrong, exact, ran⟩ := bind_ok ran
  obtain ⟨status, reported, ran⟩ := bind_ok ran
  obtain ⟨checks, kept, ran⟩ := bind_ok ran
  iterate 4 obtain ⟨_, _, ran⟩ := bind_ok ran
  obtain ⟨found, blocked, ran⟩ := bind_ok ran
  cases ran
  obtain ⟨before, rfl, rfl, rfl, none⟩ := clean.supported reported rfl rfl
  rw [none] at reported blocked
  simp only [List.append_eq_nil_iff] at none
  obtain ⟨⟨⟨rfl, rfl⟩, rfl⟩, rfl⟩ := none
  exact ⟨before, rfl, rule, path, document, required_ok ruled, supplied, supporting_clean load bound time reported,
    checksPassed named exact kept blocked⟩

end Compatibility

/-! ### Mutations -/

def MutationsPassed (world : World) (inputs : Inputs) : Prop :=
  ∃ rule path document, inputs.policy.ociMutations = some rule ∧ inputs.ociMutations = some path ∧
    SupportingPassed world inputs rule "oci-mutations" path document ∧
    document.get "environment" = .string inputs.environment.text

theorem ociMutations_clean {state state' : Composition} (ran : ociMutations world inputs state = .ok state')
    (clean : state'.Clean) : state.Clean ∧ state'.documents = state.documents ∧ MutationsPassed world inputs := by
  unfold ociMutations at ran
  rcases supplied : inputs.ociMutations with _ | path
  · rw [supplied] at ran
    cases ran
    exact absurd clean.blockers (by simp)
  rw [supplied] at ran
  obtain ⟨rule, ruled, ran⟩ := bind_ok ran
  obtain ⟨⟨document, loaded⟩, load, ran⟩ := bind_ok ran
  obtain ⟨binding, bound, ran⟩ := bind_ok ran
  obtain ⟨environment, placed, ran⟩ := bind_ok ran
  obtain ⟨⟨stale, timed⟩, time, ran⟩ := bind_ok ran
  obtain ⟨status, reported, ran⟩ := bind_ok ran
  obtain ⟨⟨kept, found⟩, _, ran⟩ := bind_ok ran
  cases ran
  obtain ⟨before, rfl, rfl, rfl, none⟩ := clean.supported reported rfl rfl
  rw [none] at reported
  simp only [List.append_eq_nil_iff, errorUnless_nil] at none
  obtain ⟨⟨⟨rfl, rfl⟩, here⟩, rfl⟩ := none
  refine ⟨before, rfl, rule, path, document, required_ok ruled, supplied, supporting_clean load bound time reported, ?_⟩
  rw [← get_null placed]
  exact isText_iff.1 here

end Liqi.Readiness
