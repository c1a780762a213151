import Liqi.Readiness.Soundness

/-!
# How fresh supporting documents are

The age of a supporting document is compared with the policy as that of evidence is, but an age is never negative and
nothing else bounds `observed_at` from above. So the window of evidence holds for supporting documents just where they
do not come from the future.
-/

namespace Liqi.Readiness

open Beam (Json)
open Python

variable {world : World} {inputs : Inputs}

/-- The document at the path gives `time` as its `observed_at`. -/
def Observed (world : World) (path : String) (time : Int) : Prop :=
  ∃ document text, world.loadJson path = .ok document ∧ document.get "observed_at" = .string text ∧
    world.parseDatetime text = .ok time

/-- The document at the path was observed within the window of the rule. -/
def FreshAt (world : World) (inputs : Inputs) (rule : Rule) (path : String) : Prop :=
  ∃ time, Observed world path time ∧ InWindow inputs.now rule.maxAgeSeconds time

/-- All nine supporting documents were observed within the window that evidence has. -/
structure SupportingFresh (world : World) (inputs : Inputs) : Prop where
  checkpoints : ∃ rule, inputs.policy.checkpoint = some rule ∧
    ∀ name ∈ checkpointNames, ∃ path, inputs.checkpointPaths.lookup name = some path ∧ FreshAt world inputs rule path
  compatibility : ∃ rule path, inputs.policy.compatibility = some rule ∧ inputs.compatibility = some path ∧
    FreshAt world inputs rule path
  mutations : ∃ rule path, inputs.policy.ociMutations = some rule ∧ inputs.ociMutations = some path ∧
    FreshAt world inputs rule path

/-- A path under which a supporting document is supplied. -/
def Supplied (inputs : Inputs) (path : String) : Prop :=
  (∃ name ∈ checkpointNames, inputs.checkpointPaths.lookup name = some path) ∨ inputs.compatibility = some path ∨
    inputs.ociMutations = some path

theorem Observed.unique {path : String} {time time' : Int} (observed : Observed world path time)
    (observed' : Observed world path time') : time = time' := by
  obtain ⟨document, text, readable, held, parsed⟩ := observed
  obtain ⟨document', text', readable', held', parsed'⟩ := observed'
  rw [readable] at readable'
  cases readable'
  rw [held] at held'
  cases held'
  rw [parsed] at parsed'
  exact Except.ok.inj parsed'

theorem FreshAt.not_future {rule : Rule} {path : String} {time : Int} (fresh : FreshAt world inputs rule path)
    (observed : Observed world path time) : time ≤ inputs.now + 300 * 1000000 := by
  obtain ⟨time', observed', window⟩ := fresh
  rw [observed.unique observed']
  exact window.2

theorem SupportingPassed.fresh {rule : Rule} {label path : String} {document : Json}
    (passed : SupportingPassed world inputs rule label path document)
    (past : ∀ time, Observed world path time → time ≤ inputs.now + 300 * 1000000) : FreshAt world inputs rule path := by
  obtain ⟨text, time, held, parsed, young⟩ := passed.time
  have observed : Observed world path time := ⟨document, text, passed.presented.readable, held, parsed⟩
  exact ⟨time, observed, young, past time observed⟩

/-- **Freshness.** Behind a passing verdict the supporting documents are as fresh as evidence has to be exactly if none
of them was observed more than 300 seconds after `now`. -/
theorem supporting_fresh_iff {args : Args} {emitted : Result} {code : Nat} (ran : main world args = .ok (emitted, code))
    (passing : emitted.verdict = passingVerdict) (prepared : prepare world args = .ok inputs) :
    SupportingFresh world inputs ↔
      ∀ path, Supplied inputs path → ∀ time, Observed world path time → time ≤ inputs.now + 300 * 1000000 := by
  obtain ⟨inputs', state, counts, prepared', _, _, composed, clean⟩ := main_passing ran passing
  rw [prepared] at prepared'
  cases prepared'
  obtain ⟨checkpoints, compatibility, mutations⟩ := (compose_supported composed clean).1
  constructor
  · rintro ⟨⟨_, _, checked⟩, ⟨_, _, _, compatible, fresh⟩, ⟨_, _, _, mutated, fresh'⟩⟩ path supplied time observed
    rcases supplied with ⟨name, named, supplied⟩ | supplied | supplied
    · obtain ⟨path', supplied', fresh⟩ := checked name named
      rw [supplied] at supplied'
      cases supplied'
      exact fresh.not_future observed
    · rw [supplied] at compatible
      cases compatible
      exact fresh.not_future observed
    · rw [supplied] at mutated
      cases mutated
      exact fresh'.not_future observed
  · intro past
    obtain ⟨rule, ruled, checked⟩ := checkpoints
    obtain ⟨rule₁, path₁, _, ruled₁, supplied₁, passed₁, _⟩ := compatibility
    obtain ⟨rule₂, path₂, _, ruled₂, supplied₂, passed₂, _⟩ := mutations
    refine ⟨⟨rule, ruled, fun name named => ?_⟩, ⟨rule₁, path₁, ruled₁, supplied₁, ?_⟩, ⟨rule₂, path₂, ruled₂, supplied₂, ?_⟩⟩
    · obtain ⟨path, document, supplied, passed, _, _⟩ := checked name named
      exact ⟨path, supplied, passed.fresh (past path (.inl ⟨name, named, supplied⟩))⟩
    · exact passed₁.fresh (past path₁ (.inr (.inl supplied₁)))
    · exact passed₂.fresh (past path₂ (.inr (.inr supplied₂)))

/-! ### The sample release, on time and a day early -/

theorem sampleMembers_observed (time : String) (members : List (String × Json)) :
    (Json.map (sampleMembers time ++ members)).get "observed_at" = .string time := rfl

theorem mem_of_lookup {α β : Type} [BEq α] [LawfulBEq α] {entries : List (α × β)} {key : α} {value : β}
    (found : entries.lookup key = some value) : (key, value) ∈ entries := by
  obtain ⟨before, after, rfl, _⟩ := List.lookup_eq_some_iff.1 found
  exact List.mem_append_right _ List.mem_cons_self

/-- All documents of the world on time have its time. -/
theorem sample_observed {path : String} {document : Json}
    (readable : (sampleWorld "2026-01-01T00:00:00Z").loadJson path = .ok document) :
    document.get "observed_at" = .string "2026-01-01T00:00:00Z" := by
  unfold sampleWorld at readable
  dsimp only at readable
  split at readable
  next found =>
    cases readable
    obtain ⟨_, _, same⟩ := List.mem_map.1 (mem_of_lookup found)
    cases same
    exact sampleMembers_observed ..
  next found _ =>
    cases readable
    obtain ⟨_, _, same⟩ := List.mem_map.1 (mem_of_lookup found)
    cases same
    exact sampleMembers_observed ..
  next =>
    split_ifs at readable
    · cases readable
      exact sampleMembers_observed ..
    · cases readable
      exact sampleMembers_observed _ []

/-- On time, the documents are as fresh as they have to be. -/
theorem sample_supporting_fresh : SupportingFresh (sampleWorld "2026-01-01T00:00:00Z") sampleInputs := by
  obtain ⟨emitted, ran, passing⟩ := verdictOf_passing sample_passes
  refine (supporting_fresh_iff ran passing (sample_prepared _)).2 fun path supplied time observed => ?_
  obtain ⟨document, text, readable, held, parsed⟩ := observed
  rw [sample_observed readable] at held
  cases held
  cases parsed
  decide

theorem sample_future_passes :
    verdictOf (main (sampleWorld "2026-01-02T00:00:00Z") sampleArgs) = some (passingVerdict, 0) := by
  unfold main
  rw [sample_prepared]
  decide +kernel

/-- Supporting documents that were observed a day after `now` do not stop the verdict. -/
theorem future_documents_pass : ∃ emitted, main (sampleWorld "2026-01-02T00:00:00Z") sampleArgs = .ok (emitted, 0) ∧
    emitted.verdict = passingVerdict ∧ prepare (sampleWorld "2026-01-02T00:00:00Z") sampleArgs = .ok sampleInputs ∧
    ¬ SupportingFresh (sampleWorld "2026-01-02T00:00:00Z") sampleInputs := by
  obtain ⟨emitted, ran, passing⟩ := verdictOf_passing sample_future_passes
  refine ⟨emitted, ran, passing, sample_prepared _, fun fresh => ?_⟩
  obtain ⟨rule, path, _, supplied, fresh⟩ := fresh.compatibility
  cases supplied
  have observed : Observed (sampleWorld "2026-01-02T00:00:00Z") "compatibility" 1767312000000000 := by
    refine ⟨_, "2026-01-02T00:00:00Z", rfl, rfl, rfl⟩
  exact absurd (fresh.not_future observed) (by decide)

end Liqi.Readiness
