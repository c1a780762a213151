import Liqi.Readiness.Supporting

/-!
# Soundness of the readiness verdict

`Ready` collects what the clean steps of a composition have checked, and the passing verdict comes from a clean
composition only.
-/

namespace Liqi.Readiness

open Beam (Json)
open Python

variable {world : World} {inputs : Inputs}

/-- What the passing verdict says about the supporting documents. -/
structure Supported (world : World) (inputs : Inputs) : Prop where
  checkpoints : ∃ rule, inputs.policy.checkpoint = some rule ∧
    ∀ name ∈ checkpointNames, CheckpointPassed world inputs rule name
  compatibility : CompatibilityPassed world inputs
  mutations : MutationsPassed world inputs

/-- What the passing verdict says about the release. -/
structure Ready (world : World) (inputs : Inputs) : Prop where
  evidence : ∀ item ∈ inputs.policy.evidence, ∃ document,
    EvidencePassed world inputs item.1 item.2 document ∧ NoCount document
  supported : Supported world inputs

theorem overall_passed {state : Composition} {blockers : List Json} (ran : overall state = .ok (.passed, blockers)) :
    state.Clean := by
  obtain ⟨failed, _, ran⟩ := bind_ok ran
  obtain ⟨status, combined, ran⟩ := bind_ok ran
  split at ran
  · cases ran
  cases ran
  unfold Composition.status at combined
  split_ifs at combined with bad blocked
  · cases combined
  · cases combined
  · refine ⟨?_, combineStatus_passed combined⟩
    rw [Bool.not_eq_true', Bool.not_eq_false, List.isEmpty_iff] at blocked
    exact blocked

/-- A clean composition went through clean evidence and passed all supporting documents without a count. -/
theorem compose_supported {state : Composition} {counts : CorrectnessEvent → Int}
    (ran : compose world inputs = .ok (state, counts)) (clean : state.Clean) : Supported world inputs ∧
      ∃ evidenced, inputs.policy.byKind.foldlM (evidence world inputs) .start = .ok evidenced ∧ evidenced.Clean ∧
        correctnessCounts evidenced.documents = .ok counts ∧ ∀ event, counts event ≤ 0 := by
  unfold compose at ran
  dsimp only at ran
  split at ran
  · cases ran
  obtain ⟨evidenced, first, ran⟩ := bind_ok ran
  obtain ⟨rule, ruled, ran⟩ := bind_ok ran
  split at ran
  · cases ran
  obtain ⟨checked, second, ran⟩ := bind_ok ran
  obtain ⟨compatible, third, ran⟩ := bind_ok ran
  obtain ⟨mutated, fourth, ran⟩ := bind_ok ran
  obtain ⟨counted, fifth, ran⟩ := bind_ok ran
  cases ran
  obtain ⟨clean₄, zero⟩ := correctness_clean clean
  obtain ⟨clean₃, documents₄, mutations⟩ := ociMutations_clean fourth clean₄
  obtain ⟨clean₂, documents₃, compatibility⟩ := compatibility_clean third clean₃
  obtain ⟨⟨clean₁, documents₂⟩, checkpoints⟩ := foldlM_backward
    (P := fun state => state.Clean ∧ state.documents = checked.documents) (Q := CheckpointPassed world inputs rule)
    (fun state name state' _ ran ⟨clean, same⟩ => by
      obtain ⟨before, kept, passed⟩ := checkpoint_clean ran clean
      exact ⟨⟨before, kept.symm.trans same⟩, passed⟩) second ⟨clean₂, rfl⟩
  refine ⟨⟨⟨rule, required_ok ruled, checkpoints⟩, compatibility, mutations⟩, evidenced, first, clean₁, ?_, fun event => ?_⟩
  · rw [documents₂, ← documents₃, ← documents₄]
    exact fifth
  · exact zero event (by cases event <;> decide)

theorem compose_ready {state : Composition} {counts : CorrectnessEvent → Int}
    (natural : ∀ schema document label, world.validateDocument schema document label = .ok [] → CountsNatural document)
    (distinct : (inputs.policy.evidence.map Prod.fst).Nodup) (ran : compose world inputs = .ok (state, counts))
    (clean : state.Clean) : Ready world inputs := by
  obtain ⟨supported, evidenced, loop, clean₁, counted, zero⟩ := compose_supported ran clean
  rw [byKind_of_distinct distinct] at loop
  obtain ⟨evidence, back, _⟩ := evidenceLoop_clean distinct (by simp [Composition.start]) loop clean₁
  have none : ∀ entry ∈ evidenced.documents, NoCount entry.2 := by
    refine correctnessCounts_clean (fun entry member => ?_) counted zero
    obtain ⟨item, _, passed⟩ := (back entry member).resolve_left (by simp [Composition.start])
    obtain ⟨path, _, presented⟩ := passed.presented
    exact natural _ _ _ presented.valid
  refine ⟨fun item member => ?_, supported⟩
  obtain ⟨document, passed, kept⟩ := evidence item member
  exact ⟨document, passed, none _ kept⟩

theorem prepare_policy {args : Args} (prepared : prepare world args = .ok inputs) :
    world.loadPolicy args.policy = .ok inputs.policy := by
  obtain ⟨_, _, prepared⟩ := bind_ok prepared
  obtain ⟨_, _, prepared⟩ := bind_ok prepared
  obtain ⟨sha, _, prepared⟩ := bind_ok prepared
  split at prepared
  · cases prepared
  obtain ⟨_, _, prepared⟩ := bind_ok prepared
  obtain ⟨policy, loaded, prepared⟩ := bind_ok prepared
  cases prepared
  exact uncaught_ok loaded

/-- The passing verdict comes from a clean composition. -/
theorem main_passing {args : Args} {emitted : Result} {code : Nat} (ran : main world args = .ok (emitted, code))
    (passing : emitted.verdict = passingVerdict) : ∃ inputs state counts, prepare world args = .ok inputs ∧
      emitted.gitSha = inputs.sha ∧ emitted.releaseId = inputs.releaseId ∧
      compose world inputs = .ok (state, counts) ∧ state.Clean := by
  obtain ⟨inputs, prepared, ran⟩ := bind_ok ran
  obtain ⟨composed, made, ran⟩ := bind_ok ran
  obtain ⟨errors, _, ran⟩ := bind_ok ran
  split at ran
  · cases ran
  obtain ⟨_, _, ran⟩ := bind_ok ran
  cases ran
  obtain ⟨⟨state, counts⟩, composition, made⟩ := bind_ok made
  obtain ⟨host, _, made⟩ := bind_ok made
  obtain ⟨target, _, made⟩ := bind_ok made
  obtain ⟨⟨status, blockers⟩, decided, made⟩ := bind_ok made
  obtain ⟨unique, _, made⟩ := bind_ok made
  cases made
  dsimp only at passing
  split_ifs at passing with passed
  · subst passed
    exact ⟨inputs, state, counts, prepared, rfl, rfl, composition, overall_passed decided⟩
  · exact absurd passing (by decide)

/-- **Soundness.** The passing verdict is emitted for a release only if it is ready, given schemas under which counts are
natural numbers. -/
theorem passing_verdict_sound {args : Args} {result : Result} {code : Nat}
    (natural : ∀ schema document label, world.validateDocument schema document label = .ok [] → CountsNatural document)
    (distinct : ∀ policy, world.loadPolicy args.policy = .ok policy → (policy.evidence.map Prod.fst).Nodup)
    (ran : main world args = .ok (result, code)) (passing : result.verdict = passingVerdict) :
    ∃ inputs, prepare world args = .ok inputs ∧ result.gitSha = inputs.sha ∧ result.releaseId = inputs.releaseId ∧
      Ready world inputs := by
  obtain ⟨inputs, state, counts, prepared, gitSha, releaseId, composed, clean⟩ := main_passing ran passing
  exact ⟨inputs, prepared, gitSha, releaseId,
    compose_ready natural (distinct inputs.policy (prepare_policy prepared)) composed clean⟩

/-! ### A sample release -/

/-- A schema that only looks at the counts. -/
def countsValid (document : Json) : Bool :=
  countContainers.all fun container => match document.get container with
    | .map members => members.all fun member => CorrectnessEvent.all.all fun event =>
        event.key ≠ member.1 || (match member.2 with
          | .integer n => decide (0 ≤ n)
          | _ => false)
    | _ => true

theorem countsNatural_of_valid {document : Json} (valid : countsValid document = true) : CountsNatural document := by
  intro container listed members held event value member
  have here := List.all_eq_true.1 valid container listed
  rw [held] at here
  have counted := List.all_eq_true.1 (List.all_eq_true.1 here _ member) event (by cases event <;> decide)
  simp only [ne_eq, not_true_eq_false, decide_false, Bool.false_or] at counted
  split at counted
  next n =>
    exact ⟨n.toNat, by rw [Int.toNat_of_nonneg (of_decide_eq_true counted)]⟩
  next => cases counted

/-- The policy of the repository. -/
def samplePolicy : Policy where
  evidence := [
    (.capacity, ⟨"contracts/readiness/capacity-result-v1.schema.json", 86400⟩),
    (.platformProbe, ⟨"contracts/readiness/live-platform-probe-v1.schema.json", 3600⟩),
    (.load, ⟨"contracts/readiness/load-result-v1.schema.json", 86400⟩),
    (.reconnect, ⟨"contracts/readiness/reconnect-storm-v1.schema.json", 86400⟩),
    (.recovery, ⟨"contracts/readiness/recovery-result-v1.schema.json", 604800⟩),
    (.resilience, ⟨"contracts/readiness/resilience-suite-result-v1.schema.json", 604800⟩),
    (.security, ⟨"contracts/readiness/security-result-v1.schema.json", 86400⟩),
    (.cutover, ⟨"contracts/readiness/cutover-result-v1.schema.json", 3600⟩),
    (.releaseRecovery, ⟨"contracts/readiness/rollback-result-v1.schema.json", 604800⟩)]
  checkpoint := some ⟨"contracts/readiness/checkpoint-result-v1.schema.json", 86400⟩
  compatibility := some ⟨"contracts/readiness/compatibility-result-v1.schema.json", 86400⟩
  ociMutations := some ⟨"contracts/readiness/oci-mutation-log-v1.schema.json", 86400⟩

def sampleSha : String := "0123456789abcdef0123456789abcdef01234567"

/-- The members that every sample document has. -/
def sampleMembers (time : String) : List (String × Json) :=
  [("git_sha", .string sampleSha), ("release_id", .string "r1"), ("environment", .string "production"),
    ("status", .string "passed"), ("observed_at", .string time)]

def sampleItems (field : String) (names : List String) : Json :=
  .list (names.map fun name => .map [(field, .string name), ("status", .string "passed")])

def sampleEvidence (kind : EvidenceKind) : Json :=
  .map (sampleMembers "2026-01-01T00:00:00Z" ++ [("evidence_mode", .string "live"), ("observed_release_id", .string "r1"),
    ("correctness_events", .map (CorrectnessEvent.all.map fun event => (event.key, .integer 0)))]
    ++ kind.exactNames.map fun names => (names.container, sampleItems names.field names.expected))

def sampleCheckpoint (time name : String) : Json :=
  .map (sampleMembers time ++ [("name", .string name), ("blockers", .list [])])

/-- A world where all documents are there; the supporting ones were observed at `time`. -/
def sampleWorld (time : String) : World where
  loadJson path := match
      (samplePolicy.evidence.map fun item => ("evidence/" ++ item.1.text, sampleEvidence item.1)).lookup path,
      (checkpointNames.map fun name => ("checkpoint/" ++ name, sampleCheckpoint time name)).lookup path with
    | some document, _ => .ok document
    | _, some document => .ok document
    | _, _ => if path = "compatibility" then
        .ok (.map (sampleMembers time ++ [("checks", sampleItems "name" (compatibilityOwners.map Prod.fst))]))
      else if path = "mutations" then .ok (.map (sampleMembers time))
      else .error (.caught "no such file")
  loadPolicy _ := .ok samplePolicy
  validateDocument _ document _ := .ok (if countsValid document then [] else ["count"])
  validateResult _ := .ok []
  writeJson _ _ := .ok ()
  sha256File _ := .ok ""
  resolve := id
  relativeRef := id
  gitSha := .ok sampleSha
  clock := 1767225600000000
  parseDatetime text := if text = "2026-01-01T00:00:00Z" then .ok 1767225600000000
    else if text = "2026-01-02T00:00:00Z" then .ok 1767312000000000 else .error (.caught "Invalid isoformat string")
  isoformat _ := "2026-01-01T00:00:00Z"
  str _ := ""
  sortedRepr _ := .ok ""

def sampleArgs : Args where
  policy := "evidence-policy-v1.json"
  gitSha := none
  releaseId := "r1"
  environment := .production
  evidence := samplePolicy.evidence.map fun item => item.1.text ++ "=evidence/" ++ item.1.text
  checkpoint := checkpointNames.map fun name => name ++ "=checkpoint/" ++ name
  compatibility := some "compatibility"
  ociMutations := some "mutations"
  output := "readiness.json"
  allowNotReady := false
  now := none

/-- The verdict and the exit status of a run that has emitted one. -/
def verdictOf (ran : Script (Result × Nat)) : Option (String × Nat) :=
  match ran with
  | .ok (result, code) => some (result.verdict, code)
  | .error _ => none

theorem verdictOf_passing {ran : Script (Result × Nat)} {code : Nat} (passes : verdictOf ran = some (passingVerdict, code)) :
    ∃ emitted, ran = .ok (emitted, code) ∧ emitted.verdict = passingVerdict := by
  unfold verdictOf at passes
  split at passes
  next emitted status =>
    simp only [Option.some.injEq, Prod.mk.injEq] at passes
    obtain ⟨verdict, rfl⟩ := passes
    exact ⟨emitted, rfl, verdict⟩
  next => cases passes

/-- What the run on the sample release works on. -/
def sampleInputs : Inputs where
  policy := samplePolicy
  sha := sampleSha
  releaseId := "r1"
  environment := .production
  now := 1767225600000000
  nowText := "2026-01-01T00:00:00Z"
  evidencePaths := samplePolicy.evidence.map fun item => (item.1.text, "evidence/" ++ item.1.text)
  checkpointPaths := checkpointNames.map fun name => (name, "checkpoint/" ++ name)
  compatibility := some "compatibility"
  ociMutations := some "mutations"

theorem sample_prepared (time : String) : prepare (sampleWorld time) sampleArgs = .ok sampleInputs := by
  have closed : prepare (sampleWorld "") sampleArgs = .ok sampleInputs := by decide +kernel
  exact closed

theorem sample_passes : verdictOf (main (sampleWorld "2026-01-01T00:00:00Z") sampleArgs) = some (passingVerdict, 0) := by
  unfold main
  rw [sample_prepared]
  decide +kernel

theorem sample_release_ready : Ready (sampleWorld "2026-01-01T00:00:00Z") sampleInputs := by
  obtain ⟨emitted, ran, passing⟩ := verdictOf_passing sample_passes
  obtain ⟨inputs, prepared, _, _, ready⟩ := passing_verdict_sound (fun _ document _ valid => by
    refine countsNatural_of_valid ?_
    have none := Except.ok.inj valid
    split_ifs at none with natural
    exact natural) (fun policy loaded => by
    cases loaded
    decide) ran passing
  rw [sample_prepared] at prepared
  cases prepared
  exact ready

end Liqi.Readiness
