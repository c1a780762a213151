import Liqi.Native.SequenceDiff
import Liqi.Runtime.Config

/-!
# The native kernel as the runtime calls it

`Kernel.sequence_diff` admits a call by the native budget, encodes the ids and runs the kernel under the
configured policy. `sequenceDiff_consecutive` is what gap repair relies on: for a page without gaps it finds
nothing missing, if the kernel can be used at all.
-/

namespace Liqi.Native

open Beam Liqi.Runtime

/-- A node: its configuration, the native module and the permits in use. -/
structure Node where
  config : RuntimeConfig
  nif : Nif
  nativeInUse : Int
  databaseInUse : Int

inductive KernelError where
  | invalidInput
  | nativeCapacity
  | invalidSequence
  | nativeKernel (code : ErrorCode) (retryable : Bool)
  deriving DecidableEq

def policy : NativeMode → Policy
  | .disabled => .reference
  | .optional => .nativePreferred
  | .required => .nativeRequired

/-- `encode_sequences`, `none` where it raises. -/
def encodeSequences (sequences : List Int) : Option Binary :=
  if sequences.all fun sequence => 0 ≤ sequence ∧ sequence ≤ maxU64 then
    some (sequences.flatMap fun sequence => bigEndian 8 sequence.toNat)
  else none

/-- The work done under the permit. -/
def Node.compactSequences (node : Node) (sequences : List Int) (afterSequence throughSequence : Int) :
    Except KernelError (List SequenceRange) :=
  match encodeSequences sequences with
  | none => .error .invalidSequence
  | some observed =>
    match compact node.nif (afterSequence + 1) throughSequence observed (policy node.config.nativeMode) with
    | .ok (result, _) => .ok result.missingRanges
    | .error (failure, _) => .error (.nativeKernel failure.code failure.retryable)

/-- `Kernel.sequence_diff`. -/
def Node.sequenceDiff (node : Node) (sequences : List Int) (afterSequence throughSequence : Int) :
    Except KernelError (List SequenceRange) :=
  if throughSequence = afterSequence then .ok []
  else if 0 ≤ afterSequence ∧ afterSequence < throughSequence then
    withPermit node.config.nativeConcurrency node.nativeInUse .nativeCapacity
      (node.compactSequences sequences afterSequence throughSequence)
  else .error .invalidInput

/-- A native permit is free, and the native module is loaded if it is required. -/
structure Node.KernelUsable (node : Node) : Prop where
  permit : node.nativeInUse < node.config.nativeConcurrency
  loaded : node.config.nativeMode = .required → node.nif = .loaded

section Gapless

variable {first count : Nat}

/-- Where the reference finds a result, every policy finds it, unless a required native module is missing. -/
theorem compact_of_reference {nif : Nif} {mode : NativeMode} {first last : Int} {observed : Binary}
    {result : SequenceDiff} (window : 0 ≤ first ∧ 0 ≤ last ∧ first ≤ maxU64 ∧ last ≤ maxU64)
    (found : Reference.compact first last observed = .ok result) (loaded : mode = .required → nif = .loaded) :
    ∃ execution, compact nif first last observed (policy mode) = .ok (result, execution) := by
  have native := reference_eq_native window observed
  rw [found] at native
  have fallback : ∀ (used : Bool) (reason : Option ErrorCode),
      ∃ execution, referenceReply first last observed used reason = .ok (result, execution) := by
    intro used reason
    unfold referenceReply
    rw [found]
    exact ⟨_, rfl⟩
  cases mode with
  | disabled => exact fallback false none
  | required =>
    rw [loaded rfl]
    simp only [policy, compact, ← native]
    exact ⟨_, rfl⟩
  | optional =>
    cases nif with
    | loaded =>
      simp only [policy, compact, ← native]
      exact ⟨_, rfl⟩
    | notLoaded => exact fallback true (some .unavailable)
    | otherVersion => exact fallback true (some .versionMismatch)

/-- A required native module that is missing answers with an error. -/
theorem compact_required {nif : Nif} {first last : Int} {observed : Binary} (missing : nif ≠ .loaded) :
    ∃ failure, compact nif first last observed (policy .required) = .error failure := by
  cases nif with
  | loaded => exact absurd rfl missing
  | notLoaded | otherVersion => exact ⟨_, rfl⟩

theorem encodeSequences_range (small : first + count ≤ maxU64) :
    encodeSequences ((List.range' first count).map Int.ofNat)
      = some ((List.range' first count).flatMap (bigEndian 8)) := by
  unfold encodeSequences
  rw [if_pos, List.flatMap_map]
  · rfl
  · simp only [List.all_map, List.all_eq_true, List.mem_range', Function.comp_apply, decide_eq_true_eq]
    rintro _ ⟨i, inside, rfl⟩
    simp only [Int.ofNat_eq_natCast]
    omega

/-- **No gap in a page.** For the ids after a cursor, without a gap, nothing is missing if the kernel can be
used, and otherwise there is an error. -/
theorem Node.sequenceDiff_consecutive (node : Node) (after count : Nat) (nonempty : 0 < count)
    (bounded : count ≤ maxObservedSequences) (small : after + count < maxU64) :
    let diff := node.sequenceDiff ((List.range' (after + 1) count).map Int.ofNat) after ((after + count : Nat) : Int)
    (node.KernelUsable → diff = .ok []) ∧ (¬ node.KernelUsable → ∃ failure, diff = .error failure) := by
  obtain ⟨result, found, complete⟩ := compact_gapless nonempty bounded (by omega : after + 1 + count ≤ maxU64)
  have last : ((after + 1 + count - 1 : Nat) : Int) = ((after + count : Nat) : Int) := by omega
  rw [last] at found
  have moved : ¬ ((after + count : Nat) : Int) = after := by omega
  have ahead : (0 : Int) ≤ after ∧ (after : Int) < ((after + count : Nat) : Int) := by omega
  unfold Node.sequenceDiff withPermit Node.compactSequences
  rw [if_neg moved, if_pos ahead, encodeSequences_range (by omega)]
  dsimp only
  constructor
  · intro usable
    have free : ¬ node.config.nativeConcurrency ≤ node.nativeInUse := by have := usable.permit; omega
    obtain ⟨execution, answered⟩ := compact_of_reference (by omega) found usable.loaded
    have start : ((after : Int) + 1) = ((after + 1 : Nat) : Int) := by omega
    rw [if_neg free, start, answered]
    exact congrArg Except.ok complete
  · intro unusable
    by_cases free : node.config.nativeConcurrency ≤ node.nativeInUse
    · rw [if_pos free]
      exact ⟨_, rfl⟩
    · have required : node.config.nativeMode = .required ∧ node.nif ≠ .loaded := by
        by_contra usable
        exact unusable ⟨by omega, fun required => by_contra fun missing => usable ⟨required, missing⟩⟩
      obtain ⟨failure, answered⟩ := compact_required required.2
      rw [if_neg free, required.1, answered]
      exact ⟨_, rfl⟩

end Gapless

end Liqi.Native
