import Liqi.Beam.Binary

/-!
# The sequence diff kernel

`compact_sequence_diff` reports the ids of a window that are missing from an ordered list of observed ids.
It exists twice: as the Elixir reference and as a Rust function behind a NIF. `compact` chooses between them
by policy. Both are translated here with their limits and error texts, and `reference_eq_native` says that
they agree on windows of 64-bit integers.
-/

namespace Liqi.Native

open Beam

inductive ErrorCode where
  | invalidWindow
  | windowTooLarge
  | inputTooLarge
  | invalidEncoding
  | sequenceOutOfOrder
  | sequenceOutOfWindow
  | unavailable
  | versionMismatch
  | panic
  deriving DecidableEq

/-- The error map of both implementations. -/
structure NativeError where
  code : ErrorCode
  retryable : Bool
  detail : String
  deriving DecidableEq

structure SequenceRange where
  first : Nat
  last : Nat
  deriving DecidableEq

structure SequenceDiff where
  missingRanges : List SequenceRange
  observedCount : Nat
  uniqueCount : Nat
  duplicateCount : Nat
  deriving DecidableEq

def maxU64 : Nat := 18446744073709551615

def maxObservedSequences : Nat := 2048

def maxInputBytes : Nat := maxObservedSequences * 8

def maxWindowSpan : Nat := 65536

def maxOutputRanges : Nat := maxObservedSequences + 1

/-! ## The Elixir reference -/

namespace Reference

def error {α : Type} (code : ErrorCode) (detail : String) : Except NativeError α :=
  .error { code, retryable := false, detail }

def validateWindow (expectedFirst expectedLast : Int) : Except NativeError Unit :=
  if expectedFirst < 0 ∨ expectedLast < 0 ∨ (maxU64 : Int) < expectedFirst ∨ (maxU64 : Int) < expectedLast then
    error .invalidWindow "window_values_must_be_unsigned_u64"
  else if expectedLast < expectedFirst then
    error .invalidWindow "expected_first_must_not_exceed_expected_last"
  else if (maxWindowSpan : Int) < expectedLast - expectedFirst + 1 then
    error .windowTooLarge "expected_window_exceeds_declared_span"
  else .ok ()

def validateInput (observed : Binary) : Except NativeError Unit :=
  if maxInputBytes < observed.length then error .inputTooLarge "observed_binary_exceeds_declared_bytes"
  else if observed.length % 8 ≠ 0 then
    error .invalidEncoding "observed_binary_must_contain_complete_u64_values"
  else .ok ()

/-- The accumulators of `do_compact`; the ranges are in reverse. -/
structure Scan where
  previous : Option Nat
  nextMissing : Option Nat
  missingRanges : List SequenceRange
  observedCount : Nat
  uniqueCount : Nat
  duplicateCount : Nat

/-- `final_ranges`, still in reverse. -/
def finalRanges (expectedLast : Nat) (scan : Scan) : List SequenceRange :=
  match scan.nextMissing with
  | some first => if first ≤ expectedLast then ⟨first, expectedLast⟩ :: scan.missingRanges else scan.missingRanges
  | none => scan.missingRanges

/-- The clause of `do_compact` for the end of the binary. -/
def finish (expectedLast : Nat) (scan : Scan) : SequenceDiff where
  missingRanges := (finalRanges expectedLast scan).reverse
  observedCount := scan.observedCount
  uniqueCount := scan.uniqueCount
  duplicateCount := scan.duplicateCount

/-- The accumulators after a sequence that was not observed before. -/
def Scan.observe (scan : Scan) (sequence : Nat) : Scan where
  previous := some sequence
  nextMissing := if sequence = maxU64 then none else some (sequence + 1)
  missingRanges := match scan.nextMissing with
    | some next => if next < sequence then ⟨next, sequence - 1⟩ :: scan.missingRanges else scan.missingRanges
    | none => scan.missingRanges
  observedCount := scan.observedCount + 1
  uniqueCount := scan.uniqueCount + 1
  duplicateCount := scan.duplicateCount

/-- The accumulators after a sequence that repeats the previous one. -/
def Scan.repeated (scan : Scan) : Scan :=
  { scan with observedCount := scan.observedCount + 1, duplicateCount := scan.duplicateCount + 1 }

@[simp] theorem Scan.observe_observedCount {scan : Scan} {sequence : Nat} :
    (scan.observe sequence).observedCount = scan.observedCount + 1 := rfl

@[simp] theorem Scan.repeated_observedCount {scan : Scan} : scan.repeated.observedCount = scan.observedCount + 1 := rfl

/-- `do_compact` over the words of the binary. -/
def doCompact (expectedFirst expectedLast : Nat) : List Nat → Scan → Except NativeError SequenceDiff
  | [], scan => .ok (finish expectedLast scan)
  | sequence :: rest, scan =>
    if sequence < expectedFirst ∨ expectedLast < sequence then
      error .sequenceOutOfWindow "observed_sequence_is_outside_expected_window"
    else if scan.previous.any (sequence < ·) then
      error .sequenceOutOfOrder "observed_sequences_must_be_non_decreasing"
    else if scan.previous = some sequence then doCompact expectedFirst expectedLast rest scan.repeated
    else doCompact expectedFirst expectedLast rest (scan.observe sequence)

def start (expectedFirst : Nat) : Scan where
  previous := none
  nextMissing := some expectedFirst
  missingRanges := []
  observedCount := 0
  uniqueCount := 0
  duplicateCount := 0

def compact (expectedFirst expectedLast : Int) (observed : Binary) : Except NativeError SequenceDiff := do
  validateWindow expectedFirst expectedLast
  validateInput observed
  doCompact expectedFirst.toNat expectedLast.toNat (words64 observed) (start expectedFirst.toNat)

end Reference

/-! ## The Rust kernel -/

namespace Core

/-- `SequenceDiffError`. -/
inductive SequenceDiffError where
  | invalidWindow (expectedFirst expectedLast : Nat)
  | windowTooLarge (actualSpan maximumSpan : Nat)
  | inputTooLarge (actualBytes maximumBytes : Nat)
  | invalidEncodingLength (actualBytes : Nat)
  | sequenceOutOfOrder (index previous actual : Nat)
  | sequenceOutOfWindow (index actual expectedFirst expectedLast : Nat)
  deriving DecidableEq

def SequenceDiffError.code : SequenceDiffError → ErrorCode
  | .invalidWindow .. => .invalidWindow
  | .windowTooLarge .. => .windowTooLarge
  | .inputTooLarge .. => .inputTooLarge
  | .invalidEncodingLength .. => .invalidEncoding
  | .sequenceOutOfOrder .. => .sequenceOutOfOrder
  | .sequenceOutOfWindow .. => .sequenceOutOfWindow

def SequenceDiffError.detail : SequenceDiffError → String
  | .invalidWindow .. => "expected_first_must_not_exceed_expected_last"
  | .windowTooLarge .. => "expected_window_exceeds_declared_span"
  | .inputTooLarge .. => "observed_binary_exceeds_declared_bytes"
  | .invalidEncodingLength .. => "observed_binary_must_contain_complete_u64_values"
  | .sequenceOutOfOrder .. => "observed_sequences_must_be_non_decreasing"
  | .sequenceOutOfWindow .. => "observed_sequence_is_outside_expected_window"

/-- `saturating_add` on `u64`. -/
def saturatingAdd (a b : Nat) : Nat := min (a + b) maxU64

/-- `checked_add` on `u64`. -/
def checkedAdd (a b : Nat) : Option Nat := if a + b ≤ maxU64 then some (a + b) else none

def validateWindow (expectedFirst expectedLast : Nat) : Except SequenceDiffError Unit :=
  if expectedLast < expectedFirst then .error (.invalidWindow expectedFirst expectedLast)
  else
    let actualSpan := saturatingAdd (expectedLast - expectedFirst) 1
    if maxWindowSpan < actualSpan then .error (.windowTooLarge actualSpan maxWindowSpan) else .ok ()

def validateInputBytes (observed : Binary) : Except SequenceDiffError Unit :=
  if maxInputBytes < observed.length then .error (.inputTooLarge observed.length maxInputBytes)
  else if observed.length % 8 ≠ 0 then .error (.invalidEncodingLength observed.length)
  else .ok ()

/-- The variables of the loop. -/
structure Loop where
  missingRanges : List SequenceRange
  uniqueCount : Nat
  duplicateCount : Nat
  previous : Option Nat
  nextMissing : Option Nat

/-- The rest of the loop body, for a sequence that is neither out of order nor a duplicate. -/
def Loop.observe (loop : Loop) (sequence : Nat) : Loop where
  missingRanges := match loop.nextMissing with
    | some firstMissing =>
      if firstMissing < sequence then loop.missingRanges ++ [⟨firstMissing, sequence - 1⟩] else loop.missingRanges
    | none => loop.missingRanges
  uniqueCount := saturatingAdd loop.uniqueCount 1
  duplicateCount := loop.duplicateCount
  previous := some sequence
  nextMissing := checkedAdd sequence 1

/-- The loop over the enumerated words. -/
def scan (expectedFirst expectedLast : Nat) : Nat → List Nat → Loop → Except SequenceDiffError Loop
  | _, [], loop => .ok loop
  | index, sequence :: rest, loop =>
    if sequence < expectedFirst ∨ expectedLast < sequence then
      .error (.sequenceOutOfWindow index sequence expectedFirst expectedLast)
    else match loop.previous with
      | some previous =>
        if sequence < previous then .error (.sequenceOutOfOrder index previous sequence)
        else if sequence = previous then
          scan expectedFirst expectedLast (index + 1) rest
            { loop with duplicateCount := saturatingAdd loop.duplicateCount 1 }
        else scan expectedFirst expectedLast (index + 1) rest (loop.observe sequence)
      | none => scan expectedFirst expectedLast (index + 1) rest (loop.observe sequence)

def start (expectedFirst : Nat) : Loop where
  missingRanges := []
  uniqueCount := 0
  duplicateCount := 0
  previous := none
  nextMissing := some expectedFirst

/-- The result after the loop. -/
def finish (expectedLast observedCount : Nat) (loop : Loop) : SequenceDiff where
  missingRanges := match loop.nextMissing with
    | some firstMissing =>
      if firstMissing ≤ expectedLast then loop.missingRanges ++ [⟨firstMissing, expectedLast⟩] else loop.missingRanges
    | none => loop.missingRanges
  observedCount := observedCount
  uniqueCount := loop.uniqueCount
  duplicateCount := loop.duplicateCount

/-- `compact_sequence_diff`. -/
def compactSequenceDiff (expectedFirst expectedLast : Nat) (observed : Binary) :
    Except SequenceDiffError SequenceDiff := do
  validateWindow expectedFirst expectedLast
  validateInputBytes observed
  let loop ← scan expectedFirst expectedLast 0 (words64 observed) (start expectedFirst)
  return finish expectedLast (observed.length / 8) loop

/-! ### Steps that may panic

The same function with every step that could end it: a subtraction below zero, a vector of more than `isize::MAX` bytes
and the assertion on the number of ranges. `none` is a panic. -/

/-- `a - b` on `u64`. -/
def u64Sub (a b : Nat) : Option Nat := if b ≤ a then some (a - b) else none

def Loop.observeOrPanic (loop : Loop) (sequence : Nat) : Option Loop := do
  let missingRanges ← match loop.nextMissing with
    | some firstMissing =>
      if firstMissing < sequence then
        (u64Sub sequence 1).map fun last => loop.missingRanges ++ [⟨firstMissing, last⟩]
      else some loop.missingRanges
    | none => some loop.missingRanges
  return { loop.observe sequence with missingRanges }

def scanOrPanic (expectedFirst expectedLast : Nat) : Nat → List Nat → Loop → Option (Except SequenceDiffError Loop)
  | _, [], loop => some (.ok loop)
  | index, sequence :: rest, loop =>
    if sequence < expectedFirst ∨ expectedLast < sequence then
      some (.error (.sequenceOutOfWindow index sequence expectedFirst expectedLast))
    else match loop.previous with
      | some previous =>
        if sequence < previous then some (.error (.sequenceOutOfOrder index previous sequence))
        else if sequence = previous then
          scanOrPanic expectedFirst expectedLast (index + 1) rest
            { loop with duplicateCount := saturatingAdd loop.duplicateCount 1 }
        else (loop.observeOrPanic sequence).bind (scanOrPanic expectedFirst expectedLast (index + 1) rest)
      | none => (loop.observeOrPanic sequence).bind (scanOrPanic expectedFirst expectedLast (index + 1) rest)

/-- `Vec::with_capacity` for elements of `size` bytes. -/
def withCapacity (capacity size : Nat) : Option Unit := if capacity * size < 2 ^ 63 then some () else none

/-- `compact_sequence_diff`, or a panic. -/
def compactOrPanic (expectedFirst expectedLast : Nat) (observed : Binary) :
    Option (Except SequenceDiffError SequenceDiff) :=
  match validateWindow expectedFirst expectedLast with
  | .error failure => some (.error failure)
  | .ok () => match validateInputBytes observed with
    | .error failure => some (.error failure)
    | .ok () => do
      withCapacity (saturatingAdd (observed.length / 8) 1) 16
      match ← scanOrPanic expectedFirst expectedLast 0 (words64 observed) (start expectedFirst) with
      | .error failure => return .error failure
      | .ok loop =>
        let diff := finish expectedLast (observed.length / 8) loop
        if diff.missingRanges.length ≤ maxOutputRanges then return .ok diff else none

end Core

/-! ## The choice between them -/

/-- What `kernel_info_v1` of the native module does. -/
inductive Nif where
  | loaded
  | notLoaded
  | otherVersion
  deriving DecidableEq

inductive Policy where
  | nativePreferred
  | nativeRequired
  | reference
  deriving DecidableEq

inductive Implementation where
  | native
  | reference
  | none
  deriving DecidableEq

structure Execution where
  implementation : Implementation
  fallback : Bool
  fallbackReason : Option ErrorCode
  deriving DecidableEq

def unavailable {α : Type} (detail : String) : Except NativeError α :=
  .error { code := .unavailable, retryable := true, detail }

/-- `to_native_error`. -/
def Core.SequenceDiffError.toNative (failure : SequenceDiffError) : NativeError where
  code := failure.code
  retryable := false
  detail := failure.detail

/-- `compact_sequence_diff_v1`; `guarded` turns a panic into an error. -/
def compactSequenceDiffV1 (expectedFirst expectedLast : Nat) (observed : Binary) : Except NativeError SequenceDiff :=
  match Core.compactOrPanic expectedFirst expectedLast observed with
  | some (.ok diff) => .ok diff
  | some (.error failure) => .error failure.toNative
  | none => .error { code := .panic, retryable := false, detail := "native_kernel_panicked" }

def negotiate : Nif → Except NativeError Unit
  | .loaded => .ok ()
  | .notLoaded => unavailable "native_capability_probe_failed"
  | .otherVersion => .error {
      code := .versionMismatch
      retryable := false
      detail := "native_capability_does_not_match_required_kernel_contract" }

/-- `native_reply`; an argument that is no `u64` raises in the NIF's argument decoding. -/
def nativeReply (nif : Nif) (expectedFirst expectedLast : Int) (observed : Binary) : Except NativeError SequenceDiff :=
  (negotiate nif).bind fun _ =>
  if expectedFirst < 0 ∨ expectedLast < 0 ∨ (maxU64 : Int) < expectedFirst ∨ (maxU64 : Int) < expectedLast then
    unavailable "native_call_failed"
  else compactSequenceDiffV1 expectedFirst.toNat expectedLast.toNat observed

def isOptionalFailure : ErrorCode → Bool
  | .unavailable => true
  | .versionMismatch => true
  | .panic => true
  | _ => false

/-- The answer of the reference, with its execution. -/
def referenceReply (expectedFirst expectedLast : Int) (observed : Binary) (fallback : Bool)
    (reason : Option ErrorCode) : Except (NativeError × Execution) (SequenceDiff × Execution) :=
  let execution : Execution := { implementation := .reference, fallback, fallbackReason := reason }
  match Reference.compact expectedFirst expectedLast observed with
  | .ok result => .ok (result, execution)
  | .error failure => .error (failure, execution)

/-- `compact_with_native`. -/
def compact (nif : Nif) (expectedFirst expectedLast : Int) (observed : Binary) (policy : Policy) :
    Except (NativeError × Execution) (SequenceDiff × Execution) :=
  match policy with
  | .reference => referenceReply expectedFirst expectedLast observed false none
  | policy =>
    match nativeReply nif expectedFirst expectedLast observed with
    | .ok result => .ok (result, { implementation := .native, fallback := false, fallbackReason := none })
    | .error failure =>
      if policy = .nativePreferred ∧ isOptionalFailure failure.code then
        referenceReply expectedFirst expectedLast observed true (some failure.code)
      else .error (failure, { implementation := .none, fallback := false, fallbackReason := none })

/-! ## The kernel does not panic -/

namespace Core

variable {expectedFirst expectedLast : Nat} {loop : Loop}

/-- Something is missing before a sequence only if the sequence is positive. -/
theorem Loop.observeOrPanic_eq (loop : Loop) (sequence : Nat) :
    loop.observeOrPanic sequence = some (loop.observe sequence) := by
  unfold Loop.observeOrPanic Loop.observe
  rcases loop.nextMissing with _ | firstMissing
  · rfl
  · by_cases gap : firstMissing < sequence
    · have positive : u64Sub sequence 1 = some (sequence - 1) := if_pos (by omega)
      simp [gap, positive]
    · simp [gap]

theorem scanOrPanic_eq (index : Nat) (words : List Nat) (loop : Loop) :
    scanOrPanic expectedFirst expectedLast index words loop = some (scan expectedFirst expectedLast index words loop) := by
  induction words generalizing index loop with
  | nil => rfl
  | cons sequence rest ih =>
    have observed : (loop.observeOrPanic sequence).bind (scanOrPanic expectedFirst expectedLast (index + 1) rest)
        = some (scan expectedFirst expectedLast (index + 1) rest (loop.observe sequence)) := by
      rw [Loop.observeOrPanic_eq]
      exact ih (index + 1) (loop.observe sequence)
    unfold scanOrPanic scan
    rw [observed, ih]
    split_ifs
    · rfl
    · rcases loop.previous with _ | previous
      · rfl
      · dsimp only
        split_ifs <;> rfl

/-- Each word adds at most one range. -/
theorem scan_ranges {index : Nat} {words : List Nat} {ended : Loop}
    (scanned : scan expectedFirst expectedLast index words loop = .ok ended) :
    ended.missingRanges.length ≤ loop.missingRanges.length + words.length := by
  induction words generalizing index loop with
  | nil =>
    cases scanned
    exact Nat.le_refl _
  | cons sequence rest ih =>
    have observed : (loop.observe sequence).missingRanges.length ≤ loop.missingRanges.length + 1 := by
      dsimp only [Loop.observe]
      rcases loop.nextMissing with _ | firstMissing
      · exact Nat.le_succ _
      · dsimp only
        split_ifs
        · rw [List.length_append]
          exact Nat.le_refl _
        · exact Nat.le_succ _
    rw [List.length_cons]
    unfold scan at scanned
    split_ifs at scanned
    rcases known : loop.previous with _ | previous
    · rw [known] at scanned
      have rest := ih scanned
      omega
    · rw [known] at scanned
      dsimp only at scanned
      split_ifs at scanned
      · have rest := ih scanned
        dsimp only at rest
        omega
      · have rest := ih scanned
        omega

theorem finish_ranges (expectedLast : Nat) (loop : Loop) (observedCount : Nat) :
    (finish expectedLast observedCount loop).missingRanges.length ≤ loop.missingRanges.length + 1 := by
  dsimp only [finish]
  rcases loop.nextMissing with _ | firstMissing
  · exact Nat.le_succ _
  · dsimp only
    split_ifs
    · rw [List.length_append]
      exact Nat.le_refl _
    · exact Nat.le_succ _

theorem validateInputBytes_ok {observed : Binary} (valid : validateInputBytes observed = .ok ()) :
    observed.length ≤ maxInputBytes ∧ observed.length % 8 = 0 := by
  unfold validateInputBytes at valid
  split_ifs at valid with long ragged
  exact ⟨Nat.not_lt.1 long, not_not.1 ragged⟩

/-- The ranges of a result are at most one more than the sequences that an input may have. -/
theorem finish_few {observed : Binary} {loop : Loop} (valid : validateInputBytes observed = .ok ())
    (scanned : scan expectedFirst expectedLast 0 (words64 observed) (start expectedFirst) = .ok loop) :
    (finish expectedLast (observed.length / 8) loop).missingRanges.length ≤ maxOutputRanges := by
  have short := (validateInputBytes_ok valid).1
  have ranges := scan_ranges scanned
  have last := finish_ranges expectedLast loop (observed.length / 8)
  have none : (start expectedFirst).missingRanges.length = 0 := rfl
  rw [length_words64] at ranges
  unfold maxInputBytes maxObservedSequences at short
  unfold maxOutputRanges maxObservedSequences
  omega

/-- **No panic.** Every step of the kernel has a result. -/
theorem compactOrPanic_eq (observed : Binary) :
    compactOrPanic expectedFirst expectedLast observed = some (compactSequenceDiff expectedFirst expectedLast observed) := by
  unfold compactOrPanic compactSequenceDiff
  rcases validateWindow expectedFirst expectedLast with failure | _
  · rfl
  rcases valid : validateInputBytes observed with failure | _
  · rfl
  have short := (validateInputBytes_ok valid).1
  unfold maxInputBytes maxObservedSequences at short
  have capacity : withCapacity (saturatingAdd (observed.length / 8) 1) 16 = some () := by
    refine if_pos ?_
    unfold saturatingAdd maxU64
    omega
  rw [capacity, scanOrPanic_eq]
  rcases scanned : scan expectedFirst expectedLast 0 (words64 observed) (start expectedFirst) with failure | loop
  · rfl
  exact if_pos (finish_few valid scanned)

end Core

/-! ## Both kernels agree -/

/-- The accumulators of the reference and the variables of the loop hold the same values. -/
structure Agree (scan : Reference.Scan) (loop : Core.Loop) : Prop where
  previous : loop.previous = scan.previous
  nextMissing : loop.nextMissing = scan.nextMissing
  missingRanges : loop.missingRanges = scan.missingRanges.reverse
  uniqueCount : loop.uniqueCount = scan.uniqueCount
  duplicateCount : loop.duplicateCount = scan.duplicateCount

section Parity

variable {expectedFirst expectedLast : Nat} {scan : Reference.Scan} {loop : Core.Loop}

theorem Agree.finish (agree : Agree scan loop) :
    Reference.finish expectedLast scan = Core.finish expectedLast scan.observedCount loop := by
  unfold Reference.finish Core.finish Reference.finalRanges
  rw [agree.nextMissing, agree.missingRanges, agree.uniqueCount, agree.duplicateCount]
  rcases scan.nextMissing with _ | first
  · rfl
  · by_cases within : first ≤ expectedLast <;> simp [within]

theorem saturatingAdd_one {n : Nat} (small : n < maxU64) : Core.saturatingAdd n 1 = n + 1 := by
  unfold Core.saturatingAdd
  omega

/-- The counters of a scan are far from saturation while `remaining` words are left. -/
structure Counting (remaining : Nat) (scan : Reference.Scan) : Prop where
  counted : scan.uniqueCount + scan.duplicateCount = scan.observedCount
  bounded : scan.observedCount + remaining ≤ maxU64

theorem Counting.observe {remaining sequence : Nat} (counting : Counting (remaining + 1) scan) :
    Counting remaining (scan.observe sequence) := by
  have counted := counting.counted
  have bounded := counting.bounded
  constructor <;> dsimp only [Reference.Scan.observe] <;> omega

theorem Counting.repeated {remaining : Nat} (counting : Counting (remaining + 1) scan) :
    Counting remaining scan.repeated := by
  have counted := counting.counted
  have bounded := counting.bounded
  constructor <;> dsimp only [Reference.Scan.repeated] <;> omega

theorem Agree.observe {remaining sequence : Nat} (agree : Agree scan loop) (counting : Counting (remaining + 1) scan)
    (small : sequence ≤ maxU64) : Agree (scan.observe sequence) (loop.observe sequence) where
  previous := rfl
  nextMissing := by
    dsimp only [Core.Loop.observe, Reference.Scan.observe, Core.checkedAdd]
    by_cases top : sequence = maxU64
    · simp [top]
    · simp only [top, if_false]
      exact if_pos (by omega)
  missingRanges := by
    dsimp only [Core.Loop.observe, Reference.Scan.observe]
    rw [agree.nextMissing, agree.missingRanges]
    rcases scan.nextMissing with _ | next
    · rfl
    · by_cases gap : next < sequence <;> simp [gap]
  uniqueCount := by
    have counted := counting.counted
    have bounded := counting.bounded
    dsimp only [Core.Loop.observe, Reference.Scan.observe]
    rw [agree.uniqueCount, saturatingAdd_one (by omega)]
  duplicateCount := agree.duplicateCount

theorem Agree.repeated {remaining : Nat} (agree : Agree scan loop) (counting : Counting (remaining + 1) scan) :
    Agree scan.repeated { loop with duplicateCount := Core.saturatingAdd loop.duplicateCount 1 } where
  previous := agree.previous
  nextMissing := agree.nextMissing
  missingRanges := agree.missingRanges
  uniqueCount := agree.uniqueCount
  duplicateCount := by
    have counted := counting.counted
    have bounded := counting.bounded
    dsimp only [Reference.Scan.repeated]
    rw [agree.duplicateCount, saturatingAdd_one (by omega)]

/-- The loop ends with the error of the reference, or with its result. -/
theorem doCompact_eq_scan (expectedFirst : Nat) (window : expectedLast ≤ maxU64) (words : List Nat) (index : Nat)
    (agree : Agree scan loop) (counting : Counting words.length scan) :
    Reference.doCompact expectedFirst expectedLast words scan
      = ((Core.scan expectedFirst expectedLast index words loop).mapError Core.SequenceDiffError.toNative).map
          (Core.finish expectedLast (scan.observedCount + words.length)) := by
  induction words generalizing scan loop index with
  | nil => exact congrArg Except.ok agree.finish
  | cons sequence rest ih =>
    have total : scan.observedCount + (rest.length + 1) = scan.observedCount + 1 + rest.length := by omega
    rw [List.length_cons] at counting ⊢
    rw [total]
    unfold Reference.doCompact Core.scan
    by_cases outside : sequence < expectedFirst ∨ expectedLast < sequence
    · simp only [outside, if_true]
      rfl
    have observed := ih (index + 1) (agree.observe counting (by omega : sequence ≤ maxU64)) counting.observe
    have repeated := ih (index + 1) (agree.repeated counting) counting.repeated
    rw [Reference.Scan.observe_observedCount] at observed
    rw [Reference.Scan.repeated_observedCount] at repeated
    simp only [outside, if_false]
    rw [← agree.previous]
    rcases known : loop.previous with _ | previous
    · simpa using observed
    · by_cases before : sequence < previous
      · simp only [before, Option.any_some, decide_true, if_true]
        rfl
      · by_cases same : sequence = previous
        · subst same
          simpa [known] using repeated
        · have other : ¬ some previous = some sequence := by simpa using Ne.symm same
          simpa [before, same, other] using observed

theorem validateWindow_eq (window : expectedFirst ≤ maxU64 ∧ expectedLast ≤ maxU64) :
    Reference.validateWindow expectedFirst expectedLast
      = (Core.validateWindow expectedFirst expectedLast).mapError Core.SequenceDiffError.toNative := by
  have u64 : ¬ ((expectedFirst : Int) < 0 ∨ (expectedLast : Int) < 0 ∨ (maxU64 : Int) < expectedFirst
      ∨ (maxU64 : Int) < expectedLast) := by omega
  unfold Reference.validateWindow Core.validateWindow Core.saturatingAdd
  rw [if_neg u64]
  by_cases inverted : expectedLast < expectedFirst
  · have inverted' : (expectedLast : Int) < expectedFirst := by omega
    simp only [inverted, inverted', if_true]
    rfl
  · have ordered : ¬ (expectedLast : Int) < expectedFirst := by omega
    have span : (maxWindowSpan : Int) < (expectedLast : Int) - expectedFirst + 1
        ↔ maxWindowSpan < min (expectedLast - expectedFirst + 1) maxU64 := by
      unfold maxWindowSpan maxU64
      omega
    simp only [inverted, ordered, if_false, span]
    split <;> rfl

theorem validateInput_eq (observed : Binary) : Reference.validateInput observed
    = (Core.validateInputBytes observed).mapError Core.SequenceDiffError.toNative := by
  unfold Reference.validateInput Core.validateInputBytes
  split
  · rfl
  · split <;> rfl

theorem compactSequenceDiffV1_eq (observed : Binary) : compactSequenceDiffV1 expectedFirst expectedLast observed
    = (Core.compactSequenceDiff expectedFirst expectedLast observed).mapError Core.SequenceDiffError.toNative := by
  unfold compactSequenceDiffV1
  rw [Core.compactOrPanic_eq]
  rcases Core.compactSequenceDiff expectedFirst expectedLast observed with failure | diff <;> rfl

/-- The kernel behind the NIF and the reference have the same outcome. -/
theorem compactSequenceDiffV1_eq_reference (window : expectedFirst ≤ maxU64 ∧ expectedLast ≤ maxU64) (observed : Binary) :
    compactSequenceDiffV1 expectedFirst expectedLast observed = Reference.compact expectedFirst expectedLast observed := by
  rw [compactSequenceDiffV1_eq]
  unfold Reference.compact Core.compactSequenceDiff
  rw [validateWindow_eq window, validateInput_eq]
  rcases Core.validateWindow expectedFirst expectedLast with failure | _
  · rfl
  rcases valid : Core.validateInputBytes observed with failure | _
  · rfl
  have agree : Agree (Reference.start expectedFirst) (Core.start expectedFirst) := ⟨rfl, rfl, rfl, rfl, rfl⟩
  have counting : Counting (words64 observed).length (Reference.start expectedFirst) := by
    have short := (Core.validateInputBytes_ok valid).1
    have size := length_words64 observed
    refine ⟨rfl, ?_⟩
    unfold maxInputBytes maxObservedSequences at short
    show 0 + (words64 observed).length ≤ 18446744073709551615
    omega
  have scanned := doCompact_eq_scan expectedFirst window.2 (words64 observed) 0 agree counting
  have size : (Reference.start expectedFirst).observedCount + (words64 observed).length = observed.length / 8 := by
    rw [length_words64]
    exact Nat.zero_add _
  rw [size] at scanned
  show _ = Reference.doCompact expectedFirst expectedLast (words64 observed) (Reference.start expectedFirst)
  rw [scanned]
  rcases Core.scan expectedFirst expectedLast 0 (words64 observed) (Core.start expectedFirst) with failure | loop <;> rfl

/-- **Parity.** On a window of 64-bit integers the loaded native kernel answers as the reference does. -/
theorem reference_eq_native {first last : Int} (window : 0 ≤ first ∧ 0 ≤ last ∧ first ≤ maxU64 ∧ last ≤ maxU64)
    (observed : Binary) : Reference.compact first last observed = nativeReply .loaded first last observed := by
  obtain ⟨expectedFirst, rfl⟩ := Int.eq_ofNat_of_zero_le window.1
  obtain ⟨expectedLast, rfl⟩ := Int.eq_ofNat_of_zero_le window.2.1
  have u64 : ¬ ((expectedFirst : Int) < 0 ∨ (expectedLast : Int) < 0 ∨ (maxU64 : Int) < expectedFirst
      ∨ (maxU64 : Int) < expectedLast) := by omega
  rw [← compactSequenceDiffV1_eq_reference (by omega)]
  show _ = if _ then _ else _
  rw [if_neg u64]
  rfl

/-- **The NIF.** Every reply is the one of the reference, with the same error where several checks fail. -/
theorem nif_reply_eq_reference (expectedFirst expectedLast : UInt64) (observed : Binary) :
    compactSequenceDiffV1 expectedFirst.toNat expectedLast.toNat observed
      = Reference.compact expectedFirst.toNat expectedLast.toNat observed := by
  have first := expectedFirst.toNat_lt
  have last := expectedLast.toNat_lt
  have u64 : maxU64 = 2 ^ 64 - 1 := rfl
  exact compactSequenceDiffV1_eq_reference (by omega) observed

end Parity

/-! ## The policy and the answer -/

/-- The reply without its execution. -/
def answer (reply : Except (NativeError × Execution) (SequenceDiff × Execution)) : Except NativeError SequenceDiff :=
  (reply.map Prod.fst).mapError Prod.fst

def executionOf : Except (NativeError × Execution) (SequenceDiff × Execution) → Execution
  | .ok (_, execution) => execution
  | .error (_, execution) => execution

section Policies

variable {first last : Int} {observed : Binary}

theorem answer_reference (nif : Nif) :
    answer (compact nif first last observed .reference) = Reference.compact first last observed := by
  show answer (referenceReply first last observed false none) = _
  unfold referenceReply
  rcases Reference.compact first last observed with failure | result <;> rfl

/-- An error that the reference may have is no reason to fall back. -/
theorem reference_not_optional {failure : NativeError} (failed : Reference.compact first last observed = .error failure)
    (window : 0 ≤ first ∧ 0 ≤ last ∧ first ≤ maxU64 ∧ last ≤ maxU64) : isOptionalFailure failure.code = false := by
  rw [reference_eq_native window observed] at failed
  have u64 : ¬ (first < 0 ∨ last < 0 ∨ (maxU64 : Int) < first ∨ (maxU64 : Int) < last) := by omega
  have called : compactSequenceDiffV1 first.toNat last.toNat observed = .error failure := by
    rw [← failed]
    show _ = if _ then _ else _
    rw [if_neg u64]
  rw [compactSequenceDiffV1_eq] at called
  generalize Core.compactSequenceDiff first.toNat last.toNat observed = outcome at called
  rcases outcome with cause | diff
  · cases called
    cases cause <;> rfl
  · cases called

/-- On a window of 64-bit integers, the loaded kernel gives the answer of the reference, without a fallback. -/
theorem compact_loaded (window : 0 ≤ first ∧ 0 ≤ last ∧ first ≤ maxU64 ∧ last ≤ maxU64) (policy : Policy) :
    answer (compact .loaded first last observed policy) = Reference.compact first last observed ∧
      (executionOf (compact .loaded first last observed policy)).fallback = false := by
  have native := reference_eq_native window observed
  by_cases reference : policy = .reference
  · subst reference
    refine ⟨answer_reference .loaded, ?_⟩
    show (executionOf (referenceReply first last observed false none)).fallback = false
    unfold referenceReply
    rcases Reference.compact first last observed with failure | result <;> rfl
  have replied : compact .loaded first last observed policy = match nativeReply .loaded first last observed with
      | .ok result => .ok (result, { implementation := .native, fallback := false, fallbackReason := none })
      | .error failure =>
        if policy = .nativePreferred ∧ isOptionalFailure failure.code then
          referenceReply first last observed true (some failure.code)
        else .error (failure, { implementation := .none, fallback := false, fallbackReason := none }) := by
    cases policy with
    | reference => exact absurd rfl reference
    | nativePreferred => rfl
    | nativeRequired => rfl
  rw [replied, ← native]
  rcases failed : Reference.compact first last observed with failure | result
  · have regular : ¬ (policy = .nativePreferred ∧ isOptionalFailure failure.code = true) := by
      rw [reference_not_optional failed window]
      simp
    dsimp only
    rw [if_neg regular]
    exact ⟨rfl, rfl⟩
  · exact ⟨rfl, rfl⟩

/-- Outside of the 64-bit integers the NIF is not called, and the error is not the reference's. -/
theorem compact_outside (outside : ¬ (0 ≤ first ∧ 0 ≤ last ∧ first ≤ maxU64 ∧ last ≤ maxU64)) :
    answer (compact .loaded first last observed .nativeRequired)
      = .error { code := .unavailable, retryable := true, detail := "native_call_failed" } ∧
    answer (compact .loaded first last observed .reference)
      = .error { code := .invalidWindow, retryable := false, detail := "window_values_must_be_unsigned_u64" } := by
  have bad : first < 0 ∨ last < 0 ∨ (maxU64 : Int) < first ∨ (maxU64 : Int) < last := by omega
  constructor
  · have called : nativeReply .loaded first last observed = unavailable "native_call_failed" := by
      show (if _ then _ else _) = _
      rw [if_pos bad]
    unfold compact
    rw [called]
    rfl
  · rw [answer_reference]
    unfold Reference.compact Reference.validateWindow
    rw [if_pos bad]
    rfl

/-- **Policy.** With a loaded kernel, the policy does not change the answer and no fallback is reported exactly for
windows of 64-bit integers. -/
theorem policy_irrelevant_iff (first last : Int) (observed : Binary) :
    ((∀ policy policy', answer (compact .loaded first last observed policy)
        = answer (compact .loaded first last observed policy')) ∧
      ∀ policy, (executionOf (compact .loaded first last observed policy)).fallback = false)
    ↔ 0 ≤ first ∧ 0 ≤ last ∧ first ≤ maxU64 ∧ last ≤ maxU64 := by
  constructor
  · rintro ⟨same, _⟩
    by_contra outside
    obtain ⟨required, reference⟩ : _ ∧ _ := compact_outside outside
    have equal := same .nativeRequired .reference
    rw [required, reference] at equal
    cases equal
  · intro window
    refine ⟨fun policy policy' => ?_, fun policy => (compact_loaded window policy).2⟩
    rw [(compact_loaded window policy).1, (compact_loaded window policy').1]

/-- A window that starts at -1 is an invalid window for the reference, and an unavailable kernel for the native policies. -/
theorem negative_window_differs :
    answer (compact .loaded (-1) 0 [] .reference)
      = .error { code := .invalidWindow, retryable := false, detail := "window_values_must_be_unsigned_u64" } ∧
    answer (compact .loaded (-1) 0 [] .nativeRequired)
      = .error { code := .unavailable, retryable := true, detail := "native_call_failed" } ∧
    executionOf (compact .loaded (-1) 0 [] .nativePreferred)
      = { implementation := .reference, fallback := true, fallbackReason := some .unavailable } := by
  decide

end Policies

/-! ## A window without gaps -/

/-- A scan that has seen every id before `next` and found none missing. -/
structure Gapless (next : Nat) (scan : Reference.Scan) : Prop where
  nextMissing : scan.nextMissing = some next
  missingRanges : scan.missingRanges = []
  previous : ∀ previous ∈ scan.previous, previous < next

theorem Gapless.observe {next : Nat} {scan : Reference.Scan} (gapless : Gapless next scan) (small : next < maxU64) :
    Gapless (next + 1) (scan.observe next) where
  nextMissing := by
    dsimp only [Reference.Scan.observe]
    rw [if_neg (by omega)]
  missingRanges := by
    dsimp only [Reference.Scan.observe]
    rw [gapless.nextMissing, gapless.missingRanges]
    simp
  previous := by
    rintro _ ⟨⟩
    exact Nat.lt_succ_self next

/-- The ids from `next` on, without a gap, complete the window. -/
theorem doCompact_gapless {expectedFirst expectedLast next count : Nat} {scan : Reference.Scan}
    (gapless : Gapless next scan) (within : expectedFirst ≤ next) (complete : expectedLast + 1 = next + count)
    (small : expectedLast < maxU64) : ∃ result,
      Reference.doCompact expectedFirst expectedLast (List.range' next count) scan = .ok result
        ∧ result.missingRanges = [] := by
  induction count generalizing next scan with
  | zero =>
    refine ⟨_, rfl, ?_⟩
    dsimp only [Reference.finish, Reference.finalRanges]
    rw [gapless.nextMissing, gapless.missingRanges]
    have beyond : ¬ next ≤ expectedLast := by omega
    simp [beyond]
  | succ count ih =>
    have inside : ¬ (next < expectedFirst ∨ expectedLast < next) := by omega
    have ordered : scan.previous.any (next < ·) = false := by
      rcases known : scan.previous with _ | previous
      · rfl
      · have := gapless.previous previous known
        simp only [Option.any_some, decide_eq_false_iff_not]
        omega
    have new : scan.previous ≠ some next := fun same => Nat.lt_irrefl next (gapless.previous next same)
    rw [List.range'_succ, Reference.doCompact, if_neg inside, ordered, if_neg (by simp), if_neg new]
    exact ih (gapless.observe (by omega)) (by omega) (by omega)

/-- **No gap.** A window whose ids were all observed has no missing range. -/
theorem compact_gapless {first count : Nat} (nonempty : 0 < count) (bounded : count ≤ maxObservedSequences)
    (small : first + count ≤ maxU64) : ∃ result,
      Reference.compact first ((first + count - 1 : Nat) : Int) ((List.range' first count).flatMap (bigEndian 8))
        = .ok result ∧ result.missingRanges = [] := by
  have words : words64 ((List.range' first count).flatMap (bigEndian 8)) = List.range' first count := by
    refine words64_bigEndian fun n member => ?_
    obtain ⟨i, inside, rfl⟩ := List.mem_range'.1 member
    have u64 : maxU64 = 2 ^ 64 - 1 := rfl
    omega
  have window : Reference.validateWindow first ((first + count - 1 : Nat) : Int) = .ok () := by
    unfold maxObservedSequences at bounded
    unfold Reference.validateWindow maxWindowSpan
    rw [if_neg (by omega), if_neg (by omega), if_neg (by omega)]
  have input : Reference.validateInput ((List.range' first count).flatMap (bigEndian 8)) = .ok () := by
    have length := length_bigEndian_flatMap (List.range' first count)
    rw [List.length_range'] at length
    unfold maxObservedSequences at bounded
    unfold Reference.validateInput maxInputBytes maxObservedSequences
    rw [if_neg (by omega), if_neg (by omega)]
  unfold Reference.compact
  rw [window, input, words]
  have gapless : Gapless first (Reference.start first) := ⟨rfl, rfl, by rintro _ ⟨⟩⟩
  exact doCompact_gapless gapless (Nat.le_refl first) (by omega) (by omega)

end Liqi.Native
