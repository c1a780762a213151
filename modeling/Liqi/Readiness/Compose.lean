import Mathlib.Data.List.Sort
import Mathlib.Data.String.Basic
import Liqi.Python.Json

/-!
# Composing the readiness verdict

`compose_readiness_v1` reads evidence documents for one release and emits the sole verdict on it. A document counts
through two channels: blockers, which are listed in the result, and statuses, which are combined where there are no
blockers. Files, schemas, the clock and texts that Python formats are the `World`; documents are arbitrary JSON, so
every access to them may raise.
-/

namespace Liqi.Readiness

open Beam (Json)
open Python

/-! ### Policy and arguments -/

inductive EvidenceKind where
  | capacity
  | platformProbe
  | load
  | reconnect
  | recovery
  | resilience
  | security
  | cutover
  | releaseRecovery
  deriving DecidableEq

def EvidenceKind.text : EvidenceKind → String
  | .capacity => "capacity"
  | .platformProbe => "platform-probe"
  | .load => "load"
  | .reconnect => "reconnect"
  | .recovery => "recovery"
  | .resilience => "resilience"
  | .security => "security"
  | .cutover => "cutover"
  | .releaseRecovery => "release-recovery"

/-- `EVIDENCE_OWNER`. -/
def EvidenceKind.owner : EvidenceKind → String
  | .capacity => "Senior 5"
  | .platformProbe => "Senior 1"
  | .load => "Senior 5"
  | .reconnect => "Senior 5"
  | .recovery => "Senior 2"
  | .resilience => "Senior 5"
  | .security => "Senior 5"
  | .cutover => "Senior 5"
  | .releaseRecovery => "Senior 4"

structure Rule where
  schema : String
  maxAgeSeconds : Int
  deriving DecidableEq

/-- The policy file; a supporting rule that is missing raises where it is looked up. -/
structure Policy where
  evidence : List (EvidenceKind × Rule)
  checkpoint : Option Rule
  compatibility : Option Rule
  ociMutations : Option Rule
  deriving DecidableEq

def Policy.byKind (policy : Policy) : List (EvidenceKind × Rule) :=
  policy.evidence.foldl (fun rules item => setItem (fun a b => decide (a = b)) rules item.1 item.2) []

def required {α : Type} : Option α → Script α
  | some a => .ok a
  | none => .error .raised

inductive Environment where
  | staging
  | production
  deriving DecidableEq

def Environment.text : Environment → String
  | .staging => "staging"
  | .production => "production"

structure Args where
  policy : String
  gitSha : Option String
  releaseId : String
  environment : Environment
  evidence : List String
  checkpoint : List String
  compatibility : Option String
  ociMutations : Option String
  output : String
  allowNotReady : Bool
  now : Option String

/-- `CHECKPOINT_NAMES`. -/
def checkpointNames : List String :=
  ["source", "integration", "artifact", "live-staging", "promotion", "cutover", "post-cutover"]

inductive Status where
  | passed
  | blocked
  | failed
  deriving DecidableEq

def Status.text : Status → String
  | .passed => "passed"
  | .blocked => "blocked"
  | .failed => "failed"

/-- `STATUS_ORDER`. -/
def Status.order : Status → Nat
  | .passed => 0
  | .blocked => 1
  | .failed => 2

/-! ### The result -/

structure EvidenceEntry where
  kind : EvidenceKind
  owner : String
  schemaVersion : String
  status : Status
  evidenceMode : String
  gitSha : String
  releaseId : String
  observedAt : String
  sha256 : String
  evidenceRef : String

structure CheckpointSummary where
  name : String
  status : Json
  evidenceRefs : Json

structure Compatibility where
  migrationsExpandCompatible : Bool
  realtimeProtocolNegotiated : Bool
  nativeFallbackAvailable : Bool
  configVersioned : Bool
  deriving DecidableEq

def Compatibility.none : Compatibility := ⟨false, false, false, false⟩

inductive CorrectnessEvent where
  | authorizationBypass
  | secretExposure
  | duplicateDurableIdentity
  | eventBeforeCommit
  | durableEventLoss
  deriving DecidableEq

namespace CorrectnessEvent

def all : List CorrectnessEvent :=
  [authorizationBypass, secretExposure, duplicateDurableIdentity, eventBeforeCommit, durableEventLoss]

def name : CorrectnessEvent → String
  | authorizationBypass => "authorization-bypass"
  | secretExposure => "secret-exposure"
  | duplicateDurableIdentity => "duplicate-durable-identity"
  | eventBeforeCommit => "event-before-commit"
  | durableEventLoss => "durable-event-loss"

/-- The name with `_` for `-`, as documents have it. -/
def key : CorrectnessEvent → String
  | authorizationBypass => "authorization_bypass"
  | secretExposure => "secret_exposure"
  | duplicateDurableIdentity => "duplicate_durable_identity"
  | eventBeforeCommit => "event_before_commit"
  | durableEventLoss => "durable_event_loss"

/-- `CORRECTNESS_OWNER`. -/
def owner : CorrectnessEvent → String
  | authorizationBypass => "Senior 1"
  | secretExposure => "Senior 5"
  | duplicateDurableIdentity => "Senior 2"
  | eventBeforeCommit => "Senior 2"
  | durableEventLoss => "Senior 2"

end CorrectnessEvent

structure Host where
  shape : Json
  ocpu : Json
  memoryMib : Json
  combinedStorageGib : Json
  reservedOcpu : Json
  reservedMemoryMib : Json
  reservedDiskGib : Json

structure RecoveryTarget where
  mode : String
  retainedApplicationRelease : Bool
  releaseId : Json
  gitSha : Json
  runtimeGeneration : Json
  evidenceRef : String

structure Result where
  generatedAt : String
  gitSha : String
  releaseId : String
  environment : Environment
  status : Status
  verdict : String
  host : Host
  checkpoints : List CheckpointSummary
  evidence : List EvidenceEntry
  correctnessEvents : List (CorrectnessEvent × Int)
  compatibility : Compatibility
  recoveryTarget : RecoveryTarget
  ociMutations : List (List (String × Json))
  blockers : List Json

/-! ### Outside of the script -/

/-- Files, `jsonschema`, dates, and what Python formats. Times are microseconds since the epoch. `loadJson` fails with
`caught` for an `OSError` or a `JSONDecodeError`, `parseDatetime` for a `ValueError`. -/
structure World where
  loadJson : String → Except Failure Json
  loadPolicy : String → Except Failure Policy
  validateDocument : String → Json → String → Except Failure (List String)
  validateResult : Result → Except Failure (List String)
  writeJson : String → Result → Except Failure Unit
  sha256File : String → Except Failure String
  resolve : String → String
  relativeRef : String → String
  gitSha : Except Failure String
  clock : Int
  parseDatetime : String → Except Failure Int
  isoformat : Int → String
  str : Json → String
  sortedRepr : List Json → Except Failure String

/-- What the script works on once its arguments are read. -/
structure Inputs where
  policy : Policy
  sha : String
  releaseId : String
  environment : Environment
  now : Int
  nowText : String
  evidencePaths : List (String × String)
  checkpointPaths : List (String × String)
  compatibility : Option String
  ociMutations : Option String
  deriving DecidableEq

/-- `parse_assignments`, for values `name=path`. -/
def parseAssignments (world : World) (values : List String) : Script (List (String × String)) :=
  values.foldlM (fun result value =>
    match value.toList.span (· ≠ '=') with
    | (_, []) => .error (.status 64)
    | (name, _ :: path) =>
      if name = [] ∨ path = [] then .error (.status 64)
      else if (result.lookup (String.ofList name)).isSome then .error (.status 64)
      else .ok (result ++ [(String.ofList name, world.resolve (String.ofList path))])) []

/-! ### Shared checks -/

def errorUnless (holds : Bool) (message : String) : List String := if holds then [] else [message]

def blocker (owner : String) (seam : Json) (code : String) (severity : Json) (message actionRequired : String) : Json :=
  .map [("owner", .string owner), ("seam", seam), ("code", .string code), ("severity", severity),
    ("message", .string (slice message 1000)), ("action_required", .string (slice actionRequired 1000))]

/-- `age_seconds`: whole seconds, and 0 for a time in the future. -/
def ageSeconds (time now : Int) : Int := max 0 ((now - time).tdiv 1000000)

/-- The status that the value names; whatever it does not know is a failure. -/
def Status.of (value : Json) : Status :=
  if isText value "passed" then .passed else if isText value "blocked" then .blocked else .failed

def combineStatus (statuses : List Json) : Script Status :=
  statuses.foldlM (fun result status =>
    if !hashable status then .error .raised
    else if result.order < (Status.of status).order then .ok (Status.of status)
    else .ok result) .passed

section

variable (world : World) (inputs : Inputs)

/-- The error that lists the values of a set, unless it is empty. -/
def setErrors (values : List Json) (text : String) : Script (List String) :=
  if values.isEmpty then .ok [] else do
    let listed ← uncaught (world.sortedRepr values)
    return [text ++ listed]

/-- `exact_set`: what the values have twice, lack, or have too much. -/
def exactSet (values : List Json) (expected : List String) (label : String) : Script (List String) :=
  let duplicates := values.filter fun value => 1 < values.countP (equal value)
  let missing := expected.filter fun name => !values.any fun value => isText value name
  let extra := values.filter fun value => !expected.any fun name => isText value name
  if values.any fun value => !hashable value then .error .raised
  else do
    let twice ← setErrors world duplicates (label ++ " contains duplicates: ")
    let lacking ← setErrors world (missing.map .string) (label ++ " is missing: ")
    let unexpected ← setErrors world extra (label ++ " contains unexpected values: ")
    return twice ++ lacking ++ unexpected

/-- The values of one field of all items in a container. -/
def fieldValues (document : Json) (container field : String) : Script (List Json) := do
  let held ← get document container (.list [])
  let items ← iterate held
  items.mapM fun item => get item field (.string "")

/-- A set of names that the items of a container must have. -/
structure ExactNames where
  container : String
  field : String
  expected : List String
  label : String

def EvidenceKind.exactNames : EvidenceKind → List ExactNames
  | .capacity =>
    [⟨"provider_evidence", "owner", ["Senior 1", "Senior 2", "Senior 3", "Senior 4"], "capacity provider owners"⟩]
  | .platformProbe =>
    [⟨"checks", "name",
      ["https-health", "runtime-readiness", "websocket-connect", "websocket-auth", "durable-command-commit",
        "outbox-handoff", "realtime-delivery", "resume-gap-repair", "worker-job", "native-kernel", "native-fallback"],
      "platform probe checks"⟩]
  | .recovery =>
    [⟨"steps", "name",
      ["select-latest-valid-backup", "restore-isolated-target", "wal-pitr", "verify-migrations",
        "verify-platform-invariants", "elixir-read-only-probe", "cleanup"],
      "recovery steps"⟩]
  | .resilience =>
    [⟨"scenarios", "id",
      ["postgresql-restart", "pgbouncer-unavailable", "outbox-backlog", "oban-backlog", "realtime-slow-consumers",
        "reconnect-storm-25pct", "native-artifact-disabled", "native-kernel-panic", "telemetry-sink-unavailable",
        "disk-pressure", "beam-process-crash", "actor-supervisor-restart", "release-activation-failure",
        "first-release-deactivation-recovery", "host-reboot"],
      "resilience scenarios"⟩]
  | .security =>
    [⟨"checks", "name",
      ["public-ports", "tls", "secret-scan", "vault-references", "iam-least-privilege", "instance-principal",
        "private-database", "private-metrics", "systemd-hardening", "dependency-vulnerabilities", "license-policy",
        "sbom", "provenance", "log-redaction", "session-token-handling", "websocket-origin-auth",
        "rate-admission-limits", "native-input-bounds", "crash-dump-secret-hygiene"],
      "security checks"⟩]
  | .cutover =>
    [⟨"preconditions", "name",
      ["source", "integration", "artifact", "live-staging", "capacity", "load-floor", "reconnect-storm", "recovery",
        "security", "release-recovery", "approved-plan", "exact-release-binding"],
      "cutover preconditions"⟩,
    ⟨"evidence_bundle", "kind",
      ["platform-probe", "load", "reconnect", "recovery", "security", "release-recovery", "capacity", "artifact",
        "oci-plan"],
      "cutover evidence bundle"⟩]
  | .releaseRecovery =>
    [⟨"steps", "name",
      ["stop-new-admission", "drain-sessions", "disable-traffic", "stop-release", "verify-no-public-traffic", "observe",
        "cleanup"],
      "release recovery steps"⟩]
  | .load => []
  | .reconnect => []

def ExactNames.errors (document : Json) (names : ExactNames) : Script (List String) := do
  let values ← fieldValues document names.container names.field
  exactSet world values names.expected names.label

def semanticEvidenceErrors (kind : EvidenceKind) (document : Json) : Script (List String) := do
  let sets ← kind.exactNames.mapM (ExactNames.errors world document)
  if kind = .platformProbe then do
    let observed ← get document "observed_release_id" .null
    let released ← get document "release_id" .null
    return sets.flatten ++ errorUnless (equal observed released) "platform probe observed_release_id must equal release_id"
  else return sets.flatten

/-! ### Evidence -/

/-- Blockers, statuses, and the parts of the result so far. -/
structure Composition where
  blockers : List Json
  statusInputs : List Json
  documents : List (EvidenceKind × Json)
  entries : List EvidenceEntry
  checkpoints : List CheckpointSummary
  compatibility : Compatibility
  mutations : List (List (String × Json))

def Composition.start : Composition := ⟨[], [], [], [], [], .none, []⟩

def evidencePlaceholder (kind : EvidenceKind) (status : Status) : EvidenceEntry where
  kind
  owner := kind.owner
  schemaVersion := "missing-" ++ kind.text ++ "-v1"
  status
  evidenceMode := "synthetic"
  gitSha := inputs.sha
  releaseId := inputs.releaseId
  observedAt := inputs.nowText
  sha256 := String.ofList (List.replicate 64 '0')
  evidenceRef := "missing:" ++ kind.text

/-- `observed_at`: the first text among the keys that may hold the time. -/
def observedAt (document : Json) : Script (Option String) := do
  let observed ← get document "observed_at" .null
  let completed ← get document "completed_at" .null
  let generated ← get document "generated_at" .null
  return observed.string?.or (completed.string?.or generated.string?)

/-- The errors of an evidence document's time, whether the document is stale, and the time as it is reported. -/
def evidenceTime (kind : EvidenceKind) (rule : Rule) (document : Json) : Script (List String × Bool × String) := do
  match ← observedAt document with
  | none => return ([kind.text ++ " has no observed_at/completed_at timestamp"], false, inputs.nowText)
  | some timestamp => match world.parseDatetime timestamp with
    | .error (.caught message) => return ([kind.text ++ " timestamp invalid: " ++ message], false, timestamp)
    | .error .raised => .error .raised
    | .ok parsed =>
      let wholeSeconds := inputs.now / 1000000 * 1000000
      let future := wholeSeconds < parsed ∧ 300 * 1000000 < parsed - inputs.now
      return (errorUnless (!decide future) (kind.text ++ " timestamp is more than 300 seconds in the future"),
        decide (rule.maxAgeSeconds < ageSeconds parsed inputs.now), timestamp)

/-- `document.get("environment") not in {None, environment}`. -/
def environmentErrors (kind : EvidenceKind) (document : Json) : Script (List String) := do
  let environment ← get document "environment" .null
  if !hashable environment then .error .raised
  else .ok (errorUnless (equal environment .null || isText environment inputs.environment.text)
    (kind.text ++ ".environment must equal " ++ inputs.environment.text))

/-- `document.get("status", "failed")`, with every unknown status a failure. -/
def documentStatus (document : Json) : Script Status := do
  let status ← get document "status" (.string "failed")
  if !hashable status then .error .raised else return Status.of status

/-- A document that was read. -/
def evidenceDocument (kind : EvidenceKind) (rule : Rule) (path : String) (document : Json) (state : Composition) :
    Script Composition := do
  let valid ← uncaught (world.validateDocument rule.schema document kind.text)
  let semantic ← semanticEvidenceErrors world kind document
  let gitSha ← get document "git_sha" .null
  let releaseId ← get document "release_id" .null
  let environment ← environmentErrors inputs kind document
  let (timed, stale, timestamp) ← evidenceTime world inputs kind rule document
  let errors := valid ++ semantic ++ errorUnless (isText gitSha inputs.sha) (kind.text ++ ".git_sha must equal " ++ inputs.sha)
    ++ errorUnless (isText releaseId inputs.releaseId) (kind.text ++ ".release_id must equal " ++ inputs.releaseId)
    ++ environment ++ timed
  let status ← documentStatus document
  let mode ← get document "evidence_mode" .null
  let dead := errors.isEmpty && decide (status = .passed) && !isText mode "live"
  let entryStatus := if errors.isEmpty && !dead then status else .failed
  let errors := errors ++ errorUnless (!dead) (kind.text ++ " passed evidence must use evidence_mode=live")
  let staleBlockers := if stale then
      [blocker kind.owner (.string (world.relativeRef path)) "EVIDENCE_STALE" (.string "blocked")
        (kind.text ++ " evidence exceeds " ++ toString rule.maxAgeSeconds ++ " seconds")
        "Regenerate evidence for the exact release."]
    else []
  let statusBlockers := if !errors.isEmpty then
      [blocker kind.owner (.string (world.relativeRef path)) "EVIDENCE_INVALID" (.string "failed")
        ("; ".intercalate errors)
        "Repair the provider or Senior 5 evidence producer; do not bypass schema or binding checks."]
    else if status ≠ .passed then
      [blocker kind.owner (.string (world.relativeRef path)) "EVIDENCE_NOT_PASSED" (.string status.text)
        (kind.text ++ " evidence status is " ++ status.text)
        "Resolve the recorded evidence failures and regenerate the exact-release result."]
    else []
  let schemaVersion ← get document "schema_version" (.string ("unknown-" ++ kind.text))
  let evidenceMode ← get document "evidence_mode" (.string "synthetic")
  let sha256 ← uncaught (world.sha256File path)
  return { state with
    blockers := state.blockers ++ staleBlockers ++ statusBlockers
    statusInputs := state.statusInputs ++ [.string entryStatus.text]
    documents := setItem (fun a b => decide (a = b)) state.documents kind document
    entries := state.entries ++ [{
      kind
      owner := kind.owner
      schemaVersion := world.str schemaVersion
      status := entryStatus
      evidenceMode := world.str evidenceMode
      gitSha := inputs.sha
      releaseId := inputs.releaseId
      observedAt := timestamp
      sha256
      evidenceRef := world.relativeRef path }] }

/-- One kind of the policy. -/
def evidence (state : Composition) (item : EvidenceKind × Rule) : Script Composition :=
  let kind := item.1
  match inputs.evidencePaths.lookup kind.text with
  | none => .ok { state with
      statusInputs := state.statusInputs ++ [.string "blocked"]
      entries := state.entries ++ [evidencePlaceholder inputs kind .blocked]
      blockers := state.blockers ++
        [blocker kind.owner (.string (kind.text ++ " evidence")) "REQUIRED_EVIDENCE_MISSING" (.string "blocked")
          ("required " ++ kind.text ++ " evidence is missing")
          ("Publish live " ++ kind.text ++ " evidence for " ++ inputs.sha ++ "/" ++ inputs.releaseId ++ ".")] }
  | some path => match world.loadJson path with
    | .error .raised => .error .raised
    | .error (.caught message) => .ok { state with
        statusInputs := state.statusInputs ++ [.string "failed"]
        entries := state.entries ++ [evidencePlaceholder inputs kind .failed]
        blockers := state.blockers ++
          [blocker kind.owner (.string (world.relativeRef path)) "EVIDENCE_UNREADABLE" (.string "failed") message
            "Repair and republish the owning evidence artifact."] }
    | .ok document => evidenceDocument world inputs kind item.2 path document state

/-! ### Supporting evidence -/

/-- A supporting document with its schema errors; one that cannot be read, or whose schema cannot, is taken as empty. -/
def loadSupporting (rule : Rule) (label path : String) : Script (Json × List String) :=
  match world.loadJson path with
  | .error .raised => .error .raised
  | .error (.caught message) => .ok (.map [], [message])
  | .ok document => match world.validateDocument rule.schema document label with
    | .error .raised => .error .raised
    | .error (.caught message) => .ok (.map [], [message])
    | .ok errors => .ok (document, errors)

/-- Whether a supporting document is stale, and the errors of its `observed_at`. -/
def supportingTime (rule : Rule) (label : String) (document : Json) : Script (Bool × List String) := do
  match ← get document "observed_at" .null with
  | .string timestamp => match world.parseDatetime timestamp with
    | .error (.caught message) => return (false, [message])
    | .error .raised => .error .raised
    | .ok parsed => return (decide (rule.maxAgeSeconds < ageSeconds parsed inputs.now), [])
  | _ => return (false, [label ++ " observed_at is missing"])

/-- The errors of a supporting document's binding to the release. -/
def bindingErrors (label : String) (document : Json) : Script (List String) := do
  let gitSha ← get document "git_sha" .null
  let releaseId ← get document "release_id" .null
  return errorUnless (isText gitSha inputs.sha) (label ++ " git_sha must equal " ++ inputs.sha)
    ++ errorUnless (isText releaseId inputs.releaseId) (label ++ " release_id must equal " ++ inputs.releaseId)

/-- What is read of a document without errors, and a substitute where there are some. -/
def unlessErrors {α : Type} (errors : List String) (read : Script α) (substitute : α) : Script α :=
  if errors.isEmpty then read else .ok substitute

/-- `document.get("status", "failed")`, or a failure where there are errors. -/
def supportingStatus (document : Json) (errors : List String) : Script Json :=
  unlessErrors errors (get document "status" (.string "failed")) (.string "failed")

def listedBlockers (document : Json) : Script (List Json) := do
  let held ← get document "blockers" (.list [])
  iterate held

def checkpoint (rule : Rule) (state : Composition) (name : String) : Script Composition :=
  match inputs.checkpointPaths.lookup name with
  | none => .ok { state with
      statusInputs := state.statusInputs ++ [.string "blocked"]
      checkpoints := state.checkpoints ++ [⟨name, .string "blocked", .list []⟩]
      blockers := state.blockers ++
        [blocker "Senior 5" (.string (name ++ " checkpoint")) "CHECKPOINT_EVIDENCE_MISSING" (.string "blocked")
          ("required " ++ name ++ " checkpoint is missing")
          "Run the registered provider gates and retain the checkpoint artifact."] }
  | some path => do
    let reference := Json.string (world.relativeRef path)
    let (document, loaded) ← loadSupporting world rule name path
    let named ← get document "name" .null
    let binding ← bindingErrors inputs "checkpoint" document
    let (stale, timed) ← supportingTime world inputs rule "checkpoint" document
    let errors := loaded ++ errorUnless (isText named name) ("checkpoint name must equal " ++ name) ++ binding ++ timed
    let status ← supportingStatus document errors
    let references ← unlessErrors errors (get document "evidence_refs" (.list [])) (.list [reference])
    let listed ← unlessErrors errors (listedBlockers document)
      [blocker "Senior 5" reference "CHECKPOINT_INVALID" (.string "failed") ("; ".intercalate errors)
        "Regenerate the checkpoint with exact provider outputs."]
    let staleBlockers := if stale then
        [blocker "Senior 5" reference "CHECKPOINT_STALE" (.string "blocked") (name ++ " checkpoint is stale")
          "Regenerate the checkpoint for the exact release."]
      else []
    return { state with
      statusInputs := state.statusInputs ++ [status]
      checkpoints := state.checkpoints ++ [⟨name, status, references⟩]
      blockers := state.blockers ++ staleBlockers ++ listed }

/-- `COMPATIBILITY_OWNER`. -/
def compatibilityOwners : List (String × String) :=
  [("migrations-expand-compatible", "Senior 2"), ("realtime-protocol-negotiated", "Senior 1"),
    ("native-fallback-available", "Senior 3"), ("config-versioned", "Senior 1")]

/-- `checks.get(name, {}).get("status") == "passed"`. -/
def checkPassed (checks : List (Json × Json)) (name : String) : Script Bool := do
  let check := ((checks.find? fun entry => isText entry.1 name).map Prod.snd).getD (.map [])
  let status ← get check "status" .null
  return isText status "passed"

def putCheck (checks : List (Json × Json)) (item : Json) : Script (List (Json × Json)) := do
  let name ← get item "name" .null
  if !hashable name then .error .raised else return setItem equal checks name item

/-- The checks of a compatibility document by their names. -/
def checksByName (document : Json) : Script (List (Json × Json)) := do
  let held ← get document "checks" (.list [])
  let items ← iterate held
  items.foldlM putCheck []

/-- A check that has not passed is a blocker. -/
def blockCheck (blockers : List Json) (entry : Json × Json) : Script (List Json) := do
  let status ← get entry.2 "status" .null
  let severity ← get entry.2 "status" (.string "failed")
  return if isText status "passed" then blockers
    else blockers ++
      [blocker (((compatibilityOwners.find? fun owner => isText entry.1 owner.1).map Prod.snd).getD "Senior 5") entry.1
        "COMPATIBILITY_NOT_PASSED" severity ("compatibility check is " ++ world.str status)
        "Repair the owning provider seam and republish compatibility evidence."]

def compatibility (state : Composition) : Script Composition :=
  match inputs.compatibility with
  | none => .ok { state with
      statusInputs := state.statusInputs ++ [.string "blocked"]
      compatibility := .none
      blockers := state.blockers ++
        [blocker "Senior 5" (.string "compatibility-result-v1") "COMPATIBILITY_EVIDENCE_MISSING" (.string "blocked")
          "release compatibility evidence is missing"
          "Compose provider compatibility checks for migrations, realtime, native fallback and configuration."] }
  | some path => do
    let reference := Json.string (world.relativeRef path)
    let rule ← required inputs.policy.compatibility
    let (document, loaded) ← loadSupporting world rule "compatibility" path
    let binding ← bindingErrors inputs "compatibility" document
    let (stale, timed) ← supportingTime world inputs rule "compatibility" document
    let names ← fieldValues document "checks" "name"
    let exact ← exactSet world names (compatibilityOwners.map Prod.fst) "compatibility checks"
    let errors := loaded ++ binding ++ timed ++ exact
    let status ← supportingStatus document errors
    let checks ← checksByName document
    let migrations ← checkPassed checks "migrations-expand-compatible"
    let realtime ← checkPassed checks "realtime-protocol-negotiated"
    let native ← checkPassed checks "native-fallback-available"
    let config ← checkPassed checks "config-versioned"
    let found ← unlessErrors errors (checks.foldlM (blockCheck world) [])
      [blocker "Senior 5" reference "COMPATIBILITY_INVALID" (.string "failed") ("; ".intercalate errors)
        "Repair the owning compatibility evidence."]
    let staleBlockers := if stale then
        [blocker "Senior 5" reference "COMPATIBILITY_STALE" (.string "blocked") "compatibility evidence is stale"
          "Regenerate compatibility evidence for the exact release."]
      else []
    return { state with
      statusInputs := state.statusInputs ++ [status]
      compatibility := ⟨migrations, realtime, native, config⟩
      blockers := state.blockers ++ staleBlockers ++ found }

/-- The columns of a mutation that the result keeps. -/
def mutationColumns (item : Json) : Script (List (String × Json)) :=
  ["kind", "approved", "approval_ref", "executed_by", "evidence_ref"].mapM fun key => do
    let value ← index item key
    return (key, value)

/-- The mutations of a log without errors, and the blocker for a log that has not passed. -/
def mutationsOf (document : Json) (status reference : Json) : Script (List (List (String × Json)) × List Json) := do
  let held ← get document "mutations" (.list [])
  let items ← iterate held
  let kept ← items.mapM mutationColumns
  return (kept, if isText status "passed" then [] else
    [blocker "Senior 4" reference "MUTATION_EVIDENCE_NOT_PASSED" status ("mutation log status is " ++ world.str status)
      "Resolve approval or execution evidence before cutover."])

def ociMutations (state : Composition) : Script Composition :=
  match inputs.ociMutations with
  | none => .ok { state with
      statusInputs := state.statusInputs ++ [.string "blocked"]
      blockers := state.blockers ++
        [blocker "Senior 4" (.string "oci-mutation-log-v1") "MUTATION_EVIDENCE_MISSING" (.string "blocked")
          "approved OCI/live mutation evidence is missing"
          "Publish the Senior 4 mutation log with approval references and exact release binding."] }
  | some path => do
    let reference := Json.string (world.relativeRef path)
    let rule ← required inputs.policy.ociMutations
    let (document, loaded) ← loadSupporting world rule "oci-mutations" path
    let binding ← bindingErrors inputs "mutation log" document
    let environment ← get document "environment" .null
    let (stale, timed) ← supportingTime world inputs rule "mutation log" document
    let errors := loaded ++ binding ++ errorUnless (isText environment inputs.environment.text)
      ("mutation log environment must equal " ++ inputs.environment.text) ++ timed
    let status ← supportingStatus document errors
    let (kept, found) ← unlessErrors errors (mutationsOf world document status reference)
      ([], [blocker "Senior 4" reference "MUTATION_EVIDENCE_INVALID" (.string "failed") ("; ".intercalate errors)
        "Repair the Senior 4 mutation log; no approval may be inferred."])
    let staleBlockers := if stale then
        [blocker "Senior 4" reference "MUTATION_EVIDENCE_STALE" (.string "blocked") "mutation evidence is stale"
          "Republish the exact-release mutation log."]
      else []
    return { state with
      statusInputs := state.statusInputs ++ [status]
      mutations := kept
      blockers := state.blockers ++ staleBlockers ++ found }

/-! ### Correctness -/

/-- The counts after one member of a container. -/
def countMember (counts : CorrectnessEvent → Int) (member : String × Json) : CorrectnessEvent → Int :=
  match CorrectnessEvent.all.find? fun event => event.key = member.1, int? member.2 with
  | some event, some value => fun other => if other = event then counts other + value else counts other
  | _, _ => counts

/-- The containers in which a document may report correctness events. -/
def countContainers : List String := ["correctness_events", "outcomes", "data_safety"]

def countContainer (document : Json) (counts : CorrectnessEvent → Int) (container : String) :
    Script (CorrectnessEvent → Int) := do
  match ← get document container .null with
  | .map members => return members.foldl countMember counts
  | _ => return counts

def countDocument (counts : CorrectnessEvent → Int) (document : Json) : Script (CorrectnessEvent → Int) :=
  countContainers.foldlM (countContainer document) counts

def correctnessCounts (documents : List (EvidenceKind × Json)) : Script (CorrectnessEvent → Int) :=
  documents.foldlM (fun counts document => countDocument counts document.2) fun _ => 0

/-- One zero-tolerance event. -/
def correctness (counts : CorrectnessEvent → Int) (state : Composition) (event : CorrectnessEvent) : Composition :=
  if 0 < counts event then
    { state with
      blockers := state.blockers ++
        [blocker event.owner (.string event.name) "ZERO_TOLERANCE_EVENT" (.string "failed")
          ("observed " ++ toString (counts event) ++ " " ++ event.name ++ " event(s)")
          "Stop promotion/cutover, remediate the owning seam and generate new exact-release evidence."]
      statusInputs := state.statusInputs ++ [.string "failed"] }
  else state

/-! ### The verdict -/

/-- `any(item["severity"] == "failed" for item in blockers)`. -/
def anyFailed : List Json → Script Bool
  | [] => .ok false
  | item :: blockers => do
    let severity ← index item "severity"
    if isText severity "failed" then return true else anyFailed blockers

def Compatibility.anyFalse (values : Compatibility) : Bool :=
  !values.migrationsExpandCompatible || !values.realtimeProtocolNegotiated || !values.nativeFallbackAvailable
    || !values.configVersioned

/-- The status of blockers, and of the statuses where there are none. -/
def Composition.status (state : Composition) (failed : Bool) : Script Status :=
  if failed then .ok .failed else if !state.blockers.isEmpty then .ok .blocked else combineStatus state.statusInputs

def overall (state : Composition) : Script (Status × List Json) := do
  let failed ← anyFailed state.blockers
  let status ← state.status failed
  if status = .passed ∧ state.compatibility.anyFalse = true then
    return (.failed, state.blockers ++
      [blocker "Senior 5" (.string "compatibility-result-v1") "COMPATIBILITY_STATUS_INCONSISTENT" (.string "failed")
        "passed composition contains a false compatibility value" "Repair compatibility composition."])
  else return (status, state.blockers)

/-- A field of a blocker; the keys of the dictionary and of the sort are texts. -/
def blockerText (item : Json) (key : String) : Script String := do
  match ← index item key with
  | .string text => return text
  | _ => .error .raised

/-- Blockers with the same owner, seam, code and message are one, the last of them; they are sorted by severity, owner,
code and seam. -/
def uniqueBlockers (blockers : List Json) : Script (List Json) := do
  let unique ← blockers.foldlM (fun unique item => do
    let key ← ["owner", "seam", "code", "message"].mapM (blockerText item)
    return setItem (fun a b => decide (a = b)) unique key item) []
  let keyed ← unique.mapM fun entry => do
    let key ← ["severity", "owner", "code", "seam"].mapM (blockerText entry.2)
    return (key, entry.2)
  return (keyed.insertionSort fun a b => a.1 ≤ b.1).map Prod.snd

/-- Evidence, checkpoints, compatibility, mutations and correctness, in this order. -/
def compose : Script (Composition × (CorrectnessEvent → Int)) := do
  let rules := inputs.policy.byKind
  if inputs.evidencePaths.any fun entry => !rules.any fun rule => rule.1.text == entry.1 then .error (.status 64)
  else do
    let state ← rules.foldlM (evidence world inputs) .start
    let rule ← required inputs.policy.checkpoint
    if inputs.checkpointPaths.any fun entry => !checkpointNames.contains entry.1 then .error (.status 64)
    else do
      let state ← checkpointNames.foldlM (checkpoint world inputs rule) state
      let state ← compatibility world inputs state
      let state ← ociMutations world inputs state
      let counts ← correctnessCounts state.documents
      return (CorrectnessEvent.all.foldl (correctness counts) state, counts)

def hostOf (capacity : Json) : Script Host := do
  let host ← get capacity "host" (.map [("shape", .string "VM.Standard.A1.Flex"), ("ocpu", .integer 4),
    ("memory_mib", .integer 24576), ("combined_storage_gib", .integer 200)])
  let reserve ← get capacity "reserve" (.map [("ocpu", .integer 1), ("memory_mib", .integer 4096),
    ("disk_gib", .integer 20)])
  let shape ← get host "shape" (.string "VM.Standard.A1.Flex")
  let ocpu ← get host "ocpu" (.integer 4)
  let memoryMib ← get host "memory_mib" (.integer 24576)
  let combinedStorageGib ← get host "combined_storage_gib" (.integer 200)
  let reservedOcpu ← get reserve "ocpu" (.integer 1)
  let reservedMemoryMib ← get reserve "memory_mib" (.integer 4096)
  let reservedDiskGib ← get reserve "disk_gib" (.integer 20)
  return { shape, ocpu, memoryMib, combinedStorageGib, reservedOcpu, reservedMemoryMib, reservedDiskGib }

def recoveryTargetOf (releaseRecovery : Json) (entries : List EvidenceEntry) : Script RecoveryTarget := do
  let recoveryTo ← get releaseRecovery "to" .null
  let mode ← get releaseRecovery "recovery_mode" (.string "deactivate-first-release")
  let retained := match recoveryTo.fetch "retained" with
    | some (.bool true) => true
    | _ => false
  let kept := fun key => if retained then recoveryTo.get key else .null
  return {
    mode := world.str mode
    retainedApplicationRelease := retained
    releaseId := kept "release_id"
    gitSha := kept "git_sha"
    runtimeGeneration := kept "runtime_generation"
    evidenceRef := ((entries.find? fun entry => entry.kind = .releaseRecovery).map EvidenceEntry.evidenceRef).getD
      "missing:release-recovery" }

def passingVerdict : String := "V1 PRODUCTION-SHAPED ON OCI"

def result : Script Result := do
  let (state, counts) ← compose world inputs
  let host ← hostOf ((state.documents.lookup .capacity).getD (.map []))
  let recoveryTarget ← recoveryTargetOf world ((state.documents.lookup .releaseRecovery).getD (.map [])) state.entries
  let (status, blockers) ← overall state
  let unique ← uniqueBlockers blockers
  return {
    generatedAt := inputs.nowText
    gitSha := inputs.sha
    releaseId := inputs.releaseId
    environment := inputs.environment
    status
    verdict := if status = .passed then passingVerdict else "V1 NOT READY"
    host
    checkpoints := state.checkpoints
    evidence := state.entries
    correctnessEvents := CorrectnessEvent.all.map fun event => (event, counts event)
    compatibility := state.compatibility
    recoveryTarget
    ociMutations := state.mutations
    blockers := unique }

end

/-- `args.git_sha or git_sha()`. -/
def Args.sha (world : World) (args : Args) : Script String :=
  match args.gitSha with
  | some sha => if sha = "" then uncaught world.gitSha else .ok sha
  | none => uncaught world.gitSha

/-- `parse_datetime(args.now) if args.now else …`. -/
def Args.time (world : World) (args : Args) : Script Int :=
  match args.now with
  | some text => if text = "" then .ok world.clock else uncaught (world.parseDatetime text)
  | none => .ok world.clock

/-- The arguments, the commit, the time and the policy. -/
def prepare (world : World) (args : Args) : Script Inputs := do
  let evidencePaths ← parseAssignments world args.evidence
  let checkpointPaths ← parseAssignments world args.checkpoint
  let sha ← args.sha world
  if sha.length ≠ 40 then .error (.status 64)
  else do
    let now ← args.time world
    let policy ← uncaught (world.loadPolicy args.policy)
    return {
      policy, sha, now, evidencePaths, checkpointPaths
      releaseId := args.releaseId
      environment := args.environment
      nowText := world.isoformat now
      compatibility := args.compatibility.map world.resolve
      ociMutations := args.ociMutations.map world.resolve }

/-- `main`: the result that is written, and the exit status. -/
def main (world : World) (args : Args) : Script (Result × Nat) := do
  let inputs ← prepare world args
  let result ← result world inputs
  let errors ← uncaught (world.validateResult result)
  if !errors.isEmpty then .error (.status 65)
  else do
    uncaught (world.writeJson args.output result)
    return (result, match result.status with
      | .failed => if args.allowNotReady then 0 else 1
      | .blocked => if args.allowNotReady then 0 else 2
      | .passed => 0)

end Liqi.Readiness
