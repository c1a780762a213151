import Mathlib.Data.List.Sort
import Liqi.Python.Json
import Liqi.Python.Effect

/-!
# Release control

`release_control` switches a host from one release to another: it stops the units of the current release, points two links
to the target, starts the target's units and asks for its health. Where an activation fails it goes back by itself. The
outcome of every command and of every file operation is given by the `World`, one after the other; a unit remembers what
the links designated when its process was started.
-/

namespace Liqi.Deployment

open Beam (Json)
open Python

/-! ### Descriptors -/

structure Service where
  unit : String
  startOrder : Int
  stopTimeoutSeconds : Int

structure Gate where
  argv : List String
  timeoutSeconds : Int

structure DatabaseCompatibility where
  minimumMigration : Int
  rollbackSafeThrough : Int
  databaseRollbackAllowed : Bool

structure RetainedEvidence where
  retainedPath : String
  sha256 : String

/-- `release-target-v1`. -/
structure Release where
  releaseId : String
  gitSha : String
  releasePath : String
  sourceManifestSha256 : String
  services : List Service
  drain : Gate
  health : Gate
  databaseCompatibility : DatabaseCompatibility
  rollbackTargetReleaseId : Option String
  configurationPaths : List String
  databaseCompatibilityEvidence : RetainedEvidence
  runtimeConfigPath : Option String
  credentialDirectory : Option String
  requiredCredentials : List String

/-- `--current-link` and `--runtime-config-link`. -/
inductive Link where
  | current
  | runtime
  deriving DecidableEq

/-- What the links designate while the release is selected. -/
def Release.selection (release : Release) : Link → Option String
  | .current => some release.releasePath
  | .runtime => release.runtimeConfigPath

def Release.units (release : Release) : List String := release.services.map Service.unit

/-! ### The host -/

inductive Action where
  | drain
  | stop (unit : String)
  | start (unit : String)
  | health
  deriving DecidableEq

structure Call where
  action : Action
  argv : List String
  timeoutSeconds : Int
  deriving DecidableEq

/-- A process knows what was selected when it was started. -/
structure Process where
  selected : Link → Option String

/-- The links with the temporary ones beside them, the active units, and every command so far with its success. -/
structure Host where
  links : Link → Option String
  temporaries : Link → Option String
  units : String → Option Process
  history : List (Call × Bool)
  tick : Nat

/-- An exception: `SystemExit`, or another one with its text. -/
inductive Stop where
  | exit (message : String)
  | error (message : String)

def Stop.text : Stop → String
  | .exit message => message
  | .error message => message

/-- How a command ends. A stop or a start that does not succeed leaves the unit active or not. -/
inductive Ending where
  | completed (returncode : Int) (detail : String) (durationMs : Int)
  | timedOut (durationMs : Int)
  | raised (message : String)

structure Outcome where
  ending : Ending
  active : Bool

def Outcome.succeeded (outcome : Outcome) : Bool :=
  match outcome.ending with
  | .completed returncode _ _ => decide (returncode = 0)
  | .timedOut _ => false
  | .raised _ => false

inductive Mode where
  | activate
  | rollback
  deriving DecidableEq

structure Args where
  mode : Mode
  targetReleaseId : Option String
  deploymentId : String
  hostReadiness : String
  databaseReadiness : String
  firstReleaseRecovery : Option String
  systemctl : String
  maximumDurationSeconds : Int
  approvalReference : Option String
  execute : Bool
  activationOutput : Option String
  rollbackOutput : String

/-! ### Documents -/

inductive DocumentStatus where
  | engineeringCompleteEvidencePending
  | passed
  | failed
  deriving DecidableEq

inductive ActivationState where
  | preflightPassed
  | healthGated
  | rolledBack
  | activationFailed
  deriving DecidableEq

/-- A check with its duration, and a recovery check without. -/
structure Check where
  name : String
  status : String
  durationMs : Option Int
  detail : String

def check (name status detail : String) (durationMs : Int) : Check :=
  ⟨name, status, some durationMs, slice detail 2048⟩

def recoveryCheck (name status detail : String) : Check := ⟨name, status, none, slice detail 2048⟩

structure RollbackDoc where
  rollbackId : String
  fromReleaseId : Option String
  targetReleaseId : Option String
  recoveryMode : String
  targetGitSha : Option String
  targetManifestSha256 : Option String
  maximumDurationSeconds : Int
  status : DocumentStatus
  approvalReference : Option String
  checks : List Check
  evidenceClass : String

structure ActivationDoc where
  deploymentId : String
  releaseId : String
  gitSha : String
  manifestSha256 : String
  previousReleaseId : Option String
  rollbackTargetReleaseId : Option String
  state : ActivationState
  status : DocumentStatus
  approvalReference : Option String
  checks : List Check
  trafficEnabled : Bool
  evidenceClass : String

inductive Document where
  | rollback (document : RollbackDoc)
  | activation (document : ActivationDoc)

/-- Files before the script runs, schemas, and the outcomes of what it does, by the number of outcomes before. -/
structure World where
  currentReleaseId : Except Stop (Option String)
  descriptor : String → Except Stop Release
  load : String → Except Stop Json
  validate : String → Json → Except Stop (List String)
  validateDocument : String → Document → Except Stop (List String)
  writeText : String → Document → Except Stop Unit
  int : Json → Except Stop Int
  repr : List String → String
  strip : String → String
  pathExists : String → Bool
  isFile : String → Bool
  isDir : String → Bool
  digest : String → Except Stop String
  readable : String → Bool
  size : String → Nat
  mode : String → Nat
  rootPosix : Bool
  command : Nat → Outcome
  file : Nat → Option Stop
  monotonic : Nat → Int

section Commands

variable (world : World)

abbrev Operation := Effect Stop Host

/-- What the command does to a unit. A start is nothing where the unit is active. -/
def Action.apply (action : Action) (succeeded active : Bool) (host : Host) : String → Option Process :=
  match action with
  | .stop unit => if succeeded || !active then Function.update host.units unit none else host.units
  | .start unit =>
    if succeeded || active then Function.update host.units unit ((host.units unit).or (some ⟨host.links⟩))
    else Function.update host.units unit none
  | .drain => host.units
  | .health => host.units

/-- The host after a command. -/
def Host.after (host : Host) (call : Call) (succeeded active : Bool) : Host :=
  { host with
    units := call.action.apply succeeded active host
    history := host.history ++ [(call, succeeded)]
    tick := host.tick + 1 }

/-- `run`. -/
def run (call : Call) : Operation (Bool × String × Int) := do
  let host ← get
  let outcome := world.command host.tick
  set (host.after call outcome.succeeded outcome.active)
  match outcome.ending with
  | .completed _ detail durationMs => return (outcome.succeeded, detail, durationMs)
  | .timedOut durationMs => return (outcome.succeeded, "command timed out", durationMs)
  | .raised message => throw (.error message)

/-- A file operation, which raises or changes the host. -/
def fileStep (change : Host → Host) : Operation Unit := do
  let host ← get
  set { host with tick := host.tick + 1 }
  match world.file host.tick with
  | some failure => throw failure
  | none => modify change

/-- `time.monotonic()`, in microseconds. -/
def monotonic : Operation Int := do
  let host ← get
  set { host with tick := host.tick + 1 }
  return world.monotonic host.tick

def unlink (link : Link) : Operation Unit :=
  fileStep world fun host => { host with links := Function.update host.links link none }

/-- `atomic_symlink`: the link is replaced by a temporary one. -/
def atomicSymlink (target : String) (link : Link) : Operation Unit := do
  fileStep world id
  fileStep world fun host => { host with temporaries := Function.update host.temporaries link none }
  fileStep world fun host => { host with temporaries := Function.update host.temporaries link (some target) }
  fileStep world fun host => { host with
    links := Function.update host.links link (host.temporaries link)
    temporaries := Function.update host.temporaries link none }

/-- `services`; sorting in reverse keeps the order of equals. -/
def Release.ordered (release : Release) (reverse : Bool) : List Service :=
  if reverse then release.services.insertionSort fun a b => b.startOrder ≤ a.startOrder
  else release.services.insertionSort fun a b => a.startOrder ≤ b.startOrder

/-- `detail or default`. -/
def textOr (detail default : String) : String := if detail = "" then default else detail

/-- A command that must succeed. The checks before a failure are lost with the exception. -/
def mustRun (call : Call) (name : String) (describe : String → String) (failure : String) : Operation Check := do
  let (succeeded, detail, durationMs) ← run world call
  if succeeded then return check name "passed" (describe detail) durationMs
  else throw (.error (failure ++ ": " ++ detail))

def drainRelease (release : Release) (drain : Bool) : Operation (List Check) :=
  if drain && !release.drain.argv.isEmpty then do
    let drained ← mustRun world ⟨.drain, release.drain.argv, release.drain.timeoutSeconds⟩ "drain-current"
      (textOr · "drain completed") "drain failed"
    return [drained]
  else return []

def stopService (systemctl : String) (item : Service) : Operation Check :=
  mustRun world ⟨.stop item.unit, [systemctl, "stop", item.unit], item.stopTimeoutSeconds + 5⟩ "stop-service"
    (item.unit ++ ": " ++ textOr · "stopped") ("stop failed for " ++ item.unit)

def stopRelease (release : Release) (systemctl : String) (drain : Bool) : Operation (List Check) := do
  let drained ← drainRelease world release drain
  let stopped ← (release.ordered true).mapM (stopService world systemctl)
  return drained ++ stopped

def startService (systemctl : String) (item : Service) : Operation Check :=
  mustRun world ⟨.start item.unit, [systemctl, "start", item.unit], 60⟩ "start-service"
    (item.unit ++ ": " ++ textOr · "started") ("start failed for " ++ item.unit)

def startRelease (release : Release) (systemctl : String) : Operation (List Check) := do
  let started ← (release.ordered false).mapM (startService world systemctl)
  let healthy ← mustRun world ⟨.health, release.health.argv, release.health.timeoutSeconds⟩ "health-gate"
    (textOr · "health passed") "health gate failed"
  return started ++ [healthy]

def selectRelease (release : Release) : Operation Unit := do
  atomicSymlink world release.releasePath .current
  match release.runtimeConfigPath with
  | none => unlink world .runtime
  | some runtime => atomicSymlink world runtime .runtime

def clearSelection : Operation Unit := do
  unlink world .current
  unlink world .runtime

end Commands

/-! ### Preflight -/

section Preflight

variable (world : World)

def exitIf (condition : Bool) (message : String) : Except Stop Unit := if condition then .error (.exit message) else .ok ()

def raiseIf (condition : Bool) (message : String) : Except Stop Unit := if condition then .error (.error message) else .ok ()

/-- `value is flag`. -/
def isBool (value : Json) (flag : Bool) : Bool :=
  match value with
  | .bool other => other == flag
  | _ => false

/-- `database_version`, of a document that is an object. -/
def databaseVersion (document : Json) : Except Stop Int :=
  if isText (document.get "schemaVersion") "migration-readiness-v1" then do
    raiseIf (!(isText (document.get "status") "passed" && isBool (document.get "ready") true
      && isBool (document.get "writeReady") true && isText (document.get "reason") "ready"
      && equal (document.get "currentVersion") (document.get "requiredVersion")
      && equal (document.get "obanMigrationVersion") (document.get "requiredObanMigrationVersion")
      && equal (document.get "requiredObanMigrationVersion") (.integer 14) && isBool (document.get "inRecovery") false))
      "V1 migration readiness is not exact and write-ready"
    world.int (document.get "currentVersion")
  else if isText (document.get "schemaVersion") "database-readiness-v0" && isBool (document.get "ready") true
      && isText (document.get "reason") "ready" then world.int (document.get "currentVersion")
  else .error (.error "database readiness provider is unsupported or not ready")

def compatibilityOne (label : String) (release : Release) (version : Int) : Except Stop Unit := do
  raiseIf (!(decide (release.databaseCompatibility.minimumMigration ≤ version)
    && decide (version ≤ release.databaseCompatibility.rollbackSafeThrough)))
    ("database version is outside " ++ label ++ " release compatibility range")
  raiseIf release.databaseCompatibility.databaseRollbackAllowed "database down migration is forbidden"

def evidenceReady (release : Release) : Except Stop Unit := do
  let path := release.databaseCompatibilityEvidence.retainedPath
  let tampered := Stop.error ("database compatibility evidence missing/tampered for " ++ release.releaseId)
  if !world.isFile path then .error tampered
  else do
    let digest ← world.digest path
    if digest = release.databaseCompatibilityEvidence.sha256 then .ok () else .error tampered

def credentialReady (path : String) : Except Stop Unit := do
  raiseIf (!world.isFile path || !world.readable path) ("required credential unavailable: " ++ path)
  raiseIf (world.size path = 0 || 25 * 1024 < world.size path) ("required credential size is invalid: " ++ path)
  raiseIf (world.mode path &&& 0o077 ≠ 0) ("required credential permissions are too broad: " ++ path)

def configsReady (release : Release) : Except Stop Unit := do
  let missing := release.configurationPaths.filter fun path => !world.pathExists path
  raiseIf (!missing.isEmpty) ("required configuration paths missing: " ++ world.repr missing)
  evidenceReady world release
  match release.credentialDirectory with
  | none => raiseIf (!release.requiredCredentials.isEmpty) "release declares credentials without a credential directory"
  | some directory => release.requiredCredentials.forM fun name => credentialReady world (directory ++ "/" ++ name)

def recoveryEvidence (path : Option String) (gitSha : String) : Except Stop Unit :=
  match path with
  | none => .error (.error "first-release recovery evidence is required")
  | some path => do
    let document ← world.load path
    let failures ← world.validate "first-release-recovery-v1.schema.json" document
    raiseIf (!failures.isEmpty) ("invalid first-release recovery evidence: " ++ "; ".intercalate failures)
    let listed := match document.get "blockers" with
      | .null => false
      | .list [] => false
      | _ => true
    raiseIf (!isText (document.get "git_sha") gitSha || !isText (document.get "status") "passed" || listed)
      "first-release recovery evidence is not exact-SHA and passed"

/-- A release that may be run on the database and the configuration of the host. -/
def releaseReady (label : String) (version : Int) (release : Release) : Except Stop Unit := do
  compatibilityOne label release version
  configsReady world release
  exitIf (!world.isDir release.releasePath) (label ++ " release directory missing")

/-- What is to be done: the releases by which the host goes from `current` to `target`. -/
structure Plan where
  currentId : Option String
  current : Option Release
  targetId : Option String
  target : Option Release
  firstTransition : Bool

/-- The releases of an activation. -/
def planActivation (args : Args) (currentId : Option String) (current : Option Release) : Except Stop Plan :=
  match args.targetReleaseId with
  | none => .error (.exit "activate requires --target-release-id")
  | some targetId => do
    exitIf (targetId = "") "activate requires --target-release-id"
    let target ← world.descriptor targetId
    exitIf (current.isNone && target.rollbackTargetReleaseId.isSome)
      "first activation target must declare no application rollback release"
    exitIf (current.isSome && decide (target.rollbackTargetReleaseId ≠ currentId))
      "activation target does not declare the current release as rollback target"
    return { currentId, current, targetId := some targetId, target := some target, firstTransition := current.isNone }

/-- The releases of a rollback: without a target the current release is deactivated. -/
def planRollback (args : Args) (currentId : Option String) (current : Option Release) : Except Stop Plan :=
  match current with
  | none => .error (.exit "no active release is selected")
  | some release =>
    match if args.targetReleaseId = some "" then release.rollbackTargetReleaseId
      else args.targetReleaseId.or release.rollbackTargetReleaseId with
    | none => .ok { currentId, current, targetId := none, target := none, firstTransition := true }
    | some targetId => do
      exitIf (release.rollbackTargetReleaseId ≠ some targetId) "requested rollback target is not predeclared"
      let target ← world.descriptor targetId
      return { currentId, current, targetId := some targetId, target := some target, firstTransition := false }

def planReleases (args : Args) : Except Stop Plan := do
  let currentId ← world.currentReleaseId
  let current ← currentId.mapM world.descriptor
  match args.mode with
  | .activate => planActivation world args currentId current
  | .rollback => planRollback world args currentId current

/-- A transition from or to no release needs the evidence that the host can do without one. -/
def transitionReady (args : Args) (plan : Plan) : Except Stop Unit :=
  if plan.firstTransition then
    (plan.target.or plan.current).forM fun bound => recoveryEvidence world args.firstReleaseRecovery bound.gitSha
  else .ok ()

/-- Everything before the first change; the result has the checks that passed. -/
def preflight (args : Args) : Except Stop (Plan × List Check) := do
  exitIf (!(decide (1 ≤ args.maximumDurationSeconds) && decide (args.maximumDurationSeconds ≤ 900)))
    "maximum duration must be 1..900 seconds"
  let plan ← planReleases world args
  let host ← world.load args.hostReadiness
  let failures ← world.validate "host-runtime-v1.schema.json" host
  exitIf (!failures.isEmpty || !isText (host.get "status") "ready")
    ("host readiness is not ready: " ++ "; ".intercalate failures)
  let readiness ← world.load args.databaseReadiness
  let version ← databaseVersion world readiness
  plan.target.forM (releaseReady world "target" version)
  plan.current.forM (releaseReady world "current" version)
  transitionReady world args plan
  exitIf (args.execute && !world.rootPosix) "release mutation requires root on POSIX"
  exitIf (args.execute && decide ((world.strip (args.approvalReference.getD "")).length < 3))
    "release mutation requires approval reference"
  exitIf (decide (args.mode = .activate) && args.activationOutput.isNone)
    "activate requires --activation-output"
  return (plan, [check "host-readiness" "passed" "host readiness passed" 0,
    check "database-compatibility" "passed" ("migration " ++ toString version ++ " is compatible and forward-only") 0,
    check "configuration" "passed" "configuration, evidence and credentials present" 0,
    check "recovery-target" "passed" (if plan.firstTransition then "first-release infrastructure recovery is exact-SHA"
      else "retained target " ++ plan.targetId.getD "None") 0])

end Preflight

/-! ### Execution -/

/-- The host, and the documents and lists of checks that the script has at hand. -/
structure Run where
  host : Host
  rollback : RollbackDoc
  activation : Option ActivationDoc
  checks : List Check
  recoveryChecks : List Check

abbrev Execution := Effect Stop Run

def onHost {α : Type} (operation : Operation α) : Execution α :=
  operation.zoom Run.host fun run host => { run with host }

/-- `assert … is not None`. -/
def asserted {α : Type} : Option α → Execution α
  | some a => return a
  | none => throw (.error "")

def addChecks (checks : List Check) : Execution Unit :=
  modify fun run => { run with checks := run.checks ++ checks }

def addRecoveryChecks (checks : List Check) : Execution Unit :=
  modify fun run => { run with recoveryChecks := run.recoveryChecks ++ checks }

section Execution

variable (world : World) (args : Args) (plan : Plan)

/-- Documents before anything is done. -/
def Run.start (checks : List Check) (host : Host) : Run where
  host
  checks
  recoveryChecks := []
  rollback :=
    let fallback := match args.mode with
      | .rollback => plan.target
      | .activate => plan.current
    { rollbackId := args.deploymentId ++ "-rollback"
      fromReleaseId := plan.currentId.or plan.targetId
      targetReleaseId := fallback.map Release.releaseId
      recoveryMode := if plan.firstTransition then "deactivate-first-release" else "release-switch"
      targetGitSha := fallback.map Release.gitSha
      targetManifestSha256 := fallback.map Release.sourceManifestSha256
      maximumDurationSeconds := args.maximumDurationSeconds
      status := .engineeringCompleteEvidencePending
      approvalReference := if args.execute then args.approvalReference else none
      checks := [recoveryCheck "preflight" "passed" "release and infrastructure recovery preflight validated"]
      evidenceClass := if args.execute then "live-approved" else "dry-run" }
  activation :=
    match args.mode, plan.target with
    | .activate, some target => some {
        deploymentId := args.deploymentId
        releaseId := plan.targetId.getD ""
        gitSha := target.gitSha
        manifestSha256 := target.sourceManifestSha256
        previousReleaseId := plan.currentId
        rollbackTargetReleaseId := plan.currentId
        state := .preflightPassed
        status := .engineeringCompleteEvidencePending
        approvalReference := if args.execute then args.approvalReference else none
        checks
        trafficEnabled := false
        evidenceClass := if args.execute then "live-approved" else "dry-run" }
    | _, _ => none

/-- `activation_doc.update(…)`. -/
def Run.updateActivation (run : Run) (state : ActivationState) (status : DocumentStatus) (checks : List Check) : Run :=
  { run with activation := run.activation.map fun document => { document with state, status, checks } }

/-- `rollback_doc.update(…)`. -/
def Run.updateRollback (run : Run) (status : DocumentStatus) (checks : List Check) : Run :=
  { run with rollback := { run.rollback with status, checks } }

def activate (started : Int) : Execution Unit := do
  let target ← asserted plan.target
  plan.current.forM fun current => do
    let stopped ← onHost (stopRelease world current args.systemctl true)
    addChecks stopped
  onHost (selectRelease world target)
  addChecks [check "select-release" "passed" (target.releasePath ++ " and " ++ target.runtimeConfigPath.getD "None") 0]
  let results ← onHost (startRelease world target args.systemctl)
  addChecks results
  let now ← onHost (monotonic world)
  if args.maximumDurationSeconds < (now - started).tdiv 1000000 then throw (.error "release operation exceeded maximum duration")
  else modify fun run =>
    let run := run.updateActivation .healthGated .passed run.checks
    { run with rollback := { run.rollback with
      checks := run.rollback.checks ++ [recoveryCheck "not-executed" "not-run" "recovery was not required"] } }

def deactivate : Execution Unit := do
  let current ← asserted plan.current
  let stopped ← onHost (stopRelease world current args.systemctl true)
  addRecoveryChecks stopped
  onHost (clearSelection world)
  modify fun run => run.updateRollback .passed
    [recoveryCheck "drain-stop-deactivate" "passed" "first release deactivated; traffic must remain fail-closed"]

def switch : Execution Unit := do
  let current ← asserted plan.current
  let target ← asserted plan.target
  let stopped ← onHost (stopRelease world current args.systemctl true)
  addRecoveryChecks stopped
  onHost (selectRelease world target)
  let results ← onHost (startRelease world target args.systemctl)
  addRecoveryChecks results
  modify fun run => run.updateRollback .passed
    [recoveryCheck "drain-stop-switch-start-health" "passed" "rollback completed"]

/-- The body of the outer `try`. -/
def operate (started : Int) : Execution Unit :=
  match args.mode with
  | .activate => activate world args plan started
  | .rollback => if plan.firstTransition then deactivate world args plan else switch world args plan

/-- Back to where the activation came from. -/
def restore : Option Release → Execution Unit
  | none => do
    onHost (clearSelection world)
    addRecoveryChecks [recoveryCheck "automatic-recovery" "passed" "deactivated failed first release"]
  | some current => do
    onHost (selectRelease world current)
    let _ ← onHost (startRelease world current args.systemctl)
    addRecoveryChecks [recoveryCheck "automatic-recovery" "passed" ("restored " ++ plan.currentId.getD "None")]

/-- The body of the inner `try`: a failed rollback is only reported. -/
def recover (failure : Stop) : Execution Unit :=
  match args.mode with
  | .rollback => throw failure
  | .activate => do
    let target ← asserted plan.target
    let _ ← onHost (stopRelease world target args.systemctl false)
    restore world args plan plan.current
    modify fun run =>
      (run.updateRollback .passed run.recoveryChecks).updateActivation .rolledBack .failed
        (run.checks ++ [check "automatic-rollback" "passed" failure.text 0])

def reportFailure (failure : Stop) : Execution Unit :=
  modify fun run =>
    let recoveryChecks := run.recoveryChecks ++ [recoveryCheck "automatic-recovery" "failed" failure.text]
    ({ run with recoveryChecks }.updateRollback .failed recoveryChecks).updateActivation .activationFailed .failed
      (run.checks ++ [check "automatic-rollback" "failed" failure.text 0])

def execute : Execution Unit := do
  let started ← onHost (monotonic world)
  tryCatch (operate world args plan started) fun failure => do
    addRecoveryChecks [recoveryCheck "operation-failure" "failed" failure.text]
    tryCatch (recover world args plan failure) reportFailure

/-- A document that is written if it satisfies its schema. -/
def publish (schema : String) (document : Document) (path : String) : Except Stop Unit := do
  let failures ← world.validateDocument schema document
  raiseIf (!failures.isEmpty) ("invalid evidence " ++ schema ++ ": " ++ "; ".intercalate failures)
  world.writeText path document

/-- What the script has reported, with its exit status. -/
structure Report where
  rollback : RollbackDoc
  activation : Option ActivationDoc
  exitStatus : Nat

def Run.exitStatus (run : Run) : Nat :=
  if run.activation.any fun document => document.status = .failed then 3
  else if run.rollback.status = .failed then 4 else 0

/-- The activation document, where there are one and a path for it. -/
def withActivation (run : Run) (emit : ActivationDoc → String → Except Stop Unit) : Except Stop Unit :=
  match run.activation, args.activationOutput with
  | some document, some path => emit document path
  | _, _ => .ok ()

def report (run : Run) : Except Stop Report := do
  publish world "rollback-v1.schema.json" (.rollback run.rollback) args.rollbackOutput
  withActivation args run fun document path => publish world "activation-v1.schema.json" (.activation document) path
  return ⟨run.rollback, run.activation, run.exitStatus⟩

/-- Without `--execute` the documents are written as they are before anything is done. -/
def dryRun (run : Run) : Except Stop Report := do
  world.writeText args.rollbackOutput (.rollback run.rollback)
  withActivation args run fun document path => world.writeText path (.activation document)
  return ⟨run.rollback, run.activation, 0⟩

end Execution

def main (world : World) (args : Args) (host : Host) : Except Stop Report × Host :=
  match preflight world args with
  | .error failure => (.error failure, host)
  | .ok (plan, checks) =>
    let run := Run.start args plan checks host
    if !args.execute then (dryRun world args run, host)
    else match (execute world args plan).exec run with
      | (.error failure, run) => (.error failure, run.host)
      | (.ok (), run) => (report world args run, run.host)

end Liqi.Deployment
