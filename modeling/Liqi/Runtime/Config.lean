import Mathlib.Data.List.Basic

/-!
# Runtime configuration

The settings that `Config.validate` checks and that the realtime path reads. `load` hands out only
configurations that passed the checks, which `RuntimeConfig` carries. Concurrency limits are enforced by
`Budgets.with_permit`, which refuses work instead of queueing it.
-/

namespace Liqi.Runtime

inductive NativeMode where
  | disabled
  | optional
  | required
  deriving DecidableEq

/-- The fields of `Liqi.Runtime.Config`, with its defaults. -/
structure Config where
  environment : String
  schemaVersion : String := "1"
  endpointSecretRef : Option String := none
  databaseSecretRef : Option String := none
  drainTokenRef : Option String := none
  probeTokenRef : Option String := none
  databaseCredentialFormat : String := "role-url-bundle-v1"
  requiredMigrationVersion : Int := 8
  actorPartitions : Int := 4
  actorIdleTtlMs : Int := 60000
  actorMailboxWarn : Int := 64
  actorMailboxReject : Int := 128
  sessionQueueCapacity : Int := 128
  sessionQueueMaxBytes : Int := 1048576
  sessionQueueMaxAgeMs : Int := 30000
  maxRealtimeMessageBytes : Int := 65536
  requestBodyBytes : Int := 1048576
  endpointConcurrency : Int := 256
  databaseConcurrency : Int := 24
  nativeConcurrency : Int := 2
  nativeMode : NativeMode := .optional
  handoffBatchSize : Int := 64
  obanConcurrency : Int := 6
  deriving DecidableEq

inductive ConfigError where
  | invalidActorPartitions
  | invalidMailboxWarning
  | invalidMailboxReject
  | invalidSessionQueueCapacity
  | invalidSessionQueueBytes
  | invalidSessionQueueAge
  | invalidRealtimeMessageSize
  | requestBodyLimitMustMatchEndpoint
  | invalidEndpointConcurrency
  | invalidDatabaseConcurrency
  | invalidMigrationVersion
  | invalidHandoffBatchSize
  | obanConcurrencyMustMatchProviderPolicy
  | databaseCredentialFormatInvalid
  | databaseSecretReferenceRequired
  | endpointSecretReferenceRequired
  | drainTokenReferenceRequired
  | probeTokenReferenceRequired
  deriving DecidableEq

/-- `value in low..high`. -/
def inRange (low high value : Int) : Bool := low ≤ value && value ≤ high

/-- `secret_ref?`. -/
def isSecretRef : Option String → Bool
  | some ref => ["file://", "oci-vault://", "systemd-credential://"].any fun scheme => ref.startsWith scheme
  | none => false

namespace Config

/-- The checks, each with the error that it raises, in their order. -/
def checks (config : Config) : List (Bool × ConfigError) :=
  [(inRange 1 64 config.actorPartitions, .invalidActorPartitions),
   (1 ≤ config.actorMailboxWarn, .invalidMailboxWarning),
   (config.actorMailboxWarn < config.actorMailboxReject, .invalidMailboxReject),
   (inRange 1 4096 config.sessionQueueCapacity, .invalidSessionQueueCapacity),
   (inRange 65536 8388608 config.sessionQueueMaxBytes, .invalidSessionQueueBytes),
   (inRange 1000 120000 config.sessionQueueMaxAgeMs, .invalidSessionQueueAge),
   (inRange 1024 1048576 config.maxRealtimeMessageBytes, .invalidRealtimeMessageSize),
   (config.requestBodyBytes = 1048576, .requestBodyLimitMustMatchEndpoint),
   (inRange 1 4096 config.endpointConcurrency, .invalidEndpointConcurrency),
   (inRange 1 35 config.databaseConcurrency, .invalidDatabaseConcurrency),
   (8 ≤ config.requiredMigrationVersion, .invalidMigrationVersion),
   (inRange 1 128 config.handoffBatchSize, .invalidHandoffBatchSize),
   (config.obanConcurrency = 6, .obanConcurrencyMustMatchProviderPolicy),
   (!(config.schemaVersion == "1" && config.databaseCredentialFormat != "role-url-bundle-v1"),
     .databaseCredentialFormatInvalid),
   (!(config.environment == "production" && !isSecretRef config.databaseSecretRef), .databaseSecretReferenceRequired),
   (!(config.environment == "production" && !isSecretRef config.endpointSecretRef), .endpointSecretReferenceRequired),
   (!(config.environment == "production" && !isSecretRef config.drainTokenRef), .drainTokenReferenceRequired),
   (!(config.environment == "production" && !isSecretRef config.probeTokenRef), .probeTokenReferenceRequired)]

def validate (config : Config) : Except ConfigError Config :=
  match config.checks.find? fun check => !check.1 with
  | some (_, error) => .error error
  | none => .ok config

/-- A configuration is accepted if it passes every check. -/
theorem validate_eq_ok {config : Config} : config.validate = .ok config ↔ ∀ check ∈ config.checks, check.1 = true := by
  unfold validate
  split
  next passed error failed =>
    refine iff_of_false (by simp) fun all => ?_
    have refused := List.find?_some failed
    have passing := all _ (List.mem_of_find?_eq_some failed)
    simp_all
  next none =>
    simp only [List.find?_eq_none, Bool.not_eq_true', Bool.not_eq_false] at none
    exact iff_of_true rfl none

end Config

/-- A configuration as `Config.load` returns it. -/
structure RuntimeConfig extends Config where
  accepted : toConfig.validate = .ok toConfig

namespace RuntimeConfig

variable (config : RuntimeConfig)

theorem queueCapacity : 1 ≤ config.sessionQueueCapacity ∧ config.sessionQueueCapacity ≤ 4096 := by
  have passed := Config.validate_eq_ok.1 config.accepted
    (inRange 1 4096 config.sessionQueueCapacity, .invalidSessionQueueCapacity) (by simp [Config.checks])
  simpa [inRange] using passed

theorem queueMaxBytes : 65536 ≤ config.sessionQueueMaxBytes ∧ config.sessionQueueMaxBytes ≤ 8388608 := by
  have passed := Config.validate_eq_ok.1 config.accepted
    (inRange 65536 8388608 config.sessionQueueMaxBytes, .invalidSessionQueueBytes) (by simp [Config.checks])
  simpa [inRange] using passed

theorem handoffBatch : 1 ≤ config.handoffBatchSize ∧ config.handoffBatchSize ≤ 128 := by
  have passed := Config.validate_eq_ok.1 config.accepted
    (inRange 1 128 config.handoffBatchSize, .invalidHandoffBatchSize) (by simp [Config.checks])
  simpa [inRange] using passed

theorem mailboxReject : 1 < config.actorMailboxReject := by
  have warn := Config.validate_eq_ok.1 config.accepted
    (1 ≤ config.actorMailboxWarn, .invalidMailboxWarning) (by simp [Config.checks])
  have reject := Config.validate_eq_ok.1 config.accepted
    (config.actorMailboxWarn < config.actorMailboxReject, .invalidMailboxReject) (by simp [Config.checks])
  simp only [decide_eq_true_eq] at warn reject
  omega

end RuntimeConfig

/-- `Budgets.with_permit`: the work runs if fewer than `limit` permits are in use. -/
def withPermit {ε α : Type} (limit inUse : Int) (capacity : ε) (work : Except ε α) : Except ε α :=
  if limit ≤ inUse then .error capacity else work

end Liqi.Runtime
