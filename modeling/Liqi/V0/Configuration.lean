import Liqi.Rust.Primitives
import Mathlib.Data.Rat.Defs

/-!
# The configuration of the V0 services

`RuntimeConfig::validate` checks a configuration against the contract of the service that loads it. The fields are those
that it reads. `usize` is the 64-bit word of the targets, and a ratio that is not a finite number is `none`.
-/

namespace Liqi.V0

inductive Environment where
  | local_
  | development
  | test
  | staging
  | production
  deriving DecidableEq

def Environment.isProductionLike : Environment → Bool
  | .staging => true
  | .production => true
  | _ => false

inductive ServiceName where
  | liqiApi
  | liqiRealtime
  | liqiWorker
  deriving DecidableEq

inductive DatabaseRole where
  | liqiApi
  | liqiRealtime
  | liqiWorker
  deriving DecidableEq

namespace DatabaseRole

def maximumPoolSize : DatabaseRole → UInt32
  | .liqiApi => 20
  | .liqiRealtime => 5
  | .liqiWorker => 10

def expectedFor : ServiceName → DatabaseRole
  | .liqiApi => .liqiApi
  | .liqiRealtime => .liqiRealtime
  | .liqiWorker => .liqiWorker

end DatabaseRole

/-- `SecretReference::scheme`. -/
def secretScheme (reference : String) : String :=
  match Rust.splitOnce "://".toList reference.toList with
  | some (scheme, _) => String.ofList scheme
  | none => "invalid"

structure HostConfig where
  readinessFile : String
  readinessSchemaVersion : String

structure ListenConfig where
  host : String
  port : UInt16

structure ServiceConfig where
  name : ServiceName
  version : String
  listen : ListenConfig

structure DatabaseConfig where
  endpointHost : String
  endpointPort : UInt16
  databaseName : String
  role : DatabaseRole
  secretRef : String
  statementTimeoutMs : UInt64
  lockTimeoutMs : UInt64
  idleInTransactionTimeoutMs : UInt64
  maxConnections : UInt32
  minConnections : UInt32

structure RuntimeLimits where
  maxInFlightRequests : UInt64
  maxBlockingTasks : UInt64

structure PayloadLimits where
  maxRequestBodyBytes : UInt64
  maxRealtimeMessageBytes : UInt64
  realtimeOutboundQueue : UInt64
  realtimeHeartbeatIntervalMs : UInt64
  realtimeHeartbeatTimeoutMs : UInt64
  realtimeMaxSubscriptions : UInt64
  workerClaimBatch : UInt64
  workerConcurrency : UInt64
  workerMaxAttempts : UInt32
  workerRetryBaseMs : UInt64
  workerRetryMaxMs : UInt64
  validationErrorItems : UInt64
  eventMetadataBytes : UInt64

structure RuntimeConfig where
  schemaVersion : String
  environment : Environment
  host : HostConfig
  service : ServiceConfig
  database : DatabaseConfig
  runtime : RuntimeLimits
  limits : PayloadLimits
  traceSampleRatio : Option ℚ
  features : List (String × Bool)

inductive ConfigError where
  | unsupportedSchemaVersion (version : String)
  | wrongService (expected actual : ServiceName)
  | invalidValue (what : String)
  | invalidListenAddress
  | productionEnvironmentSecret
  | productionFakePersistence
  deriving DecidableEq

namespace RuntimeConfig

def featureEnabled (config : RuntimeConfig) (name : String) : Bool := (config.features.lookup name).getD false

/-- The pool of the database: one role for each service, on the port of the pooler. -/
def poolValid (config : RuntimeConfig) (expected : ServiceName) : Bool :=
  !(Rust.isBlank config.database.endpointHost || config.database.endpointPort != 6432
    || config.database.databaseName != "liqi" || config.database.role != .expectedFor expected
    || config.database.maxConnections == 0 || config.database.maxConnections > config.database.role.maximumPoolSize
    || config.database.minConnections > config.database.maxConnections)

def timeoutValid (config : RuntimeConfig) : ServiceName → Bool
  | .liqiApi =>
    config.database.statementTimeoutMs ≤ 5000 && config.database.lockTimeoutMs ≤ 2000
      && config.database.idleInTransactionTimeoutMs ≤ 15000
  | .liqiRealtime =>
    config.database.statementTimeoutMs ≤ 3000 && config.database.lockTimeoutMs ≤ 2000
      && config.database.idleInTransactionTimeoutMs ≤ 15000
  | .liqiWorker =>
    config.database.statementTimeoutMs ≤ 30000 && config.database.lockTimeoutMs ≤ 5000
      && config.database.idleInTransactionTimeoutMs ≤ 30000

def limitsValid (limits : PayloadLimits) : Bool :=
  !(limits.maxRequestBodyBytes == 0 || limits.maxRealtimeMessageBytes == 0 || limits.realtimeOutboundQueue == 0
    || limits.realtimeHeartbeatIntervalMs == 0
    || limits.realtimeHeartbeatTimeoutMs ≤ limits.realtimeHeartbeatIntervalMs
    || limits.realtimeMaxSubscriptions == 0 || limits.realtimeMaxSubscriptions > 64
    || limits.workerClaimBatch == 0 || limits.workerClaimBatch > 50 || limits.workerConcurrency == 0
    || limits.workerMaxAttempts != 8 || limits.workerRetryBaseMs == 0
    || limits.workerRetryBaseMs > limits.workerRetryMaxMs || limits.validationErrorItems == 0
    || limits.validationErrorItems > 16 || limits.eventMetadataBytes != 4096)

/-- The checks, each with the error that it raises, in their order; `socketAddr` is whether a text parses as a
`SocketAddr`. -/
def checks (socketAddr : String → Bool) (config : RuntimeConfig) (expected : ServiceName) : List (Bool × ConfigError) :=
  [(config.schemaVersion == "0", .unsupportedSchemaVersion config.schemaVersion),
   (config.service.name == expected, .wrongService expected config.service.name),
   (!Rust.isBlank config.service.version, .invalidValue "service.version"),
   (socketAddr (config.service.listen.host ++ ":" ++ toString config.service.listen.port), .invalidListenAddress),
   (['/'].isPrefixOf config.host.readinessFile.toList
      && config.host.readinessSchemaVersion == "liqi.platform.host-readiness/v0",
     .invalidValue "host readiness contract"),
   (config.poolValid expected, .invalidValue "database transaction-pool contract"),
   (config.timeoutValid expected, .invalidValue "database timeout policy"),
   (!(config.runtime.maxInFlightRequests == 0 || config.runtime.maxBlockingTasks == 0), .invalidValue "runtime bounds"),
   (limitsValid config.limits, .invalidValue "payload and worker bounds"),
   (config.traceSampleRatio.any fun ratio => 0 ≤ ratio && ratio ≤ 1, .invalidValue "telemetry.traceSampleRatio"),
   (!(config.environment.isProductionLike && secretScheme config.database.secretRef == "env"),
     .productionEnvironmentSecret),
   (!(config.environment.isProductionLike && config.featureEnabled "persistence.fake"), .productionFakePersistence)]

def validate (socketAddr : String → Bool) (config : RuntimeConfig) (expected : ServiceName) : Except ConfigError Unit :=
  match (config.checks socketAddr expected).find? fun check => !check.1 with
  | some (_, error) => .error error
  | none => .ok ()

end RuntimeConfig

/-- A configuration as `RuntimeConfig::load` hands it to the worker. -/
structure WorkerConfig (socketAddr : String → Bool) extends RuntimeConfig where
  accepted : toRuntimeConfig.validate socketAddr .liqiWorker = .ok ()

end Liqi.V0
