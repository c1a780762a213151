import Liqi.V0.Configuration
import Liqi.V0.ProbeWorker

/-!
# Which retries are accepted

`retry_delay` never panics, and its result stays within a fifth of the capped exponential delay. `OutboxRetry::validate`
refuses a delay above one minute, in another crate than the configuration, which sets no bound on the greatest delay: a
worker whose delays pass the minute cannot record a failed delivery.
-/

namespace Liqi.V0

open Postgres Liqi.Database

/-- `Duration::from_millis`. -/
def fromMillis (ms : Nat) : Duration := ms * 1000000

/-- The remainder of unsigned integers, which panics for a zero divisor. -/
def checkedRem (dividend divisor : Nat) : Option Nat := if divisor = 0 then none else some (dividend % divisor)

/-- `retry_delay` operation by operation; `none` is a panic. -/
def tryRetryDelay (base maximum : Duration) (attempt : Nat) (eventId : Uuid) : Option Duration := do
  let exponent := min (attempt - 1) 16
  let multiplier := if exponent < 32 then 2 ^ exponent % 2 ^ 32 else 2 ^ 32 - 1
  let exponential := min (base * multiplier) durationMax
  let capped := min exponential maximum
  let jitterWindowMs := max (capped / 1000000 / 5) 1
  let first ← eventId.bytes[0]?
  let second ← eventId.bytes[1]?
  let seed := first.val * 256 + second.val
  let jitterMs ← checkedRem seed jitterWindowMs
  let jitter := fromMillis (if jitterMs < 2 ^ 64 then jitterMs else 2 ^ 64 - 1)
  some (capped - jitter)

/-- The worker of `main`. -/
def RuntimeConfig.worker (config : RuntimeConfig) : PlatformProbeWorker :=
  .new config.limits.workerClaimBatch.toNat (fromMillis config.limits.workerRetryBaseMs.toNat)
    (fromMillis config.limits.workerRetryMaxMs.toNat) config.limits.workerConcurrency.toNat

/-- The retries that `process_delivery` builds, of a payload without a probe and of a failed effect. -/
def retryReasons : List String := ["invalid_probe_payload", "probe_effect_failed"]

/-- `min(base * 2^(attempt - 1), maximum)`, in milliseconds. -/
def RuntimeConfig.retryCapMs (config : RuntimeConfig) (attempt : Nat) : Nat :=
  min (config.limits.workerRetryBaseMs.toNat * 2 ^ (attempt - 1)) config.limits.workerRetryMaxMs.toNat

/-- The delay of the attempt is computed, lies in the last fifth below its cap, and makes a retry that is accepted. -/
structure RetryAccepted (config : RuntimeConfig) (attempt : Nat) (eventId : Uuid) (delay : Duration) : Prop where
  computed : tryRetryDelay config.worker.retryBase config.worker.retryMax attempt eventId = some delay
  fits : delay ≤ durationMax
  above : 4 * fromMillis (config.retryCapMs attempt) ≤ 5 * delay
  below : delay ≤ fromMillis (config.retryCapMs attempt)
  accepted : ∀ reason ∈ retryReasons, (OutboxRetry.mk attempt outboxMaxAttempts delay reason).validate = .ok ()

/-! ## The delay -/

/-- The number that the first two bytes of an identifier make. -/
def jitterSeed (eventId : Uuid) : Nat :=
  match eventId.bytes with
  | first :: second :: _ => first.val * 256 + second.val
  | _ => 0

/-- The delay before the jitter is taken off. -/
def cappedDelay (base maximum : Duration) (attempt : Nat) : Duration :=
  min (min (base * 2 ^ min (attempt - 1) 16) durationMax) maximum

theorem retryDelay_eq (base maximum : Duration) (attempt : Nat) (eventId : Uuid) :
    retryDelay base maximum attempt eventId =
      cappedDelay base maximum attempt -
        jitterSeed eventId % max (cappedDelay base maximum attempt / 1000000 / 5) 1 * 1000000 := rfl

theorem bytes_cons (eventId : Uuid) : ∃ first second rest, eventId.bytes = first :: second :: rest := by
  have size := eventId.size
  match bytes : eventId.bytes with
  | [] => simp [bytes] at size
  | [_] => simp [bytes] at size
  | first :: second :: rest => exact ⟨first, second, rest, rfl⟩

/-- Nothing panics: the exponent is below 32, an identifier has two bytes, and the window is not empty. -/
theorem tryRetryDelay_eq (base maximum : Duration) (attempt : Nat) (eventId : Uuid) :
    tryRetryDelay base maximum attempt eventId = some (retryDelay base maximum attempt eventId) := by
  obtain ⟨first, second, rest, bytes⟩ := bytes_cons eventId
  have shifted : (if min (attempt - 1) 16 < 32 then 2 ^ min (attempt - 1) 16 % 2 ^ 32 else 2 ^ 32 - 1) =
      2 ^ min (attempt - 1) 16 := by
    have small : 2 ^ min (attempt - 1) 16 ≤ 2 ^ 16 := Nat.pow_le_pow_right (by decide) (by omega)
    rw [if_pos (by omega), Nat.mod_eq_of_lt (by omega)]
  have seed : first.val * 256 + second.val < 2 ^ 64 := by omega
  have jitter (window : Nat) : (if (first.val * 256 + second.val) % window < 2 ^ 64 then
      (first.val * 256 + second.val) % window else 2 ^ 64 - 1) = (first.val * 256 + second.val) % window :=
    if_pos (Nat.lt_of_le_of_lt (Nat.mod_le _ _) seed)
  have window (capped : Nat) : max (capped / 1000000 / 5) 1 ≠ 0 := by omega
  unfold tryRetryDelay checkedRem
  simp only [shifted, bytes, List.getElem?_cons_zero, List.getElem?_cons_succ, window, if_false, jitter, bind,
    Option.bind_some, retryDelay, fromMillis]

/-- The jitter takes at most a fifth off. -/
theorem jitter_bounds (capped seed : Nat) :
    4 * capped ≤ 5 * (capped - seed % max (capped / 1000000 / 5) 1 * 1000000) ∧
      capped - seed % max (capped / 1000000 / 5) 1 * 1000000 ≤ capped := by
  have less : seed % max (capped / 1000000 / 5) 1 < max (capped / 1000000 / 5) 1 := Nat.mod_lt _ (by omega)
  generalize seed % max (capped / 1000000 / 5) 1 = jitter at *
  omega

theorem retryDelay_bounds (base maximum : Duration) (attempt : Nat) (eventId : Uuid) :
    4 * cappedDelay base maximum attempt ≤ 5 * retryDelay base maximum attempt eventId ∧
      retryDelay base maximum attempt eventId ≤ cappedDelay base maximum attempt :=
  jitter_bounds (cappedDelay base maximum attempt) (jitterSeed eventId)

/-- The identifier of zeros has no jitter. -/
theorem retryDelay_zeros (base maximum : Duration) (attempt : Nat) :
    retryDelay base maximum attempt (sampleUuid 0) = cappedDelay base maximum attempt := by
  have seed : jitterSeed (sampleUuid 0) = 0 := by decide
  rw [retryDelay_eq, seed, Nat.zero_mod, Nat.zero_mul, Nat.sub_zero]

/-- The delays of a configuration are far below the greatest `Duration`, so only its own maximum caps them. -/
theorem cappedDelay_worker (config : RuntimeConfig) {attempt : Nat} (bounds : 1 ≤ attempt ∧ attempt ≤ 8) :
    cappedDelay config.worker.retryBase config.worker.retryMax attempt = fromMillis (config.retryCapMs attempt) := by
  have word := config.limits.workerRetryBaseMs.toNat_lt
  have exponent : min (attempt - 1) 16 = attempt - 1 := by omega
  have small : 2 ^ (attempt - 1) ≤ 2 ^ 7 := Nat.pow_le_pow_right (by decide) (by omega)
  have product : config.limits.workerRetryBaseMs.toNat * 2 ^ (attempt - 1) ≤ 2 ^ 64 * 2 ^ 7 :=
    Nat.mul_le_mul word.le small
  have base : config.worker.retryBase = config.limits.workerRetryBaseMs.toNat * 1000000 := rfl
  have maximum : config.worker.retryMax = config.limits.workerRetryMaxMs.toNat * 1000000 := rfl
  have scaled : config.limits.workerRetryBaseMs.toNat * 1000000 * 2 ^ (attempt - 1) =
      config.limits.workerRetryBaseMs.toNat * 2 ^ (attempt - 1) * 1000000 := Nat.mul_right_comm _ _ _
  have saturated : config.limits.workerRetryBaseMs.toNat * 2 ^ (attempt - 1) * 1000000 ≤ durationMax :=
    (Nat.mul_le_mul_right 1000000 product).trans (by decide)
  unfold cappedDelay RuntimeConfig.retryCapMs fromMillis
  rw [exponent, base, maximum, scaled, Nat.min_eq_left saturated, Nat.mul_min_mul_right]

theorem retry_accepted_delay {attempt : Nat} (bounds : 1 ≤ attempt ∧ attempt ≤ 8) {delay : Duration} {reason : String}
    (known : reason ∈ retryReasons) :
    (OutboxRetry.mk attempt outboxMaxAttempts delay reason).validate = .ok () ↔ delay ≤ 60 * 1000000000 := by
  have named : reason ≠ "" ∧ reason.utf8ByteSize ≤ 64 := by
    simp only [retryReasons, List.mem_cons, List.not_mem_nil, or_false] at known
    rcases known with rfl | rfl <;> decide
  have attempts : attempt ≠ 0 ∧ ¬ outboxMaxAttempts < attempt := by unfold outboxMaxAttempts; omega
  simp [OutboxRetry.validate, named.1, Nat.not_lt.2 named.2, attempts.1, attempts.2]

/-- **Retries.** For a configuration that a worker accepts, every retry of an attempt is computed within its bounds and
accepted, whichever event it is for, exactly if the attempt's cap is at most a minute. -/
theorem retries_accepted_iff {socketAddr : String → Bool} (config : WorkerConfig socketAddr) {attempt : Nat}
    (bounds : 1 ≤ attempt ∧ attempt ≤ 8) :
    (∀ eventId, ∃ delay, RetryAccepted config.toRuntimeConfig attempt eventId delay) ↔
      config.retryCapMs attempt ≤ 60000 := by
  have capped := cappedDelay_worker config.toRuntimeConfig bounds
  constructor
  · intro every
    obtain ⟨delay, retry⟩ := every (sampleUuid 0)
    have computed := (tryRetryDelay_eq _ _ attempt (sampleUuid 0)).symm.trans retry.computed
    rw [retryDelay_zeros, capped] at computed
    have accepted := (retry_accepted_delay bounds (by decide)).1 (retry.accepted "probe_effect_failed" (by decide))
    rw [← Option.some.inj computed] at accepted
    exact Nat.le_of_mul_le_mul_right (accepted.trans (by decide)) (by decide : 0 < 1000000)
  · intro small eventId
    obtain ⟨above, below⟩ := retryDelay_bounds config.worker.retryBase config.worker.retryMax attempt eventId
    rw [capped] at above below
    have minute := calc
      retryDelay config.worker.retryBase config.worker.retryMax attempt eventId
      _ ≤ config.retryCapMs attempt * 1000000 := below
      _ ≤ 60000 * 1000000 := Nat.mul_le_mul_right 1000000 small
      _ = 60 * 1000000000 := by decide
    refine ⟨_, tryRetryDelay_eq _ _ attempt eventId, minute.trans (by decide), above, below, fun reason known => ?_⟩
    exact (retry_accepted_delay bounds known).2 minute

/-- The example configuration of the worker, with another range of delays. -/
def sampleWorkerConfig (retryBaseMs retryMaxMs : UInt64) : RuntimeConfig where
  schemaVersion := "0"
  environment := .local_
  host := ⟨"/run/liqi/host-ready.json", "liqi.platform.host-readiness/v0"⟩
  service := ⟨.liqiWorker, "0.1.0-dev", ⟨"127.0.0.1", 8082⟩⟩
  database :=
    { endpointHost := "127.0.0.1", endpointPort := 6432, databaseName := "liqi", role := .liqiWorker,
      secretRef := "env://LIQI_DATABASE_PASSWORD", statementTimeoutMs := 30000, lockTimeoutMs := 5000,
      idleInTransactionTimeoutMs := 30000, maxConnections := 10, minConnections := 1 }
  runtime := ⟨256, 4⟩
  limits :=
    { maxRequestBodyBytes := 1048576, maxRealtimeMessageBytes := 65536, realtimeOutboundQueue := 128,
      realtimeHeartbeatIntervalMs := 15000, realtimeHeartbeatTimeoutMs := 45000, realtimeMaxSubscriptions := 64,
      workerClaimBatch := 32, workerConcurrency := 8, workerMaxAttempts := 8, workerRetryBaseMs := retryBaseMs,
      workerRetryMaxMs := retryMaxMs, validationErrorItems := 8, eventMetadataBytes := 4096 }
  traceSampleRatio := some 1
  features := []

/-- The example's address parses. -/
def sampleSocketAddr (text : String) : Bool := text == "127.0.0.1:8082"

/-- The example itself. -/
def acceptedWorker : WorkerConfig sampleSocketAddr := ⟨sampleWorkerConfig 500 30000, by decide +kernel⟩

theorem retries_accepted_first_attempt : (1 ≤ 1 ∧ 1 ≤ 8) ∧
    ((∀ eventId, ∃ delay, RetryAccepted acceptedWorker.toRuntimeConfig 1 eventId delay) ↔
      acceptedWorker.retryCapMs 1 ≤ 60000) :=
  ⟨by decide, retries_accepted_iff acceptedWorker (by decide)⟩

/-- A configuration that the worker accepts and whose eighth attempt asks for 64 seconds, which no retry may. -/
theorem long_retry_refused :
    (sampleWorkerConfig 500 120000).validate sampleSocketAddr .liqiWorker = .ok () ∧
      tryRetryDelay (sampleWorkerConfig 500 120000).worker.retryBase (sampleWorkerConfig 500 120000).worker.retryMax 8
        (sampleUuid 0) = some (64 * 1000000000) ∧
      (OutboxRetry.mk 8 outboxMaxAttempts (64 * 1000000000) "probe_effect_failed").validate = .error .invalidOperation :=
  ⟨by decide +kernel, by decide +kernel, by decide +kernel⟩

end Liqi.V0
