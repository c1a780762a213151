import Liqi.Database.Probe
import Mathlib.Data.List.Induction

/-!
# Sequences of calls

Every function of the schema that writes, as one type of calls. `Call.exec` runs a call in a
transaction of its own; a raised error leaves the database as it was. A run is a list of calls from
the migrated database.
-/

namespace Liqi.Database

open Postgres

/-- The claim of an event that `ack`, `fail` and `apply` are called with. -/
structure Holder where
  eventId : Option Uuid
  token : Option Uuid
  consumer : Option String
  deriving DecidableEq

inductive Call where
  | enqueueV0 (a : EnqueueV0) (now : Timestamp)
  | enqueueV1 (a : EnqueueV1) (now : Timestamp)
  | publish (version : Version) (now : Timestamp) (eventId : Option Uuid)
  | requestV0 (a : RequestProbeV0) (clock : RequestClock)
  | requestV1 (a : RequestProbeV1) (clock : RequestClock)
  | claim (version : Version) (c : Claim)
  | ack (version : Version) (now : Timestamp) (holder : Holder)
  | fail (version : Version) (now : Timestamp) (holder : Holder) (errorCode : Option String)
      (retryAt : Option Timestamp)
  | apply (version : Version) (now : Timestamp) (holder : Holder)
  | pruneHandoff (recordedBefore : Option Timestamp) (batch : Option Int) (skipped : Nat → Bool)

inductive Reply where
  | event (eventId : Uuid)
  | handoff (handoffId : Nat)
  | receipt (receipt : ProbeReceipt)
  | claimed (events : List ClaimedEvent)
  | status (status : OutboxStatus)
  | pruned (pruned : Pruned)
  deriving DecidableEq

/-- A function's result as a reply. -/
def reply {α : Type} (wrap : α → Reply) (result : Except SqlError (α × Db)) : Except SqlError (Reply × Db) :=
  result.map fun (a, db) => (wrap a, db)

theorem reply_ok {α : Type} {wrap : α → Reply} {result : Except SqlError (α × Db)} {r : Reply} {db' : Db}
    (h : reply wrap result = .ok (r, db')) : ∃ a, result = .ok (a, db') ∧ r = wrap a := by
  rcases result with e | ⟨a, db₁⟩
  · cases h
  · cases h
    exact ⟨a, rfl, rfl⟩

def Call.exec (call : Call) (db : Db) : Except SqlError (Reply × Db) :=
  match call with
  | .enqueueV0 a now => reply .event ((enqueueOutboxV0 a now).run db)
  | .enqueueV1 a now => reply .event ((enqueueOutboxV1 a now).run db)
  | .publish .v0 now eventId => reply .handoff ((publishRealtimeHandoffV0 now eventId).run db)
  | .publish .v1 now eventId => reply .handoff ((publishRealtimeHandoffV1 now eventId).run db)
  | .requestV0 a clock => reply .event ((requestProbeV0 a clock).run db)
  | .requestV1 a clock => reply .receipt ((requestProbeV1 a clock).run db)
  | .claim .v0 c => reply .claimed (claimOutboxV0 c db)
  | .claim .v1 c => reply .claimed (claimOutboxV1 c db)
  | .ack .v0 now h => reply .status (.ok (ackOutboxV0 now h.eventId h.token h.consumer db))
  | .ack .v1 now h => reply .status (.ok (ackOutboxV1 now h.eventId h.token h.consumer db))
  | .fail .v0 now h code retryAt => reply .status (failOutboxV0 now h.eventId h.token h.consumer code retryAt db)
  | .fail .v1 now h code retryAt => reply .status (failOutboxV1 now h.eventId h.token h.consumer code retryAt db)
  | .apply .v0 now h => reply .status (applyProbeEffectAndAckV0 now h.eventId h.token h.consumer db)
  | .apply .v1 now h => reply .status (applyProbeEffectAndAckV1 now h.eventId h.token h.consumer db)
  | .pruneHandoff recordedBefore batch skipped =>
    reply .pruned (pruneRealtimeHandoffV1 recordedBefore batch skipped db)

/-- The database after a call, whether it returns or raises. -/
def Call.step (db : Db) (call : Call) : Db :=
  match call.exec db with
  | .ok (_, db') => db'
  | .error _ => db

/-- The database after a run. -/
def runCalls (calls : List Call) : Db := calls.foldl Call.step .migrated

@[simp] theorem runCalls_nil : runCalls [] = .migrated := rfl

theorem runCalls_append (calls : List Call) (call : Call) :
    runCalls (calls ++ [call]) = Call.step (runCalls calls) call := by
  simp [runCalls, List.foldl_append]

/-- What holds after the migrations and is kept by every call holds after every run. -/
theorem runCalls_invariant {P : Db → Prop} {calls : List Call} (start : P .migrated)
    (keeps : ∀ db, P db → ∀ call ∈ calls, P (Call.step db call)) : P (runCalls calls) :=
  List.foldlRecOn calls Call.step start keeps

/-! ## Sample calls, for concrete runs -/

/-- The identifier whose bytes are all `n`. -/
def sampleUuid (n : Fin 256) : Uuid := ⟨List.replicate 16 n, by simp⟩

/-- Enqueue event `n` at time 0. -/
def sampleEnqueue (n : Fin 256) (maxAttempts : Int) : Call :=
  .enqueueV0
    { eventId := some (sampleUuid n), schemaVersion := some 0, eventType := some "sample.event", eventVersion := some 0,
      occurredAt := some 0, producer := some "liqi-sample", correlationId := none, causationId := none,
      aggregateKey := some "sample", orderingKey := some "sample", payload := some .empty, metadata := none,
      maxAttempts := some maxAttempts } 0

/-- Enqueue event `n` of the key for realtime and publish it, at time 0. -/
def samplePublish (n : Fin 256) (key : String) : List Call :=
  [.enqueueV1
    { eventId := some (sampleUuid n), eventType := some "sample.event", eventVersion := some 1, occurredAt := some 0,
      producer := some "liqi-sample", correlationId := none, causationId := none, aggregateKey := some key,
      orderingKey := some key, traceContext := none, deadlineAt := none, priority := some "realtime",
      payload := some .empty, metadata := some (Jsonb.buildObject [("realtime", .bool true)]), maxAttempts := some 3 } 0,
   .publish .v1 0 (some (sampleUuid n))]

/-- Claim up to `batch` events for five seconds, under the token whose bytes are all `n`. -/
def sampleClaim (n : Fin 256) (batch : Int) (clock : ClaimClock) : Claim where
  consumerId := some "worker"
  batchSize := some batch
  leaseSeconds := some 5
  clock := clock
  token := fun _ => sampleUuid n
  skipped := fun _ => false

end Liqi.Database
