import Liqi.Database.Retention
import Liqi.Web.ProbeController

/-!
# The runtime adapter

`LiqiPersistence.RuntimeAdapter` answers the calls of the runtime from the database: it turns a command into the
parameters of `request_probe_v1`, an observation into those of `observe_probe_v1` and a cursor into those of
`read_realtime_handoff_v1`, and gives back the columns that the runtime reads.
-/

namespace Liqi.Persistence

open Postgres Liqi.Database Liqi.Runtime Liqi.Realtime Liqi.Web

/-- Why a call has no result; `raised` is an exception in the caller. -/
inductive Failure where
  | failed (failure : ProbeFailure)
  | notFound
  | invalidUnixTime
  | unexpectedRowCount
  | raised
  deriving DecidableEq

/-- `{:error, code}` for an error of the database. -/
def Failure.ofSqlState (state : SqlState) : Failure := .failed (.persistence (.ofSqlState state))

def Failure.ofAdapterError : AdapterError → Failure
  | .failed failure => .failed failure
  | .raised => .raised

/-- The result of an accepted command. -/
structure Accepted where
  probeId : Option String
  eventId : String
  aggregateVersion : Nat
  status : String
  deriving DecidableEq

/-- The result of an observation. -/
structure Observed where
  probeId : String
  eventId : String
  probeStatus : String
  outboxState : String
  effectApplied : Bool
  terminal : Bool
  aggregateVersion : Nat
  deriving DecidableEq

/-- An event of the handoff log as a reader uses it. -/
structure HandoffRow where
  handoffId : Nat
  eventId : String
  eventType : String
  aggregateKey : String
  payload : Jsonb
  deriving DecidableEq

namespace RuntimeAdapter

/-- The milliseconds that `DateTime.from_unix` accepts: the years -9999 to 9999. -/
def InUnixRange (milliseconds : Int) : Prop := -377705116800000 ≤ milliseconds ∧ milliseconds ≤ 253402300799999

instance (milliseconds : Int) : Decidable (InUnixRange milliseconds) :=
  inferInstanceAs (Decidable (_ ∧ _))

/-- PostgreSQL takes a query's `text` and `jsonb` parameters. -/
def bindable (params : ProbeParams) : Bool :=
  Jsonb.storableText params.scope && Jsonb.storableText params.idempotencyKey
    && Jsonb.storableText params.requestFingerprint && params.traceContext.storable && params.metadata.storable

def accepted (receipt : ProbeReceipt) : Accepted where
  probeId := receipt.probeId.map Uuid.text
  eventId := receipt.eventId.text
  aggregateVersion := receipt.aggregateVersion
  status := receipt.status

/-- The result of the query. -/
def answer : Except SqlError (ProbeReceipt × Db) → Except Failure (Accepted × Db)
  | .ok (receipt, db) => .ok (accepted receipt, db)
  | .error failure => .error (.ofSqlState failure.state)

/-- `request_probe`: the deadline, the parameters, and the query if its parameters can be bound. The errors of a
parameter that cannot, `22021` and `22P05`, have no clause of their own in `Error.from_exception`. -/
def requestProbe (digests : Digests) (readings : AdapterReadings) (command : ProbeCommand) (db : Db) :
    Except Failure (Accepted × Db) :=
  if InUnixRange command.envelope.deadline then do
    let deadline ← (deadlineAt command.envelope readings.adapterNow).mapError .failed
    let params ← (probeParams digests command readings.occurredAt deadline).mapError .ofAdapterError
    if bindable params then answer (params.query readings.clock db)
    else .error (.failed (.persistence .databaseError))
  else .error .invalidUnixTime

def observed (row : ProbeObservation) : Observed where
  probeId := row.probeId.text
  eventId := row.eventId.text
  probeStatus := row.probeStatus
  outboxState := row.outboxState
  effectApplied := row.effectApplied
  terminal := row.terminal
  aggregateVersion := row.aggregateVersion

/-- The query of `Probe.observe`. -/
def observeQuery (probeId eventId : String) (db : Db) : Except SqlError (List ProbeObservation) := do
  let probeId ← castUuid (some probeId)
  let eventId ← castUuid (some eventId)
  observeProbeV1 probeId eventId db

/-- `observe_probe`, on the one row that `Query.one` gives. -/
def observeProbe (probeId eventId : String) (db : Db) : Except Failure Observed :=
  match observeQuery probeId eventId db with
  | .ok [row] => .ok (observed row)
  | .ok [] => .error .notFound
  | .ok _ => .error .unexpectedRowCount
  | .error failure => .error (.ofSqlState failure.state)

def handoffRow (row : HandoffEvent) : HandoffRow where
  handoffId := row.handoffId
  eventId := row.eventId.text
  eventType := row.envelope.content.eventType
  aggregateKey := row.envelope.content.aggregateKey
  payload := row.envelope.content.payload

/-- `read_handoff`. -/
def readHandoff (afterCursor batchSize : Int) (db : Db) : Except Failure (List HandoffRow) :=
  match Realtime.readHandoff db afterCursor batchSize with
  | .ok rows => .ok (rows.map handoffRow)
  | .error (.persistence code) => .error (.failed (.persistence code))
  | .error .raised => .error .raised

end RuntimeAdapter

end Liqi.Persistence
