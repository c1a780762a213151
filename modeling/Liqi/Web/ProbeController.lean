import Liqi.Beam.Json
import Liqi.Database.Probe
import Liqi.Realtime.Resume
import Liqi.Runtime.ProbeCommand

/-!
# The probe controller

`ProbeController.create` checks a request, wraps it in an envelope and hands it to the actor of its probe, which
runs it through the persistence adapter. The answer to an accepted request names the key under which the client
is to subscribe.
-/

namespace Liqi.Web

open Beam Postgres Liqi.Database Liqi.Runtime Liqi.Realtime

/-- Why a request is not accepted. -/
inductive ProbeFailure where
  | unauthorized
  | validationFailed
  | envelope (error : EnvelopeError)
  | deadlineExceeded
  | invalidRequestFingerprint
  | persistence (code : PersistenceCode)
  | startChild
  | call (error : CallError)
  deriving DecidableEq

/-- How the adapter fails: with a reason, or by an exception in the actor. -/
inductive AdapterError where
  | failed (failure : ProbeFailure)
  | raised
  deriving DecidableEq

/-! ## The adapter -/

/-- The parameters of the query, identifiers as text. -/
structure ProbeParams where
  probeId : String
  eventId : String
  scope : String
  idempotencyKey : String
  requestFingerprint : String
  expectedVersion : Int
  occurredAt : Timestamp
  correlationId : String
  causationId : String
  traceContext : Jsonb
  deadlineAt : Timestamp
  metadata : Jsonb

/-- The clocks that a request reads after its envelope was made. -/
structure AdapterReadings where
  executeMs : Int
  adapterNow : Timestamp
  occurredAt : Timestamp
  clock : RequestClock

/-- `deadline_at`; an envelope counts in milliseconds. -/
def deadlineAt (envelope : Runtime.Envelope) (now : Timestamp) : Except ProbeFailure Timestamp :=
  if now < envelope.deadline * 1000 then .ok (envelope.deadline * 1000) else .error .deadlineExceeded

/-- `probe_params`. The `:error` of a failed cast has no clause in the `with` of the adapter. -/
def probeParams (digests : Digests) (command : ProbeCommand) (occurredAt deadline : Timestamp) :
    Except AdapterError ProbeParams :=
  match ectoUuidCast command.probeId, ectoUuidCast (command.eventId digests),
      ectoUuidCast command.envelope.correlationId, ectoUuidCast command.envelope.causationId with
  | some probeId, some eventId, some correlationId, some causationId =>
    if matchesAll isLowerHex 64 64 command.requestFingerprint then
      .ok
        { probeId := probeId
          eventId := eventId
          scope := command.idempotencyScope
          idempotencyKey := command.idempotencyKey
          requestFingerprint := command.requestFingerprint
          expectedVersion := command.expectedVersion
          occurredAt := occurredAt
          correlationId := correlationId
          causationId := causationId
          traceContext := command.envelope.traceContext
          deadlineAt := deadline
          metadata := Jsonb.buildObject [("commandMessageId", .string command.envelope.messageId)] }
    else .error (.failed .invalidRequestFingerprint)
  | _, _, _, _ => .error .raised

/-- The arguments of `request_probe_v1` after their casts. -/
def ProbeParams.arguments (params : ProbeParams) : Except SqlError RequestProbeV1 := do
  let probeId ← castUuid (some params.probeId)
  let eventId ← castUuid (some params.eventId)
  let correlationId ← castUuid (some params.correlationId)
  let causationId ← castUuid (some params.causationId)
  return {
    probeId := probeId
    eventId := eventId
    scope := some params.scope
    idempotencyKey := some params.idempotencyKey
    requestFingerprint := some params.requestFingerprint
    expectedVersion := some params.expectedVersion
    occurredAt := some params.occurredAt
    correlationId := correlationId
    causationId := causationId
    traceContext := some params.traceContext
    deadlineAt := some params.deadlineAt
    metadata := some params.metadata }

/-- The query of `Transaction.request_probe`. -/
def ProbeParams.query (params : ProbeParams) (clock : RequestClock) (db : Db) : Except SqlError (ProbeReceipt × Db) := do
  let arguments ← params.arguments
  (requestProbeV1 arguments clock).run db

/-- `RuntimeAdapter.request_probe`. -/
def requestProbe (digests : Digests) (readings : AdapterReadings) (command : ProbeCommand) (db : Db) :
    Except AdapterError (ProbeReceipt × Db) := do
  let deadline ← (deadlineAt command.envelope readings.adapterNow).mapError .failed
  let params ← probeParams digests command readings.occurredAt deadline
  (params.query readings.clock db).mapError fun failure => .failed (.persistence (.ofSqlState failure.state))

/-- `PlatformProbe.execute`. -/
def executeProbe (digests : Digests) (readings : AdapterReadings) (envelope : Runtime.Envelope)
    (probeId idempotencyKey : String) (db : Db) : Except AdapterError (ProbeReceipt × Db) :=
  if envelope.expired readings.executeMs then .error (.failed .deadlineExceeded)
  else match ProbeCommand.new digests envelope probeId idempotencyKey with
    | none => .error (.failed .validationFailed)
    | some command => requestProbe digests readings command db

/-! ## The controller -/

/-- A request as the controller sees it; `deadlineMs` is the parsed header, none for a text that is no integer. -/
structure CreateRequest where
  authorized : Bool
  params : Json
  idempotencyKey : Option String
  requestId : Option String
  deadlineMs : Option (Option Int)
  traceparent : Option String

/-- What the controller and the actor of the probe find outside: a fresh id, the configured timeout, whether the actor
runs, and what becomes of the call. -/
structure CreateReadings extends AdapterReadings where
  freshId : Uuid
  requestTimeoutMs : Int
  envelopeMs : Int
  started : Bool
  fate : Fate

structure ProbeAccepted where
  requestId : String
  probeId : Option String
  eventId : String
  aggregateVersion : Nat
  status : String
  actorKey : String
  deriving DecidableEq

inductive CreateReply where
  | accepted (body : ProbeAccepted)
  | rejected (status : Nat) (code : String) (retryable : Bool)
  deriving DecidableEq

def requestId (readings : CreateReadings) (request : CreateRequest) : String :=
  (request.requestId.filter validUuid).getD readings.freshId.text

def requestTimeout (readings : CreateReadings) (request : CreateRequest) : Int :=
  match request.deadlineMs with
  | none => readings.requestTimeoutMs
  | some value => min (max (value.getD readings.requestTimeoutMs) 1) readings.requestTimeoutMs

def traceContext (request : CreateRequest) : Jsonb :=
  match request.traceparent.filter fun value => value.utf8ByteSize ≤ 128 with
  | some value => Jsonb.buildObject [("traceparent", .string value)]
  | none => .empty

/-- `"platform-probe:#\x7bprobe_id\x7d"`. -/
def actorKey (probeId : String) : String := "platform-probe:" ++ probeId

def requestEnvelope (readings : CreateReadings) (request : CreateRequest) (probeId : String) : Runtime.Envelope where
  messageId := requestId readings request
  correlationId := requestId readings request
  causationId := requestId readings request
  traceContext := traceContext request
  deadline := readings.envelopeMs + requestTimeout readings request
  actorKey := actorKey probeId
  priority := .durable
  payloadType := "platform.probe.requested"
  payloadVersion := 1
  payload := Jsonb.buildObject [("clientProbeId", .string probeId)]

/-- `PlatformProbeActor.execute`: the result that the controller gets, and the database. -/
def executeOnActor (digests : Digests) (readings : CreateReadings) (envelope : Runtime.Envelope)
    (probeId idempotencyKey : String) (db : Db) : Except ProbeFailure ProbeReceipt × Db :=
  if readings.started then
    match readings.fate with
    | .refused => (.error (.call .overloaded), db)
    | .answered =>
      match executeProbe digests readings.toAdapterReadings envelope probeId idempotencyKey db with
      | .ok (receipt, db') => (.ok receipt, db')
      | .error (.failed failure) => (.error failure, db)
      | .error .raised => (.error (.call .unavailable), db)
    | .late =>
      match executeProbe digests readings.toAdapterReadings envelope probeId idempotencyKey db with
      | .ok (_, db') => (.error (.call .deadlineExceeded), db')
      | .error _ => (.error (.call .deadlineExceeded), db)
  else (.error .startChild, db)

/-- The clauses of `else`. -/
def rejection : ProbeFailure → CreateReply
  | .unauthorized => .rejected 401 "auth.unauthorized" false
  | .validationFailed => .rejected 400 "validation.failed" false
  | .deadlineExceeded => .rejected 504 "deadline.exceeded" true
  | .call .deadlineExceeded => .rejected 504 "deadline.exceeded" true
  | .persistence .idempotencyConflict => .rejected 409 "idempotency.conflict" false
  | .persistence .staleAggregateVersion => .rejected 409 "aggregate.version_conflict" false
  | _ => .rejected 503 "runtime.unavailable" true

def acceptance (requestId probeId : String) (receipt : ProbeReceipt) : ProbeAccepted where
  requestId := requestId
  probeId := receipt.probeId.map Uuid.text
  eventId := receipt.eventId.text
  aggregateVersion := receipt.aggregateVersion
  status := receipt.status
  actorKey := actorKey probeId

/-- `create`. -/
def create (digests : Digests) (readings : CreateReadings) (request : CreateRequest) (db : Db) : CreateReply × Db :=
  if !request.authorized then (rejection .unauthorized, db)
  else match (request.params.fetch "clientProbeId").bind Json.string?, request.idempotencyKey with
    | some probeId, some idempotencyKey =>
      if validUuid probeId && boundedString 128 idempotencyKey then
        let envelope := requestEnvelope readings request probeId
        match envelope.validate with
        | .error error => (rejection (.envelope error), db)
        | .ok envelope =>
          match executeOnActor digests readings envelope probeId idempotencyKey db with
          | (.ok receipt, db') => (.accepted (acceptance (requestId readings request) probeId receipt), db')
          | (.error failure, db') => (rejection failure, db')
      else (rejection .validationFailed, db)
    | _, _ => (rejection .validationFailed, db)

end Liqi.Web
