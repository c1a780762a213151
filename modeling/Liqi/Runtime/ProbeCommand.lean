import Liqi.Database.Schema
import Liqi.Runtime.Id

/-!
# Probe commands

`Liqi.Runtime.Envelope` and `Liqi.Persistence.ProbeCommand`, the values that a request for a probe passes
through on its way to the database. The two hashes of a command are `Digests`.
-/

namespace Liqi.Runtime

open Postgres Liqi.Database

/-- The fields of `Liqi.Runtime.Envelope`. -/
structure Envelope where
  protocolVersion : String := "1"
  messageId : String
  correlationId : String
  causationId : String
  traceContext : Jsonb
  deadline : Int
  actorKey : String
  priority : Priority
  payloadType : String
  payloadVersion : Int
  payload : Jsonb

inductive EnvelopeError where
  | unsupportedProtocolVersion
  | invalidMessageId
  | invalidCorrelationId
  | invalidCausationId
  | invalidActorKey
  | invalidPayloadType
  | invalidPayloadVersion
  | invalidPayload
  | invalidTraceContext
  deriving DecidableEq

/-- `bounded_string?`, and the check of an idempotency key. -/
def boundedString (high : Nat) (value : String) : Bool := 1 ≤ value.utf8ByteSize && value.utf8ByteSize ≤ high

namespace Envelope

/-- The checks of `validate`, each with its error, in their order. -/
def checks (envelope : Envelope) : List (Bool × EnvelopeError) :=
  [(envelope.protocolVersion = "1", .unsupportedProtocolVersion),
   (validUuid envelope.messageId, .invalidMessageId),
   (validUuid envelope.correlationId, .invalidCorrelationId),
   (validUuid envelope.causationId, .invalidCausationId),
   (boundedString 160 envelope.actorKey, .invalidActorKey),
   (boundedString 160 envelope.payloadType, .invalidPayloadType),
   (1 ≤ envelope.payloadVersion && envelope.payloadVersion ≤ 2147483647, .invalidPayloadVersion),
   (envelope.payload.isObject, .invalidPayload),
   (envelope.traceContext.isObject, .invalidTraceContext)]

def validate (envelope : Envelope) : Except EnvelopeError Envelope :=
  match envelope.checks.find? fun check => !check.1 with
  | some (_, error) => .error error
  | none => .ok envelope

/-- `expired?`. -/
def expired (envelope : Envelope) (nowMs : Int) : Bool := envelope.deadline ≤ nowMs

end Envelope

/-- The hashes. `fingerprint` is the lower-case SHA-256 of the JSON text of a probe id, a payload type and a payload
version; `deterministicUuid` is cut from the SHA-256 of a namespace and a value. -/
structure Digests where
  fingerprint : String → String → Int → String
  deterministicUuid : String → String → Uuid

structure ProbeCommand where
  envelope : Envelope
  probeId : String
  idempotencyScope : String
  idempotencyKey : String
  requestFingerprint : String
  expectedVersion : Int

/-- The scope of the keys of all commands. -/
def probeScope : String := "platform.probe.create.v1"

/-- `ProbeCommand.new`; none is `:validation_failed`. -/
def ProbeCommand.new (digests : Digests) (envelope : Envelope) (probeId idempotencyKey : String) : Option ProbeCommand :=
  if validUuid probeId && boundedString 128 idempotencyKey then
    some
      { envelope := envelope
        probeId := probeId
        idempotencyScope := probeScope
        idempotencyKey := idempotencyKey
        requestFingerprint := digests.fingerprint probeId envelope.payloadType envelope.payloadVersion
        expectedVersion := 0 }
  else none

/-- `ProbeCommand.event_id`. -/
def ProbeCommand.eventId (digests : Digests) (command : ProbeCommand) : String :=
  (digests.deterministicUuid "liqi-platform-probe-event-v1"
    (command.idempotencyScope ++ "\x00" ++ command.idempotencyKey)).text

end Liqi.Runtime
