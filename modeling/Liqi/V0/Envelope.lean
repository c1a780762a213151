import Liqi.Database.Schema
import Liqi.Rust.Primitives

/-!
# Event envelopes of the V0 services

The Rust services read a database row into an `EventEnvelope` and check it against the bounds of the V0
protocol: a row whose columns the tables accept may still be refused here.
-/

namespace Liqi.V0

open Postgres Liqi.Database

inductive ApplicationError where
  | invalidRequest
  | bodyTooLarge
  | unauthorized
  | protocolUnsupported
  | deadlineExceeded
  | cancelled
  | notReady
  | dependencyUnavailable
  | conflict
  | internal
  deriving DecidableEq

inductive PersistenceError where
  | notReady
  | timeout
  | conflict
  | invalidOperation
  | internal
  deriving DecidableEq

/-- `From<PersistenceError>`. -/
def PersistenceError.toApplication : PersistenceError → ApplicationError
  | .notReady => .notReady
  | .timeout => .deadlineExceeded
  | .conflict => .conflict
  | .invalidOperation => .internal
  | .internal => .dependencyUnavailable

/-- `map_sqlx` for an error that the database raised. -/
def mapSqlx (error : SqlError) : PersistenceError :=
  match error.state with
  | .uniqueViolation => .conflict
  | .invalidParameterValue => .invalidOperation
  | _ => .internal

def platformProbeEvent : String := "platform.probe.requested.v0"

def platformProbeProducer : String := "liqi-api"

structure EventEnvelope where
  eventId : Uuid
  eventType : String
  eventVersion : Nat
  occurredAt : Timestamp
  producer : String
  correlationId : Option Uuid
  causationId : Option Uuid
  aggregateKey : String
  orderingKey : Option String
  payload : Jsonb
  metadata : List (String × Jsonb)
  deriving DecidableEq

inductive EventEnvelopeError where
  | invalidEventType
  | eventVersionMismatch (eventTypeVersion envelopeVersion : Nat)
  | invalidProducer
  | invalidAggregateKey
  | invalidOrderingKey
  | tooManyMetadataEntries
  | invalidMetadataKey
  | invalidMetadataValue
  | metadataTooLarge (actual maximum : Nat)
  | payloadMustBeObject
  deriving DecidableEq

def validEventSegment (value : List Char) : Bool :=
  value != [] && value.all (fun c => c.isLower || c.isDigit) && value.head?.any Char.isLower

/-- The number after the last `.v` of a dotted name. -/
def eventTypeVersion (value : String) : Option Nat :=
  if 160 < value.utf8ByteSize then none
  else match Rust.rsplitOnce ".v".toList value.toList with
    | none => none
    | some (name, version) => match name.splitOn '.' with
      | [] => none
      | first :: remaining =>
        if !validEventSegment first then none
        else if remaining = [] ∨ remaining.any (fun segment => !validEventSegment segment) = true then none
        else (Rust.parseU32 (String.ofList version)).map Int.toNat

def validProducer (value : String) : Bool :=
  "liqi-".toList.isPrefixOf value.toList &&
    (let name := value.toList.drop 5
     2 ≤ (String.ofList name).utf8ByteSize && (String.ofList name).utf8ByteSize ≤ 48
      && name.all fun c => c.isLower || c.isDigit || c == '-')

def validMetadataKey (value : String) : Bool :=
  if value = "" ∨ 64 < value.utf8ByteSize then false
  else match value.toList with
    | [] => false
    | c :: cs => c.isLower && cs.all fun c => c.isLower || c.isDigit || c == '_' || c == '.' || c == '-'

/-- A metadata value is a scalar, a text of at most 256 characters. -/
def validMetadataValue : Jsonb → Bool
  | .string text => text.toList.length ≤ 256
  | .array _ => false
  | .object _ => false
  | _ => true

/-- `serde_json::to_vec` of metadata whose values are scalars. -/
def metadataText (metadata : List (String × Jsonb)) : String :=
  "\x7b" ++ ",".intercalate (metadata.map fun entry => Jsonb.escape entry.1 ++ ":" ++ entry.2.text) ++ "\x7d"

/-- The first entry that `validate` refuses. -/
def metadataError : List (String × Jsonb) → Option EventEnvelopeError
  | [] => none
  | (key, value) :: rest =>
    if !validMetadataKey key then some .invalidMetadataKey
    else if !validMetadataValue value then some .invalidMetadataValue
    else metadataError rest

def EventEnvelope.validate (envelope : EventEnvelope) (metadataMaxBytes : Nat) : Except EventEnvelopeError Unit :=
  match eventTypeVersion envelope.eventType with
  | none => .error .invalidEventType
  | some version =>
    if version ≠ envelope.eventVersion then .error (.eventVersionMismatch version envelope.eventVersion)
    else if !validProducer envelope.producer then .error .invalidProducer
    else if envelope.aggregateKey = "" ∨ 160 < envelope.aggregateKey.utf8ByteSize then .error .invalidAggregateKey
    else if envelope.orderingKey.any (fun key => key == "" || decide (128 < key.utf8ByteSize)) then
      .error .invalidOrderingKey
    else if 16 < envelope.metadata.length then .error .tooManyMetadataEntries
    else match metadataError envelope.metadata with
      | some e => .error e
      | none =>
        if metadataMaxBytes < (metadataText envelope.metadata).utf8ByteSize then
          .error (.metadataTooLarge (metadataText envelope.metadata).utf8ByteSize metadataMaxBytes)
        else if !envelope.payload.isObject then .error .payloadMustBeObject
        else .ok ()

/-- The envelope that `map_event_row` builds before it is checked. -/
def rowEnvelope (eventId : Uuid) (row : EventContent) (metadata : List (String × Jsonb)) : EventEnvelope where
  eventId
  eventType := row.eventType
  eventVersion := row.eventVersion.toNat
  occurredAt := row.occurredAt
  producer := row.producer
  correlationId := row.correlationId
  causationId := row.causationId
  aggregateKey := row.aggregateKey
  orderingKey := some row.orderingKey
  payload := row.payload
  metadata

/-- `map_event_row`, for the columns of an outbox row or of a handoff row. -/
def mapEventRow (eventId : Uuid) (row : EventContent) : Except PersistenceError EventEnvelope :=
  if row.schemaVersion ≠ 0 then .error .invalidOperation
  else if row.eventType ≠ platformProbeEvent then .error .invalidOperation
  else if row.producer ≠ platformProbeProducer then .error .invalidOperation
  else match row.metadata with
    | .object metadata =>
      if row.eventVersion < 0 then .error .invalidOperation
      else match (rowEnvelope eventId row metadata).validate 4096 with
        | .ok () => .ok (rowEnvelope eventId row metadata)
        | .error _ => .error .invalidOperation
    | _ => .error .invalidOperation

theorem eventTypeVersion_of_valid {envelope : EventEnvelope} {most : Nat} (valid : envelope.validate most = .ok ()) :
    eventTypeVersion envelope.eventType = some envelope.eventVersion := by
  unfold EventEnvelope.validate at valid
  rcases typed : eventTypeVersion envelope.eventType with _ | version
  · rw [typed] at valid
    cases valid
  · rw [typed] at valid
    dsimp only at valid
    split_ifs at valid with other
    all_goals rw [not_not.1 other]

/-- The event that `map_event_row` accepts is the V0 probe event, with the columns of the row. -/
theorem mapEventRow_ok {eventId : Uuid} {row : EventContent} {envelope : EventEnvelope}
    (mapped : mapEventRow eventId row = .ok envelope) :
    row.eventType = platformProbeEvent ∧ row.eventVersion = 0 ∧ ∃ metadata, envelope = rowEnvelope eventId row metadata := by
  unfold mapEventRow at mapped
  by_cases schema : row.schemaVersion ≠ 0
  · rw [if_pos schema] at mapped
    cases mapped
  by_cases type : row.eventType ≠ platformProbeEvent
  · rw [if_neg schema, if_pos type] at mapped
    cases mapped
  rw [if_neg schema, if_neg type] at mapped
  split at mapped
  · cases mapped
  split at mapped
  · split at mapped
    · cases mapped
    next positive =>
      split at mapped
      next valid =>
        cases mapped
        refine ⟨not_not.1 type, ?_, _, rfl⟩
        have version : eventTypeVersion row.eventType = some row.eventVersion.toNat := eventTypeVersion_of_valid valid
        have zero : eventTypeVersion platformProbeEvent = some 0 := by decide
        rw [not_not.1 type, zero, Option.some.injEq] at version
        omega
      next => cases mapped
  · cases mapped

end Liqi.V0
