import Liqi.Database.CommandAnswers
import Liqi.Persistence.Fake
import Liqi.Runtime.IdText

/-!
# The arguments of a command

What the runtime adapter passes to `request_probe_v1` for a command of `ProbeCommand.new` whose identifiers are
canonical and that is not late: the checks of the function and of its tables accept it (`Request.Passes`).
-/

namespace Liqi.Persistence

open Postgres Liqi.Database Liqi.Runtime Liqi.Realtime Liqi.Web

/-! ## The calls -/

/-- The lower-case text of a `uuid`. -/
def Canonical (text : String) : Prop := ∃ uuid : Uuid, text = uuid.text

/-- The event id that belongs to a key. -/
def eventOf (digests : Digests) (key : String) : Uuid :=
  digests.deterministicUuid "liqi-platform-probe-event-v1" (probeScope ++ "\x00" ++ key)

/-- A command of `ProbeCommand.new` that the columns of the database hold and that is not late. -/
structure Request.Given (digests : Digests) (request : Request) : Prop where
  made : ∃ envelope probeId key, ProbeCommand.new digests envelope probeId key = some request.command
  probeId : Canonical request.command.probeId
  messageId : Canonical request.command.envelope.messageId
  correlationId : Canonical request.command.envelope.correlationId
  causationId : Canonical request.command.envelope.causationId
  key : Jsonb.storableText request.command.idempotencyKey = true
  traceContext : request.command.envelope.traceContext.isObject = true ∧
    request.command.envelope.traceContext.octetLength ≤ 2048
  deadline : request.adapter.adapterNow < request.command.envelope.deadline * 1000 ∧
    request.adapter.occurredAt < request.command.envelope.deadline * 1000

def Call.Given (digests : Digests) : Call → Prop
  | .requestProbe request => request.Given digests
  | .observeProbe probeId eventId => Canonical probeId ∧ Canonical eventId
  | .readHandoff afterCursor batchSize => 0 ≤ afterCursor ∧ 1 ≤ batchSize ∧ batchSize ≤ 128

/-! ## The arguments of a command -/

theorem length_le_utf8Len (cs : List Char) : cs.length ≤ String.utf8Len cs := by
  induction cs with
  | nil => simp
  | cons c cs ih =>
    have size := Char.utf8Size_pos c
    simp only [List.length_cons, String.utf8Len_cons]
    omega

theorem lengthBetween_of_boundedString {high : Nat} {value : String} (bounded : boundedString high value = true) :
    lengthBetween 1 high value = true := by
  simp only [boundedString, Bool.and_eq_true, decide_eq_true_eq] at bounded
  have size : value.utf8ByteSize = String.utf8Len value.toList := by
    rw [← String.utf8ByteSize_ofList, String.ofList_toList]
  have chars := length_le_utf8Len value.toList
  have some_char : 1 ≤ value.toList.length := by
    rw [Nat.one_le_iff_ne_zero, Ne, List.length_eq_zero_iff]
    intro none
    rw [size, none] at bounded
    simp at bounded
  simp only [lengthBetween, Bool.and_eq_true, decide_eq_true_eq]
  omega

theorem storableText_text (uuid : Uuid) : Jsonb.storableText uuid.text = true := by
  have digit : ∀ n, Uuid.hexDigit n ≠ '\x00' := by decide
  simp only [Jsonb.storableText, Uuid.text, String.toList_ofList, Bool.not_eq_true', List.contains_eq_mem,
    decide_eq_false_iff_not]
  intro written
  rcases Uuid.mem_textFrom written with hyphen | ⟨n, same⟩
  · exact absurd hyphen (by decide)
  · exact digit n same.symm

/-- The identity of a request's command. -/
def Request.identity (request : Request) : CommandIdentity :=
  ⟨probeScope, request.command.idempotencyKey, request.command.requestFingerprint, 0⟩

/-- What a given request passes to `request_probe_v1`. -/
structure Request.Passes (digests : Digests) (request : Request) (probeId : Uuid) (a : RequestProbeV1) : Prop where
  named : request.command.probeId = probeId.text
  scope : request.command.idempotencyScope = probeScope
  probeId : a.probeId = some probeId
  eventId : a.eventId = some (eventOf digests request.command.idempotencyKey)
  occurredAt : a.occurredAt = some request.adapter.occurredAt
  identity : a.identity = .ok request.identity
  storable : Storable a
  answered : RuntimeAdapter.InUnixRange request.command.envelope.deadline →
    request.command.envelope.traceContext.storable = true →
    ∀ db, RuntimeAdapter.requestProbe digests request.adapter request.command db
      = RuntimeAdapter.answer ((requestProbeV1 a request.adapter.clock).run db)
  unbound : RuntimeAdapter.InUnixRange request.command.envelope.deadline →
    request.command.envelope.traceContext.storable = false →
    ∀ db, RuntimeAdapter.requestProbe digests request.adapter request.command db
      = .error (.failed (.persistence .databaseError))

section Passes

variable {digests : Digests} {request : Request}

theorem new_eq_some {envelope : Runtime.Envelope} {probeId key : String} {command : ProbeCommand}
    (made : ProbeCommand.new digests envelope probeId key = some command) :
    boundedString 128 command.idempotencyKey = true ∧ command.idempotencyScope = probeScope ∧
      command.expectedVersion = 0 ∧
      command.requestFingerprint
        = digests.fingerprint command.probeId envelope.payloadType envelope.payloadVersion := by
  unfold ProbeCommand.new at made
  split at made
  next valid =>
    cases made
    simp only [Bool.and_eq_true] at valid
    exact ⟨valid.2, rfl, rfl, rfl⟩
  next => cases made

/-- The metadata of a command fits its column. -/
theorem octetLength_commandMetadata (messageId : Uuid) :
    (Jsonb.concat (.object [("commandMessageId", .string messageId.text)])
      (Jsonb.buildObject [("realtime", .bool true)])).octetLength ≤ 4096 := by
  have members : Jsonb.concat (.object [("commandMessageId", .string messageId.text)])
      (Jsonb.buildObject [("realtime", .bool true)])
      = .object [("realtime", .bool true), ("commandMessageId", .string messageId.text)] := by
    have order : Jsonb.keyBefore "realtime" "commandMessageId" = true := by decide
    simp [Jsonb.concat, Jsonb.buildObject, Jsonb.setMember, order]
  have names : (Jsonb.escape "realtime").utf8ByteSize = 10 ∧ (Jsonb.escape "commandMessageId").utf8ByteSize = 18 := by
    decide
  have flag : (Jsonb.bool true).octetLength = 4 := by decide
  have id := Jsonb.octetLength_string_le messageId.text
  have bound := messageId.length_text_le
  rw [members, Jsonb.octetLength_pair, names.1, names.2, flag]
  omega

theorem storableText_of_hex {text : String} (hex : matchesAll isLowerHex 64 64 text = true) :
    Jsonb.storableText text = true := by
  simp only [matchesAll, Bool.and_eq_true, List.all_eq_true] at hex
  simp only [Jsonb.storableText, Bool.not_eq_true', List.contains_eq_mem, decide_eq_false_iff_not]
  intro nul
  exact absurd (hex.2 _ nul) (by decide)

theorem storable_commandMetadata (messageId : Uuid) :
    (Jsonb.buildObject [("commandMessageId", .string messageId.text)]).storable = true := by
  have name : Jsonb.storableText "commandMessageId" = true := by decide
  simp [Jsonb.buildObject, Jsonb.setMember, Jsonb.storable, Jsonb.membersStorable, name, storableText_text]

theorem eventId_text (scope : request.command.idempotencyScope = probeScope) :
    request.command.eventId digests = (eventOf digests request.command.idempotencyKey).text := by
  unfold ProbeCommand.eventId eventOf
  rw [scope]

theorem Request.Passes.outcome {probeId : Uuid} {a : RequestProbeV1} (passes : request.Passes digests probeId a) :
    Fake.outcome digests request.command
      = ⟨some probeId.text, (eventOf digests request.command.idempotencyKey).text, 1, "accepted"⟩ := by
  rw [Fake.outcome, passes.named, eventId_text passes.scope]

/-- What the adapter makes of a given request. -/
theorem Request.Given.passes
    (hex : ∀ probeId type version, matchesAll isLowerHex 64 64 (digests.fingerprint probeId type version) = true)
    (given : request.Given digests) : ∃ probeId a, request.Passes digests probeId a := by
  obtain ⟨envelope, _, _, made⟩ := given.made
  obtain ⟨bounded, scope, expected, fingerprint⟩ := new_eq_some made
  obtain ⟨probeId, probe⟩ := given.probeId
  obtain ⟨messageId, message⟩ := given.messageId
  obtain ⟨correlationId, correlation⟩ := given.correlationId
  obtain ⟨causationId, causation⟩ := given.causationId
  obtain ⟨object, short⟩ := given.traceContext
  obtain ⟨early, due⟩ := given.deadline
  have lowerHex : matchesAll isLowerHex 64 64 request.command.requestFingerprint = true := by
    rw [fingerprint]
    exact hex _ _ _
  have event := @eventId_text digests request scope
  let params : ProbeParams :=
    { probeId := probeId.text
      eventId := (eventOf digests request.command.idempotencyKey).text
      scope := probeScope
      idempotencyKey := request.command.idempotencyKey
      requestFingerprint := request.command.requestFingerprint
      expectedVersion := 0
      occurredAt := request.adapter.occurredAt
      correlationId := correlationId.text
      causationId := causationId.text
      traceContext := request.command.envelope.traceContext
      deadlineAt := request.command.envelope.deadline * 1000
      metadata := Jsonb.buildObject [("commandMessageId", .string messageId.text)] }
  let arguments : RequestProbeV1 :=
    { probeId := some probeId
      eventId := some (eventOf digests request.command.idempotencyKey)
      scope := some probeScope
      idempotencyKey := some request.command.idempotencyKey
      requestFingerprint := some request.command.requestFingerprint
      expectedVersion := some 0
      occurredAt := some request.adapter.occurredAt
      correlationId := some correlationId
      causationId := some causationId
      traceContext := some request.command.envelope.traceContext
      deadlineAt := some (request.command.envelope.deadline * 1000)
      metadata := some (Jsonb.buildObject [("commandMessageId", .string messageId.text)]) }
  have passed : probeParams digests request.command request.adapter.occurredAt
      (request.command.envelope.deadline * 1000) = .ok params := by
    simp [probeParams, probe, event, correlation, causation, lowerHex, params, scope, expected, message]
  have cast : params.arguments = .ok arguments := by
    simp only [ProbeParams.arguments, params, castUuid_text]
    rfl
  have open_ : RuntimeAdapter.bindable params = request.command.envelope.traceContext.storable := by
    have scopeText : Jsonb.storableText probeScope = true := by decide
    simp [RuntimeAdapter.bindable, params, scopeText, given.key, storableText_of_hex lowerHex,
      storable_commandMetadata]
  have unfolded : RuntimeAdapter.InUnixRange request.command.envelope.deadline → ∀ db,
      RuntimeAdapter.requestProbe digests request.adapter request.command db =
        if RuntimeAdapter.bindable params then RuntimeAdapter.answer (params.query request.adapter.clock db)
        else .error (.failed (.persistence .databaseError)) := by
    intro range db
    unfold RuntimeAdapter.requestProbe
    rw [if_pos range, deadlineAt, if_pos early]
    show (probeParams digests request.command request.adapter.occurredAt _ |>.mapError _) >>= _ = _
    rw [passed]
    rfl
  refine ⟨probeId, arguments, probe, scope, rfl, rfl, rfl, ?_, ?_, ?_, ?_⟩
  · have validScoped : validScope probeScope = true := by decide
    simp [RequestProbeV1.identity, arguments, Option.filter, validScoped, lengthBetween_of_boundedString bounded,
      lowerHex, Request.identity]
  · refine ⟨⟨_, rfl, octetLength_commandMetadata messageId⟩, ⟨_, rfl, object, short⟩, ⟨_, rfl, ?_⟩⟩
    intro deadline same
    cases same
    exact due.le
  · intro range storable db
    rw [unfolded range db, open_, if_pos storable]
    unfold ProbeParams.query
    rw [cast]
    rfl
  · intro range unstorable db
    rw [unfolded range db, open_, unstorable]
    rfl

end Passes

end Liqi.Persistence
