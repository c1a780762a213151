import Liqi.Database.EventCopies
import Liqi.Realtime.RepairPage
import Liqi.Runtime.IdText
import Liqi.Web.ProbeController

/-!
# The key in the answer to a request

The controller answers with a key made from the text that the client sent, while the event of the probe has a key
made from the `uuid`, whose text is in lower case. Both are compared as texts where events are broadcast and where a
repair looks for the events of a session, so the two have to be the same text: `actor_key_delivers_iff`.
-/

namespace Liqi.Web

open Beam Postgres Liqi.Database Liqi.Runtime Liqi.Realtime

/-- A session that subscribed to the key is sent the row, by a broadcast and by a repair. -/
structure Delivers (actorKey : String) (row : HandoffEvent) : Prop where
  key : row.envelope.content.aggregateKey = actorKey
  broadcast : (Dispatcher.broadcast row).topic = topic actorKey
  repair : ∀ keys rows, actorKey ∈ keys → row ∈ rows → row ∈ relevantRows keys rows

theorem delivers_iff {actorKey : String} {row : HandoffEvent} :
    Delivers actorKey row ↔ row.envelope.content.aggregateKey = actorKey := by
  constructor
  · exact Delivers.key
  · rintro rfl
    exact ⟨rfl, rfl, fun keys rows subscribed read => List.mem_filter.2 ⟨read, decide_eq_true subscribed⟩⟩

/-- No letter of the text is in upper case. -/
def LowerCase (text : String) : Prop := ∀ c ∈ text.toList, c.toLower = c

theorem lowerCase_iff {text : String} : LowerCase text ↔ String.ofList (text.toList.map Char.toLower) = text := by
  constructor
  · intro lower
    rw [List.map_congr_left lower, List.map_id', String.ofList_toList]
  · intro same c member
    have chars : text.toList.map Char.toLower = text.toList.map id := by
      rw [List.map_id]
      conv_rhs => rw [← same, String.toList_ofList]
    exact List.map_eq_map_iff.1 chars c member

theorem append_inj (first : String) {probeId other : String} : first ++ probeId = first ++ other ↔ probeId = other := by
  constructor
  · intro same
    have chars := congrArg String.toList same
    rw [String.toList_append, String.toList_append, List.append_cancel_left_eq] at chars
    exact String.toList_inj.1 chars
  · exact congrArg (first ++ ·)

/-! ## A run -/

/-- The steps of a deployment: requests for probes, and everything else that reaches the database. -/
inductive ApiStep where
  | create (readings : CreateReadings) (request : CreateRequest)
  | other (step : RetentionStep)

def ApiStep.after (digests : Digests) (db : Db) : ApiStep → Db
  | .create readings request => (Web.create digests readings request db).2
  | .other step => step.after db

def runApi (digests : Digests) (steps : List ApiStep) : Db := steps.foldl (ApiStep.after digests) .migrated

/-- The step is a command in the scope of the controller's commands. -/
def InScope (step : RetentionStep) : Prop := ∃ a clock, step = .call (.requestV1 a clock) ∧ a.scope = some probeScope

/-- The fingerprint of a request for a probe. -/
def requestFingerprint (digests : Digests) (probeId : String) : String :=
  digests.fingerprint probeId "platform.probe.requested" 1

section Requests

variable {digests : Digests} {readings : CreateReadings} {request : CreateRequest} {db db' : Db}

/-- The command that a request becomes. -/
structure Becomes (digests : Digests) (request : CreateRequest) (probeId idempotencyKey : String) (uuid : Uuid)
    (a : RequestProbeV1) : Prop where
  asked : request.params.fetch "clientProbeId" = some (.string probeId)
  valid : validUuid probeId = true
  key : request.idempotencyKey = some idempotencyKey
  probe : a.probeId = some uuid
  text : uuid.text = String.ofList (probeId.toList.map Char.toLower)
  scope : a.scope = some probeScope
  idempotencyKey : a.idempotencyKey = some idempotencyKey
  fingerprint : a.requestFingerprint = some (requestFingerprint digests probeId)

variable {a : RequestProbeV1}

theorem arguments_ok {params : ProbeParams} (given : params.arguments = .ok a) :
    castUuid (some params.probeId) = .ok a.probeId ∧ a.scope = some params.scope
      ∧ a.idempotencyKey = some params.idempotencyKey ∧ a.requestFingerprint = some params.requestFingerprint := by
  obtain ⟨probeId, cast, given⟩ := bind_ok given
  obtain ⟨_, _, given⟩ := bind_ok given
  obtain ⟨_, _, given⟩ := bind_ok given
  obtain ⟨_, _, given⟩ := bind_ok given
  cases given
  exact ⟨cast, rfl, rfl, rfl⟩

theorem probeParams_ok {command : ProbeCommand} {occurredAt deadline : Timestamp} {params : ProbeParams}
    (given : probeParams digests command occurredAt deadline = .ok params) :
    ectoUuidCast command.probeId = some params.probeId ∧ params.scope = command.idempotencyScope
      ∧ params.idempotencyKey = command.idempotencyKey ∧ params.requestFingerprint = command.requestFingerprint := by
  unfold probeParams at given
  split at given
  next probeId _ _ _ cast _ _ _ =>
    split_ifs at given
    cases given
    exact ⟨cast, rfl, rfl, rfl⟩
  next => cases given

variable {receipt : ProbeReceipt}

/-- A command that the adapter runs. -/
theorem requestProbe_ok {readings : AdapterReadings} {command : ProbeCommand}
    (ran : requestProbe digests readings command db = .ok (receipt, db')) :
    ∃ a uuid, (requestProbeV1 a readings.clock).run db = .ok (receipt, db') ∧ a.probeId = some uuid
      ∧ uuid.text = String.ofList (command.probeId.toList.map Char.toLower) ∧ a.scope = some command.idempotencyScope
      ∧ a.idempotencyKey = some command.idempotencyKey ∧ a.requestFingerprint = some command.requestFingerprint := by
  obtain ⟨deadline, _, ran⟩ := bind_ok ran
  obtain ⟨params, given, ran⟩ := bind_ok ran
  obtain ⟨cast, scope, key, fingerprint⟩ := probeParams_ok given
  rcases queried : params.query readings.clock db with failure | result
  · rw [queried] at ran
    cases ran
  rw [queried] at ran
  cases ran
  obtain ⟨a, arguments, ran⟩ := bind_ok queried
  obtain ⟨probe, inScope, keyed, fingerprinted⟩ := arguments_ok arguments
  obtain ⟨lower, uuid, text⟩ := ectoUuidCast_eq_some cast
  rw [← text, castUuid_text] at probe
  refine ⟨a, uuid, ran, (Except.ok.inj probe).symm, text.trans lower, ?_, ?_, ?_⟩
  · rw [inScope, scope]
  · rw [keyed, key]
  · rw [fingerprinted, fingerprint]

variable {probeId idempotencyKey : String}

/-- A request that is executed. -/
theorem executeProbe_ok {readings : AdapterReadings} {envelope : Runtime.Envelope}
    (ran : executeProbe digests readings envelope probeId idempotencyKey db = .ok (receipt, db')) :
    ∃ a uuid, (requestProbeV1 a readings.clock).run db = .ok (receipt, db') ∧ a.probeId = some uuid
      ∧ uuid.text = String.ofList (probeId.toList.map Char.toLower) ∧ a.scope = some probeScope
      ∧ a.idempotencyKey = some idempotencyKey
      ∧ a.requestFingerprint = some (digests.fingerprint probeId envelope.payloadType envelope.payloadVersion) := by
  unfold executeProbe at ran
  split_ifs at ran
  unfold ProbeCommand.new at ran
  split_ifs at ran
  have asked := requestProbe_ok ran
  exact asked

/-- What the actor of a probe does with a request. -/
theorem executeOnActor_cases (digests : Digests) (readings : CreateReadings) (envelope : Runtime.Envelope)
    (probeId idempotencyKey : String) (db : Db) :
    ((executeOnActor digests readings envelope probeId idempotencyKey db).2 = db
        ∧ ∃ failure, (executeOnActor digests readings envelope probeId idempotencyKey db).1 = .error failure)
      ∨ ∃ receipt db', executeProbe digests readings.toAdapterReadings envelope probeId idempotencyKey db = .ok (receipt, db')
        ∧ (executeOnActor digests readings envelope probeId idempotencyKey db).2 = db'
        ∧ ∀ answer, (executeOnActor digests readings envelope probeId idempotencyKey db).1 = .ok answer → answer = receipt := by
  unfold executeOnActor
  split_ifs
  · cases readings.fate with
    | refused => exact .inl ⟨rfl, _, rfl⟩
    | answered =>
      rcases executeProbe digests readings.toAdapterReadings envelope probeId idempotencyKey db with
        (failure | _) | ⟨receipt, db'⟩
      · exact .inl ⟨rfl, _, rfl⟩
      · exact .inl ⟨rfl, _, rfl⟩
      · exact .inr ⟨receipt, db', rfl, rfl, fun _ same => (Except.ok.inj same).symm⟩
    | late =>
      rcases executeProbe digests readings.toAdapterReadings envelope probeId idempotencyKey db with
        failure | ⟨receipt, db'⟩
      · exact .inl ⟨rfl, _, rfl⟩
      · exact .inr ⟨receipt, db', rfl, rfl, nofun⟩
  · exact .inl ⟨rfl, _, rfl⟩

theorem rejection_ne (failure : ProbeFailure) (body : ProbeAccepted) : rejection failure ≠ .accepted body := by
  unfold rejection
  split <;> exact nofun

theorem validate_ok {envelope valid : Runtime.Envelope} (accepted : envelope.validate = .ok valid) : valid = envelope := by
  unfold Envelope.validate at accepted
  split at accepted
  · cases accepted
  · exact (Except.ok.inj accepted).symm

/-- **Requests.** A request leaves the database alone and is not accepted, or runs one command; it is accepted only
with the receipt of that command. -/
theorem create_cases (digests : Digests) (readings : CreateReadings) (request : CreateRequest) (db : Db) :
    ((create digests readings request db).2 = db ∧ ∀ body, (create digests readings request db).1 ≠ .accepted body)
      ∨ ∃ probeId idempotencyKey uuid a receipt, Becomes digests request probeId idempotencyKey uuid a
        ∧ (requestProbeV1 a readings.clock).run db = .ok (receipt, (create digests readings request db).2)
        ∧ ∀ body, (create digests readings request db).1 = .accepted body →
          body = acceptance (requestId readings request) probeId receipt := by
  have refused : ∀ failure, (rejection failure, db).2 = db ∧ ∀ body, (rejection failure, db).1 ≠ .accepted body :=
    fun failure => ⟨rfl, rejection_ne failure⟩
  unfold create
  split
  · exact .inl (refused .unauthorized)
  split
  next probeId idempotencyKey asked key =>
    split
    next valid =>
      dsimp only
      cases validated : (requestEnvelope readings request probeId).validate with
      | error error => exact .inl (refused (.envelope error))
      | ok envelope =>
        obtain rfl := validate_ok validated
        dsimp only
        rcases executeOnActor_cases digests readings (requestEnvelope readings request probeId) probeId idempotencyKey db with
          ⟨same, failure, failed⟩ | ⟨receipt, db', ran, after, answered⟩
        · rcases executed : executeOnActor digests readings (requestEnvelope readings request probeId) probeId
            idempotencyKey db with ⟨answer, last⟩
          rw [executed] at same failed
          cases same
          cases failed
          exact .inl (refused failure)
        · right
          obtain ⟨a, uuid, ran, probe, text, scope, keyed, fingerprint⟩ := executeProbe_ok ran
          rcases executed : executeOnActor digests readings (requestEnvelope readings request probeId) probeId
            idempotencyKey db with ⟨answer, last⟩
          rw [executed] at after answered
          cases after
          obtain ⟨text', found, string⟩ := Option.bind_eq_some_iff.1 asked
          have asked' : request.params.fetch "clientProbeId" = some (.string probeId) := by
            cases text' with
            | string value =>
              cases string
              exact found
            | _ => cases string
          have becomes : Becomes digests request probeId idempotencyKey uuid a :=
            ⟨asked', (Bool.and_eq_true_iff.1 valid).1, key, probe, text, scope, keyed, fingerprint⟩
          cases answer with
          | error failure =>
            exact ⟨probeId, idempotencyKey, uuid, a, receipt, becomes, ran, fun body same => absurd same (rejection_ne _ _)⟩
          | ok answer =>
            obtain rfl := answered answer rfl
            exact ⟨probeId, idempotencyKey, uuid, a, answer, becomes, ran, fun body same => (CreateReply.accepted.inj same).symm⟩
    next => exact .inl (refused .validationFailed)
  next => exact .inl (refused .validationFailed)

/-! ## Runs -/

/-- Every record of the controller's scope is of a request, for the probe that the client named. -/
structure Keyed (digests : Digests) (db : Db) : Prop where
  copied : Copied db
  requests : ∀ record ∈ db.commandIdempotency, record.scope = probeScope → ∃ probeId uuid, validUuid probeId = true
    ∧ record.requestFingerprint = requestFingerprint digests probeId
    ∧ uuid.text = String.ofList (probeId.toList.map Char.toLower) ∧ RecordOf db record uuid

/-- A record that stays is for the same probe. -/
theorem Keyed.old (keyed : Keyed digests db) (copied : Copied db') {record : IdempotencyRecord}
    (stored : record ∈ db.commandIdempotency) (stays : record ∈ db'.commandIdempotency) (scope : record.scope = probeScope) :
    ∃ probeId uuid, validUuid probeId = true ∧ record.requestFingerprint = requestFingerprint digests probeId
      ∧ uuid.text = String.ofList (probeId.toList.map Char.toLower) ∧ RecordOf db' record uuid := by
  obtain ⟨probeId, uuid, valid, fingerprint, text, of⟩ := keyed.requests record stored scope
  obtain ⟨other, again⟩ := copied.records record stays
  rw [← of.probe_unique again] at again
  exact ⟨probeId, uuid, valid, fingerprint, text, again⟩

theorem Keyed.other (keyed : Keyed digests db) {step : RetentionStep} (foreign : ¬ InScope step) :
    Keyed digests (step.after db) := by
  obtain ⟨copied, records⟩ := RetentionStep.copied keyed.copied step
  refine ⟨copied, fun record stored scope => ?_⟩
  rcases records record stored with old | ⟨a, clock, made, asked⟩
  · exact keyed.old copied old stored scope
  · exact absurd ⟨a, clock, made, scope ▸ asked⟩ foreign

variable {uuid : Uuid} {clock : RequestClock}

/-- The records after a command: the old ones, and one for the probe of the request. -/
theorem command_copyStep (becomes : Becomes digests request probeId idempotencyKey uuid a)
    (ran : (requestProbeV1 a clock).run db = .ok (receipt, db')) :
    (Copied db → Copied db') ∧ ∀ record ∈ db'.commandIdempotency, record ∈ db.commandIdempotency
      ∨ record.requestFingerprint = requestFingerprint digests probeId ∧ RecordOf db' record uuid := by
  have call : (Call.requestV1 a clock).exec db = .ok (.receipt receipt, db') := by
    simp only [Call.exec, ran]
    rfl
  have step := Call.copyStep call
  refine ⟨fun copied => copied.step step, fun record stored => ?_⟩
  rcases step.records record stored with old | ⟨b, other, ⟨_, made⟩, new⟩
  · exact .inl old
  · cases made
    have same : other = uuid := Option.some.inj (new.probe.symm.trans becomes.probe)
    exact .inr ⟨Option.some.inj (new.fingerprint.symm.trans becomes.fingerprint), same ▸ new.of⟩

theorem Keyed.command (keyed : Keyed digests db) (becomes : Becomes digests request probeId idempotencyKey uuid a)
    (ran : (requestProbeV1 a clock).run db = .ok (receipt, db')) : Keyed digests db' := by
  obtain ⟨kept, records⟩ := command_copyStep becomes ran
  refine ⟨kept keyed.copied, fun record stored scope => ?_⟩
  rcases records record stored with old | ⟨fingerprint, of⟩
  · exact keyed.old (kept keyed.copied) old stored scope
  · exact ⟨probeId, uuid, becomes.valid, fingerprint, becomes.text, of⟩

theorem Keyed.create (keyed : Keyed digests db) (readings : CreateReadings) (request : CreateRequest) :
    Keyed digests (create digests readings request db).2 := by
  rcases create_cases digests readings request db with ⟨same, _⟩ | ⟨_, _, _, _, _, becomes, ran, _⟩
  · rw [same]
    exact keyed
  · exact keyed.command becomes ran

theorem runApi_copied (digests : Digests) (steps : List ApiStep) : Copied (runApi digests steps) := by
  refine List.foldlRecOn (motive := Copied) steps _ .migrated fun db copied step _ => ?_
  cases step with
  | create readings request =>
    rcases create_cases digests readings request db with ⟨same, _⟩ | ⟨_, _, _, _, _, becomes, ran, _⟩
    · rw [ApiStep.after, same]
      exact copied
    · exact (command_copyStep becomes ran).1 copied
  | other step => exact (RetentionStep.copied copied step).1

/-- What makes a repeated idempotency key a repeated probe id: no other command is in the scope of the controller,
and different probe ids have different fingerprints. -/
structure Recognised (digests : Digests) (steps : List ApiStep) : Prop where
  own : ∀ step, .other step ∈ steps → ¬ InScope step
  distinct : ∀ probeId other, validUuid probeId = true → validUuid other = true →
    requestFingerprint digests probeId = requestFingerprint digests other → probeId = other

theorem runApi_keyed (digests : Digests) (steps : List ApiStep) (own : ∀ step, .other step ∈ steps → ¬ InScope step) :
    Keyed digests (runApi digests steps) := by
  refine List.foldlRecOn (motive := Keyed digests) steps _ ⟨.migrated, Table.forall_empty⟩ fun _ keyed step listed => ?_
  cases step with
  | create readings request => exact keyed.create readings request
  | other step => exact keyed.other (own step listed)

/-- A command that returns has its record in the database. If its idempotency key is new, the record is for the probe
of the request and the event is in the log. -/
theorem command_recorded (becomes : Becomes digests request probeId idempotencyKey uuid a)
    (ran : (requestProbeV1 a clock).run db = .ok (receipt, db')) :
    ∃ record ∈ db'.commandIdempotency, record.scope = probeScope
      ∧ record.requestFingerprint = requestFingerprint digests probeId ∧ record.receipt = .ok { receipt with duplicate := true }
      ∧ (db.commandIdempotency.get? (probeScope, idempotencyKey) = none →
        RecordOf db' record uuid ∧ ∃ row ∈ db'.handoffV1.events, row.eventId = receipt.eventId) := by
  obtain ⟨_, records⟩ := command_copyStep becomes ran
  obtain ⟨id, identified, made⟩ := requestV1_run ran
  obtain ⟨scope, key, fingerprint⟩ := identity_fields identified
  have inScope : id.scope = probeScope := Option.some.inj (scope.symm.trans becomes.scope)
  have keyed : id.idempotencyKey = idempotencyKey := Option.some.inj (key.symm.trans becomes.idempotencyKey)
  have printed : id.fingerprint = requestFingerprint digests probeId :=
    Option.some.inj (fingerprint.symm.trans becomes.fingerprint)
  rcases made with ⟨rfl, record, found, same, answered⟩ | ⟨state, row, cursor, db₁, db₂, db₃, created, rfl⟩
  · obtain ⟨stored, recordKey⟩ := Table.get?_eq_some.1 found
    have duplicate := duplicate_of_receipt answered
    refine ⟨record, stored, (Prod.mk.inj recordKey).1.trans inScope, same.trans printed, ?_, fun none => ?_⟩
    · rw [answered, ← duplicate]
    · rw [inScope, keyed, none] at found
      cases found
  · have unrecorded : db₃.commandIdempotency.get? (idempotencyRow id state cursor clock.recorded).key = none := by
      have before : db₃.commandIdempotency = db.commandIdempotency := by
        rw [created.handoff.copies.2, created.event.outboxOnly.consumerOnly.quiet.commandIdempotency, created.probe]
      rw [before]
      exact created.unrecorded
    have stored : idempotencyRow id state cursor clock.recorded ∈ db'.commandIdempotency := by
      rw [created.record]
      exact (Table.mem_insert unrecorded).2 (.inr rfl)
    refine ⟨_, stored, inScope, printed, receipt_idempotencyRow id state cursor clock.recorded, fun _ => ⟨?_, ?_⟩⟩
    · rcases records _ stored with old | ⟨_, of⟩
      · exact absurd rfl (Table.get?_eq_none.1 created.unrecorded _ old)
      · exact of
    · obtain ⟨row, found, named⟩ := created.handoff.logged
      exact ⟨row, by rw [created.record]; exact found, named⟩

/-- A row of the log whose event a record of the probe names has the key of the probe, in lower case. -/
theorem delivers_recorded_iff {record : IdempotencyRecord} (of : RecordOf db record uuid) (copied : Copied db)
    (text : uuid.text = String.ofList (probeId.toList.map Char.toLower))
    (answered : record.receipt = .ok { receipt with duplicate := true }) {row : HandoffEvent}
    (found : row ∈ db.handoffV1.events) (event : row.eventId.text = receipt.eventId.text) :
    Delivers (actorKey probeId) row ↔ LowerCase probeId := by
  obtain ⟨receipt', again, _, named⟩ := of.receipt
  rw [answered] at again
  cases again
  have about : row.eventId = record.eventId := (Uuid.text_injective event).trans named
  have key : row.envelope.content.aggregateKey = actorKey (String.ofList (probeId.toList.map Char.toLower)) := by
    rw [copied.key of found about, ← text]
    rfl
  rw [delivers_iff, key, lowerCase_iff]
  exact append_inj _

end Requests

/-- **Keys of accepted requests.** In every run, an accepted request whose command is the first with its idempotency
key has its event in the log, and is told a key under which that event is delivered exactly if the probe id has no
letter in upper case. The same holds for the event that a repeated request is told, if such requests are recognised. -/
theorem actor_key_delivers_iff (digests : Digests) (steps : List ApiStep) (readings : CreateReadings)
    (request : CreateRequest) (body : ProbeAccepted) (db' : Db)
    (accepted : create digests readings request (runApi digests steps) = (.accepted body, db')) :
    ∃ probeId idempotencyKey, request.params.fetch "clientProbeId" = some (.string probeId)
      ∧ request.idempotencyKey = some idempotencyKey
      ∧ ((runApi digests steps).commandIdempotency.get? (probeScope, idempotencyKey) = none →
        ∃ row ∈ db'.handoffV1.events, row.eventId.text = body.eventId)
      ∧ ((runApi digests steps).commandIdempotency.get? (probeScope, idempotencyKey) = none ∨ Recognised digests steps →
        ∀ row ∈ db'.handoffV1.events, row.eventId.text = body.eventId →
          (Delivers body.actorKey row ↔ LowerCase probeId)) := by
  rcases create_cases digests readings request (runApi digests steps) with
    ⟨_, refused⟩ | ⟨probeId, idempotencyKey, uuid, a, receipt, becomes, ran, answer⟩
  · rw [accepted] at refused
    exact absurd rfl (refused body)
  rw [accepted] at ran answer
  obtain rfl := answer body rfl
  have copied : Copied db' := (command_copyStep becomes ran).1 (runApi_copied digests steps)
  obtain ⟨record, stored, scope, fingerprint, answered, new⟩ := command_recorded becomes ran
  refine ⟨probeId, idempotencyKey, becomes.asked, becomes.key, fun first => ?_, ?_⟩
  · obtain ⟨_, row, found, named⟩ := new first
    exact ⟨row, found, congrArg Uuid.text named⟩
  rintro (first | recognised) row found event
  · exact delivers_recorded_iff (new first).1 copied becomes.text answered found event
  · obtain ⟨other, uuid', valid, same, text, of⟩ :=
      ((runApi_keyed digests steps recognised.own).command becomes ran).requests record stored scope
    obtain rfl := recognised.distinct other probeId valid becomes.valid (same.symm.trans fingerprint)
    exact delivers_recorded_iff of copied text answered found event

def sampleDigests : Digests where
  fingerprint := fun _ _ _ => "0000000000000000000000000000000000000000000000000000000000000000"
  deterministicUuid := fun _ _ => sampleUuid 2

/-- A call of the controller that is answered at once. -/
def sampleCreateReadings : CreateReadings where
  executeMs := 0
  adapterNow := 0
  occurredAt := 0
  clock := ⟨0, 0, 0⟩
  freshId := sampleUuid 2
  requestTimeoutMs := 5000
  envelopeMs := 0
  started := true
  fate := .answered

def sampleRequest (probeId : String) : CreateRequest where
  authorized := true
  params := .map [("clientProbeId", .string probeId)]
  idempotencyKey := some "key"
  requestId := some "12345678-1234-1234-8234-123456789abc"
  deadlineMs := none
  traceparent := none

def upperProbe : String := "12345678-1234-1234-8234-123456789ABC"

def lowerProbe : String := "12345678-1234-1234-8234-123456789abc"

/-- The answer to a sample request, and the log after it. -/
def sampleAnswer (probeId : String) : CreateReply × List (String × String) :=
  let ended := create sampleDigests sampleCreateReadings (sampleRequest probeId) .migrated
  (ended.1, ended.2.handoffV1.events.rows.map fun row => (row.eventId.text, row.envelope.content.aggregateKey))

/-- A probe id with letters in upper case: the key in the answer is not the key of the event. -/
theorem upper_case_undelivered : sampleAnswer upperProbe
      = (.accepted ⟨lowerProbe, some lowerProbe, (sampleUuid 2).text, 1, "accepted", "platform-probe:" ++ upperProbe⟩,
          [((sampleUuid 2).text, "platform-probe:" ++ lowerProbe)])
    ∧ ∀ row : HandoffEvent, row.envelope.content.aggregateKey = "platform-probe:" ++ lowerProbe →
      ¬ Delivers ("platform-probe:" ++ upperProbe) row := by
  refine ⟨by decide +kernel, fun row key delivers => ?_⟩
  exact absurd (key.symm.trans delivers.key) (by decide)

/-- The same probe id in lower case. -/
theorem lower_case_delivered : ∃ body db', create sampleDigests sampleCreateReadings (sampleRequest lowerProbe)
      (runApi sampleDigests []) = (.accepted body, db')
    ∧ ∃ row ∈ db'.handoffV1.events, Delivers body.actorKey row := by
  have answer : (create sampleDigests sampleCreateReadings (sampleRequest lowerProbe)
      (runApi sampleDigests [])).1
      = .accepted ⟨lowerProbe, some lowerProbe, (sampleUuid 2).text, 1, "accepted", "platform-probe:" ++ lowerProbe⟩ := by
    decide +kernel
  obtain ⟨reply, db', ended⟩ : ∃ reply db', create sampleDigests sampleCreateReadings
      (sampleRequest lowerProbe) (runApi sampleDigests []) = (reply, db') := ⟨_, _, Prod.mk.eta.symm⟩
  rw [ended] at answer
  cases answer
  obtain ⟨probeId, key, asked, given, logged, delivers⟩ := actor_key_delivers_iff sampleDigests []
    sampleCreateReadings (sampleRequest lowerProbe) _ db' ended
  have same : probeId = lowerProbe := (Json.string.inj (Option.some.inj asked)).symm
  have first : (runApi sampleDigests []).commandIdempotency.get? (probeScope, key) = none :=
    Table.get?_empty _
  obtain ⟨row, found, event⟩ := logged first
  refine ⟨_, db', ended, row, found, (delivers (.inl first) row found event).2 ?_⟩
  have lower : lowerProbe.toList.all (fun c => c.toLower == c) = true := by decide
  rw [same]
  exact fun c member => beq_iff_eq.1 (List.all_eq_true.1 lower c member)

end Liqi.Web
