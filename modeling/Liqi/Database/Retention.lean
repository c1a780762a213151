import Liqi.Database.Calls

/-!
# Retention of commands and events, and the observation of a probe

`prune_command_idempotency_v1` deletes expired idempotency records, `prune_outbox_v1` deletes finished events that
nothing names any more, with their attempts. Together with the calls of `Calls.lean` they are the steps of a
deployment that runs for a long time. `observe_probe_v1` is what a client sees of it.
-/

namespace Liqi.Database

open Postgres

/-- The check of a batch size. -/
def checkBatch (batch : Option Int) : Except SqlError Nat :=
  match batch.filter fun n => 1 ≤ n ∧ n ≤ 500 with
  | none => .error (.invalidParameter "batch size must be between 1 and 500")
  | some n => .ok n.toNat

/-- `ORDER BY expires_at, scope, idempotency_key`. -/
def IdempotencyRecord.expiresBefore (a b : IdempotencyRecord) : Prop :=
  a.expiresAt < b.expiresAt ∨ (a.expiresAt = b.expiresAt ∧
    (a.scope < b.scope ∨ (a.scope = b.scope ∧ a.idempotencyKey ≤ b.idempotencyKey)))

instance : DecidableRel IdempotencyRecord.expiresBefore := fun a b => by
  delta IdempotencyRecord.expiresBefore
  infer_instance

/-- The records that one prune deletes. -/
def commandCandidates (completedBefore now : Timestamp) (batch : Nat) (skipped : String × String → Bool) (db : Db) :
    List (String × String) :=
  (db.commandIdempotency.select
    (fun record => record.completedAt < completedBefore && record.expiresAt ≤ now && !skipped record.key)
    IdempotencyRecord.expiresBefore (some batch)).map IdempotencyRecord.key

def pruneCommandIdempotencyV1 (completedBefore : Option Timestamp) (batch : Option Int) (now : Timestamp)
    (skipped : String × String → Bool) (db : Db) : Except SqlError (Nat × Db) :=
  match completedBefore with
  | none => .error (.invalidParameter "completed_before is required")
  | some completedBefore =>
    match checkBatch batch with
    | .error e => .error e
    | .ok batch =>
      let keys := commandCandidates completedBefore now batch skipped db
      .ok (keys.length,
        { db with commandIdempotency := db.commandIdempotency.delete fun record => keys.contains record.key })

namespace Db

/-- The columns that reference `outbox_events(event_id)`. -/
def foreignKeys (db : Db) : List Uuid :=
  db.outboxAttempts.rows.map OutboxAttempt.eventId ++ db.probeEffects.rows.map ProbeEffect.eventId
    ++ db.commandIdempotency.rows.map IdempotencyRecord.eventId ++ db.handoffV0.events.rows.map HandoffEvent.eventId
    ++ db.handoffV1.events.rows.map HandoffEvent.eventId

/-- All columns that name an event: `requested_event_id` does so without a constraint. -/
def references (db : Db) : List Uuid := db.foreignKeys ++ db.probeState.rows.map ProbeState.requestedEventId

/-- Some row other than an attempt names the event: the five `EXISTS` of `prune_outbox_v1`. -/
def names (db : Db) (eventId : Uuid) : Bool :=
  db.commandIdempotency.rows.any (·.eventId = eventId) || db.probeState.rows.any (·.requestedEventId = eventId)
    || db.probeEffects.rows.any (·.eventId = eventId) || db.handoffV0.events.rows.any (·.eventId = eventId)
    || db.handoffV1.events.rows.any (·.eventId = eventId)

end Db

/-- `COALESCE(completed_at, dead_lettered_at)`. -/
def OutboxEvent.endedAt (event : OutboxEvent) : Option Timestamp :=
  match event.state with
  | .succeeded completedAt => some completedAt
  | .deadLetter deadLetteredAt => some deadLetteredAt
  | _ => none

/-- `ORDER BY COALESCE(completed_at, dead_lettered_at), event_id`, where `NULL` comes last. -/
def OutboxEvent.endedBefore (a b : OutboxEvent) : Prop :=
  match a.endedAt, b.endedAt with
  | some s, some t => s < t ∨ (s = t ∧ a.eventId ≤ b.eventId)
  | some _, none => True
  | none, some _ => False
  | none, none => a.eventId ≤ b.eventId

instance : DecidableRel OutboxEvent.endedBefore := fun a b => by
  unfold OutboxEvent.endedBefore
  split <;> infer_instance

/-- Finished before the cutoff for its state. -/
def OutboxEvent.outlived (succeededBefore deadLetterBefore : Timestamp) (event : OutboxEvent) : Bool :=
  match event.state with
  | .succeeded completedAt => completedAt < succeededBefore
  | .deadLetter deadLetteredAt => deadLetteredAt < deadLetterBefore
  | _ => false

/-- `candidate_event_ids`. -/
def eventCandidates (succeededBefore deadLetterBefore : Timestamp) (batch : Nat) (skipped : Uuid → Bool) (db : Db) :
    List Uuid :=
  (db.outboxEvents.select
    (fun event => event.outlived succeededBefore deadLetterBefore && !db.names event.eventId && !skipped event.eventId)
    OutboxEvent.endedBefore (some batch)).map OutboxEvent.eventId

/-- `DELETE FROM outbox_attempts WHERE event_id = ANY(ids)`. -/
def deleteAttempts (ids : List Uuid) (db : Db) : Db :=
  { db with outboxAttempts := db.outboxAttempts.delete fun attempt => ids.contains attempt.eventId }

/-- `DELETE FROM outbox_events WHERE event_id = ANY(ids)`, which every foreign key restricts. -/
def deleteEvents (ids : List Uuid) (db : Db) : Except SqlError Db :=
  if db.foreignKeys.any ids.contains then .error ⟨.foreignKeyViolation, "outbox_events", none⟩
  else .ok { db with outboxEvents := db.outboxEvents.delete fun event => ids.contains event.eventId }

def pruneOutboxV1 (succeededBefore deadLetterBefore : Option Timestamp) (batch : Option Int) (skipped : Uuid → Bool)
    (db : Db) : Except SqlError (Nat × Db) :=
  match succeededBefore, deadLetterBefore with
  | some succeededBefore, some deadLetterBefore =>
    match checkBatch batch with
    | .error e => .error e
    | .ok batch =>
      let ids := eventCandidates succeededBefore deadLetterBefore batch skipped db
      if ids.isEmpty then .ok (0, db)
      else (deleteEvents ids (deleteAttempts ids db)).map fun db' => (ids.length, db')
  | _, _ => .error (.invalidParameter "terminal retention cutoffs are required")

/-- One row of `observe_probe_v1`; the clock reading is left out. -/
structure ProbeObservation where
  probeId : Uuid
  eventId : Uuid
  aggregateVersion : Nat
  probeStatus : String
  outboxState : String
  effectApplied : Bool
  handoffCursor : Option Nat
  terminal : Bool
  deriving DecidableEq

def ProbeStatus.text : ProbeStatus → String
  | .requested => "requested"
  | .completed _ => "completed"

def EventState.text : EventState → String
  | .pending => "pending"
  | .processing .. => "processing"
  | .succeeded _ => "succeeded"
  | .deadLetter _ => "dead_letter"

/-- `LEFT JOIN`: the rows that match, or one row of `NULL`s. -/
def leftJoin {ρ : Type} (rows : List ρ) : List (Option ρ) := if rows.isEmpty then [none] else rows.map some

/-- The rows that the joins of `observe_probe_v1` give for a probe and its event. -/
def observations (state : ProbeState) (event : OutboxEvent) (db : Db) : List ProbeObservation :=
  (leftJoin (db.probeEffects.rows.filter (·.eventId = event.eventId))).flatMap fun effect =>
    (leftJoin (db.handoffV1.events.rows.filter (·.eventId = event.eventId))).map fun handoff =>
      { probeId := state.probeId
        eventId := event.eventId
        aggregateVersion := state.aggregateVersion
        probeStatus := state.status.text
        outboxState := event.state.text
        effectApplied := effect.isSome
        handoffCursor := handoff.map HandoffEvent.handoffId
        terminal := state.status.text == "completed" && event.state.text == "succeeded" && effect.isSome }

def observeProbeV1 (probeId eventId : Option Uuid) (db : Db) : Except SqlError (List ProbeObservation) :=
  match probeId.bind db.probeState.get? with
  | none => .ok []
  | some state =>
    if (sqlNe (some state.requestedEventId) eventId).holds then
      .error ⟨.probeIdentityMismatch, "probe identity does not match the requested event id", none⟩
    else
      match db.outboxEvents.get? state.requestedEventId with
      | none => .ok []
      | some event =>
        if (sqlEq (some event.eventId) eventId).holds && event.envelope.content.protocolVersion == 1 then
          .ok (observations state event db)
        else .ok []

/-- The steps of a deployment. -/
inductive RetentionStep where
  | call (call : Call)
  | pruneCommands (completedBefore : Option Timestamp) (batch : Option Int) (now : Timestamp)
      (skipped : String × String → Bool)
  | pruneOutbox (succeededBefore deadLetterBefore : Option Timestamp) (batch : Option Int) (skipped : Uuid → Bool)

/-- The database after a step that returns. -/
def RetentionStep.exec (step : RetentionStep) (db : Db) : Except SqlError Db :=
  match step with
  | .call made => (made.exec db).map Prod.snd
  | .pruneCommands completedBefore batch now skipped =>
    (pruneCommandIdempotencyV1 completedBefore batch now skipped db).map Prod.snd
  | .pruneOutbox succeededBefore deadLetterBefore batch skipped =>
    (pruneOutboxV1 succeededBefore deadLetterBefore batch skipped db).map Prod.snd

/-- The database after a step, whether it returns or raises. -/
def RetentionStep.after (db : Db) (step : RetentionStep) : Db := (step.exec db).toOption.getD db

def runSteps (steps : List RetentionStep) : Db := steps.foldl RetentionStep.after .migrated

/-- The three prunes. -/
def RetentionStep.Prunes : RetentionStep → Prop
  | .call (.pruneHandoff _ _ _) => True
  | .call _ => False
  | .pruneCommands _ _ _ _ => True
  | .pruneOutbox _ _ _ _ => True

end Liqi.Database
