import Liqi.Beam.Json
import Liqi.Realtime.Resume
import Liqi.Runtime.Id

/-!
# The platform channel

`Liqi.Web.PlatformChannel` lets a client join its session and handles the frames that it sends. What the
channel asks of the session is a client of the session actor; payloads are JSON terms of any shape.
`verified` is `Phoenix.Token.verify` for the salt of the resume tokens: the claims of a token that is signed
and not too old.
-/

namespace Liqi.Web

open Beam Postgres Liqi.Database Liqi.Runtime Liqi.Native Liqi.Realtime

/-- The assigns of a connected socket. -/
structure Socket where
  sessionId : String
  deviceId : String
  deriving DecidableEq

/-- The reasons of an error reply. -/
inductive Reason where
  | unsupportedFrame
  | actorKeyUnauthorized
  | invalidResumeCursor
  | invalidResumeToken
  | resumeTokenRequired
  | startChild
  | session (error : SessionError)
  | call (error : CallError)
  | slowConsumer
  | handoffGap
  | repair (error : RepairError)
  deriving DecidableEq

/-- `error_code`, and the text of the last clause of `handle_in`. -/
def errorCode : Reason → String
  | .unsupportedFrame => "unsupported_frame"
  | .invalidResumeToken => "resume_token_invalid"
  | .resumeTokenRequired => "resume_token_required"
  | .invalidResumeCursor => "resume_cursor_invalid"
  | .session .deviceBindingMismatch => "device_binding_mismatch"
  | .session .accessRevoked => "access_revoked"
  | .actorKeyUnauthorized => "actor_key_unauthorized"
  | .slowConsumer => "slow_consumer"
  | .handoffGap => "handoff_gap"
  | _ => "runtime_unavailable"

/-- The reason that a failed repair returns; none where it raises. -/
def repairReason : RepairError → Option Reason
  | .handoff (.persistence .realtimeCursorGap) => some .handoffGap
  | .handoff (.persistence code) => some (.repair (.handoff (.persistence code)))
  | .handoff .raised => none
  | .handoffGap _ => some .handoffGap
  | .sequenceKernel failure => some (.repair (.sequenceKernel failure))
  | .actor failure => some (.call failure)
  | .session reason => some (.session reason)
  | .slowConsumer => some .slowConsumer
  | .raised => none

/-! ## Requests -/

/-- `probe_actor_key?`. -/
def probeActorKey (key : String) : Bool :=
  key.toList.take 15 = "platform-probe:".toList && validUuid (String.ofList (key.toList.drop 15))

/-- `normalize_actor_keys`. -/
def normalizeActorKeys (params : Json) : Except Reason (List String) :=
  match params.fetch "actorKeys", params.fetch "actorKey" with
  | some (.list keys), _ =>
    let keys := (keys.filterMap Json.string?).eraseDups.take 32
    if keys ≠ [] ∧ keys.all probeActorKey then .ok keys else .error .actorKeyUnauthorized
  | _, some (.string key) => if probeActorKey key then .ok [key] else .error .actorKeyUnauthorized
  | _, _ => .error .actorKeyUnauthorized

section Tokens

variable (verified : String → Option ResumeToken)

/-- `ResumeToken.verify` for a binary. -/
def verifyResumeToken (socket : Socket) (token : String) : Except Reason Int :=
  match verified token with
  | some payload =>
    if payload.version = "1" ∧ payload.sessionId = socket.sessionId ∧ payload.deviceId = some socket.deviceId
        ∧ 0 ≤ payload.cursor then .ok payload.cursor
    else .error .invalidResumeToken
  | none => .error .invalidResumeToken

/-- `resume_cursor`. -/
def resumeCursor (socket : Socket) (params : Json) : Except Reason Int :=
  match (params.get "resumeCursor").orElse (.integer 0) with
  | .integer cursor =>
    if cursor < 0 then .error .invalidResumeCursor
    else match params.get "resumeToken" with
      | .string token => verifyResumeToken verified socket token
      | _ => if cursor = 0 then .ok 0 else .error .resumeTokenRequired
  | _ => .error .invalidResumeCursor

end Tokens

/-! ## Joining -/

structure Joined where
  sessionId : String
  resumeCursor : Int
  resumeToken : ResumeToken
  repair : Repair
  deriving DecidableEq

/-- How a channel callback ends. After `raised` the channel process is gone. -/
inductive Answer (α : Type) where
  | ok (response : α)
  | error (reason : Reason)
  | raised
  deriving DecidableEq

/-- The answer to a repair. -/
def repairAnswer {α : Type} (respond : Repair → α) : Except RepairError Repair → Answer α
  | .ok result => .ok (respond result)
  | .error failure =>
    match repairReason failure with
    | some reason => .error reason
    | none => .raised

/-- What a join finds outside the session: whether the session could be started, the new connection process
if it could, and what the session reads. -/
structure JoinSetup where
  ensured : Bool
  connection : Option Pid
  subscribe : Nat → Readings
  attach : Readings
  repair : RepairReadings

/-- `subscribe_all`; the readings of the calls from `index` on. -/
def subscribeAll (readings : Nat → Readings) : Nat → List String → SessionClient (Answer Unit)
  | _, [] => .done (.ok ())
  | index, key :: rest => .call { readings := readings index, message := .subscribe (some key) } fun
    | .ok .ok => subscribeAll readings (index + 1) rest
    | .ok (.error reason) => .done (.error (.session reason))
    | .ok _ => .done .raised
    | .error failure => .done (.error (.call failure))

section Channel

variable (node : Node) (db : Db) (verified : String → Option ResumeToken) (socket : Socket)

/-- The join after its subscriptions: the connection process, the attachment and the repair. -/
def attachAndRepair (setup : JoinSetup) (cursor : Int) : SessionClient (Answer Joined) :=
  match setup.connection with
  | none => .done (.error .startChild)
  | some connection =>
    .call { readings := setup.attach, message := .attach socket.deviceId connection (some cursor) } fun
      | .ok (.attached _ attached token) => (repair node db setup.repair cursor).map
          (repairAnswer fun result =>
            { sessionId := socket.sessionId, resumeCursor := attached, resumeToken := token, repair := result })
      | .ok (.error reason) => .done (.error (.session reason))
      | .ok _ => .done .raised
      | .error failure => .done (.error (.call failure))

/-- `join("platform:v1", ..)`. -/
def join (setup : JoinSetup) (params : Json) : SessionClient (Answer Joined) :=
  match normalizeActorKeys params with
  | .error reason => .done (.error reason)
  | .ok keys =>
    match resumeCursor verified socket params with
    | .error reason => .done (.error reason)
    | .ok cursor =>
      if setup.ensured then
        (subscribeAll setup.subscribe 0 keys).bind fun
          | .ok _ => attachAndRepair node db socket setup cursor
          | .error reason => .done (.error reason)
          | .raised => .done .raised
      else .done (.error .startChild)

/-! ## Frames -/

inductive ClientFrame where
  | subscribe
  | ack
  | resume
  deriving DecidableEq

inductive Response where
  | subscribed (actorKey : String)
  | acknowledged (cursor : Int) (resumeToken : ResumeToken)
  | repaired (repair : Repair)
  deriving DecidableEq

/-- What the session reads while the channel handles a frame. -/
structure FrameReadings extends RepairReadings where
  call : Readings

/-- `handle_in("subscribe", ..)`. -/
def subscribeFrame (readings : Readings) (actorKey : Json) : SessionClient (Answer Response) :=
  match actorKey with
  | .string key =>
    if probeActorKey key then .call { readings, message := .subscribe (some key) } fun
      | .ok .ok => .done (.ok (.subscribed key))
      | .ok (.error reason) => .done (.error (.session reason))
      | .ok _ => .done .raised
      | .error failure => .done (.error (.call failure))
    else .done (.error .actorKeyUnauthorized)
  | _ => .done (.error .actorKeyUnauthorized)

/-- `handle_in("ack", ..)`. -/
def ackFrame (readings : Readings) (sequence : Json) : SessionClient (Answer Response) :=
  .call { readings, message := .ack sequence.integer? } fun
    | .ok (.acknowledged cursor token) => .done (.ok (.acknowledged cursor token))
    | .ok (.error reason) => .done (.error (.session reason))
    | .ok _ => .done .raised
    | .error failure => .done (.error (.call failure))

/-- `handle_in("resume", ..)`. A token that is neither a binary nor `nil` has no clause in `Phoenix.Token`,
and a token of another cursor than the given one has none in the `with`. -/
def resumeFrame (readings : RepairReadings) (cursor token : Json) : SessionClient (Answer Response) :=
  match token with
  | .string text =>
    match verifyResumeToken verified socket text with
    | .error reason => .done (.error reason)
    | .ok claimed =>
      if cursor.integer? = some claimed then (repair node db readings claimed).map (repairAnswer .repaired)
      else .done .raised
  | .null => .done (.error .invalidResumeToken)
  | _ => .done .raised

/-- `handle_in`. -/
def handleIn (readings : FrameReadings) (frame : ClientFrame) (payload : Json) : SessionClient (Answer Response) :=
  match frame with
  | .subscribe =>
    match payload.fetch "actorKey" with
    | some actorKey => subscribeFrame readings.call actorKey
    | none => .done (.error .unsupportedFrame)
  | .ack =>
    match payload.fetch "sequence" with
    | some sequence => ackFrame readings.call sequence
    | none => .done (.error .unsupportedFrame)
  | .resume =>
    match payload.fetch "cursor", payload.fetch "resumeToken" with
    | some cursor, some token => resumeFrame node db verified socket readings.toRepairReadings cursor token
    | _, _ => .done (.error .unsupportedFrame)

end Channel

end Liqi.Web
