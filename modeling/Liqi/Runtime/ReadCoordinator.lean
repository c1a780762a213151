import Mathlib.Data.List.AList
import Liqi.Beam.GenServer

/-!
# Coalesced reads

`Liqi.Runtime.ReadCoordinator` starts one task for all concurrent reads of a key. The callers wait in
`inflight` under the key until the task has sent `{:read_result, key, result}`, which carries the key and not
the task. A system is the coordinator with its mailbox, the tasks that run, and a record of what tasks
returned and callers were answered; `step` interleaves calls, the coordinator, the ends of tasks and the
timeouts of callers in any order.
-/

namespace Liqi.Runtime

open Beam

/-- The `from` of a call. -/
abbrev CallRef := Nat

abbrev TaskRef := Nat

/-- How the function of a read ends. -/
inductive Ending (Value : Type) where
  | returned (value : Value)
  | raised
  | thrown
  | exited
  deriving DecidableEq

/-- What `Budgets.with_permit(:task, fun)` returns. -/
inductive ReadResult (Value : Type) where
  | value (value : Value)
  | capacity
  deriving DecidableEq

/-- `with_permit(:task, fun)` in a task, `none` if it does not return. -/
def permittedRead {Value : Type} (acquired : Bool) (ending : Ending Value) : Option (ReadResult Value) :=
  if acquired then
    match ending with
    | .returned value => some (.value value)
    | .raised => none
    | .thrown => none
    | .exited => none
  else some .capacity

/-- The errors of `Task.Supervisor.start_child`. -/
inductive StartError where
  | maxChildren
  | other (reason : String)
  deriving DecidableEq

inductive FetchReply (Value : Type) where
  | result (result : ReadResult Value)
  | coalescingCapacity
  | taskCapacity
  | startFailed (reason : String)
  deriving DecidableEq

/-- The callers that wait, by key. -/
abbrev Inflight (Key : Type) := AList fun _ : Key => List CallRef

def maxWaiters : Nat := 64

namespace ReadCoordinator

variable {Key Value : Type} [DecidableEq Key]

/-- What a clause of the coordinator does besides its new state. -/
inductive Effect (Key Value : Type) where
  | start (task : TaskRef) (key : Key)
  | reply (call : CallRef) (reply : FetchReply Value)
  deriving DecidableEq

/-- `handle_call({:fetch, key, fun}, ..)`; `started` is the answer of `start_child`, should it be asked. -/
def fetch (key : Key) (call : CallRef) (started : Except StartError TaskRef) (inflight : Inflight Key) :
    Inflight Key × List (Effect Key Value) :=
  match inflight.lookup key with
  | some waiters =>
    if maxWaiters ≤ waiters.length then (inflight, [.reply call .coalescingCapacity])
    else (inflight.insert key (call :: waiters), [])
  | none =>
    match started with
    | .ok task => (inflight.insert key [call], [.start task key])
    | .error .maxChildren => (inflight, [.reply call .taskCapacity])
    | .error (.other reason) => (inflight, [.reply call (.startFailed reason)])

/-- `handle_info({:read_result, key, result}, ..)`. -/
def readResult (key : Key) (result : ReadResult Value) (inflight : Inflight Key) :
    Inflight Key × List (Effect Key Value) :=
  let waiters := (inflight.lookup key).getD []
  (inflight.erase key, waiters.map (Effect.reply · (.result result)))

/-- A message of the mailbox. The sender of a result is not part of the message: no clause reads it. -/
inductive Mail (Key Value : Type) where
  | fetch (key : Key) (call : CallRef)
  | readResult (key : Key) (result : ReadResult Value) (sender : TaskRef)
  deriving DecidableEq

structure Task (Key : Type) where
  ref : TaskRef
  key : Key
  deriving DecidableEq

/-- The coordinator with its mailbox, the tasks that run, the results of those that returned, the replies
sent so far, and the callers that no longer wait for theirs. -/
structure System (Key Value : Type) where
  inflight : Inflight Key
  mailbox : List (Mail Key Value)
  tasks : List (Task Key)
  results : List (TaskRef × ReadResult Value)
  replies : List (CallRef × FetchReply Value)
  timedOut : List CallRef
  nextCall : CallRef
  nextTask : TaskRef

/-- What happens next. The coordinator takes its next message; a task that it starts succeeds unless
`start_child` answers with `refusal`. -/
inductive Action (Value Key : Type) where
  | call (key : Key)
  | receive (refusal : Option StartError)
  | finish (task : TaskRef) (acquired : Bool) (ending : Ending Value)
  | timeOut (call : CallRef)

namespace System

def init : System Key Value where
  inflight := ∅
  mailbox := []
  tasks := []
  results := []
  replies := []
  timedOut := []
  nextCall := 0
  nextTask := 0

def perform (system : System Key Value) : Effect Key Value → System Key Value
  | .start task key => { system with tasks := system.tasks ++ [{ ref := task, key }], nextTask := task + 1 }
  | .reply call reply => { system with replies := system.replies ++ [(call, reply)] }

/-- The coordinator handles a message. -/
def handleMail (system : System Key Value) (refusal : Option StartError) (mail : Mail Key Value) : System Key Value :=
  let (inflight, effects) := match mail with
    | .fetch key call =>
      ReadCoordinator.fetch key call (refusal.elim (.ok system.nextTask) .error) system.inflight
    | .readResult key result _ => ReadCoordinator.readResult key result system.inflight
  effects.foldl perform { system with inflight }

/-- A task ends: it sends its result to the coordinator, if there is one. -/
def endTask (system : System Key Value) (task : Task Key) (sent : Option (ReadResult Value)) : System Key Value :=
  { system with
    tasks := system.tasks.filter (·.ref ≠ task.ref)
    mailbox := system.mailbox ++ sent.toList.map (Mail.readResult task.key · task.ref)
    results := system.results ++ sent.toList.map (task.ref, ·) }

/-- One step; what cannot happen has no next state. -/
def step (action : Action Value Key) (system : System Key Value) : Outcome Unit (System Key Value) Unit :=
  match action with
  | .call key =>
    .noreply { system with
      mailbox := system.mailbox ++ [.fetch key system.nextCall], nextCall := system.nextCall + 1 } []
  | .receive refusal =>
    match system.mailbox with
    | [] => .crash
    | mail :: rest => .noreply ({ system with mailbox := rest }.handleMail refusal mail) []
  | .finish ref acquired ending =>
    match system.tasks.find? (·.ref = ref) with
    | none => .crash
    | some task => .noreply (system.endTask task (permittedRead acquired ending)) []
  | .timeOut call => .noreply { system with timedOut := call :: system.timedOut } []

/-- The callers that wait for the key. -/
def waiters (system : System Key Value) (key : Key) : List CallRef := (system.inflight.lookup key).getD []

/-- The tasks of the key that run. -/
def running (system : System Key Value) (key : Key) : List (Task Key) := system.tasks.filter (·.key = key)

/-- The tasks of the key whose results wait in the mailbox. -/
def returned (system : System Key Value) (key : Key) : List TaskRef :=
  system.mailbox.filterMap fun
    | .readResult other _ sender => if other = key then some sender else none
    | .fetch .. => none

/-- The tasks of the key in progress: those that run, and those whose results were not handled yet. -/
def inProgress (system : System Key Value) (key : Key) : List TaskRef :=
  (system.running key).map Task.ref ++ system.returned key

section Steps

/-- The transitions of a system. -/
inductive Step (system : System Key Value) : Action Value Key → System Key Value → Prop where
  | called (key : Key) : Step system (.call key)
      { system with mailbox := system.mailbox ++ [.fetch key system.nextCall], nextCall := system.nextCall + 1 }
  | full {refusal : Option StartError} {key : Key} {call : CallRef} {rest : List (Mail Key Value)}
      {waiters : List CallRef} (next : system.mailbox = .fetch key call :: rest)
      (entry : system.inflight.lookup key = some waiters) : Step system (.receive refusal)
        { system with mailbox := rest, replies := system.replies ++ [(call, .coalescingCapacity)] }
  | joined {refusal : Option StartError} {key : Key} {call : CallRef} {rest : List (Mail Key Value)}
      {waiters : List CallRef} (next : system.mailbox = .fetch key call :: rest)
      (entry : system.inflight.lookup key = some waiters) (room : waiters.length < maxWaiters) :
      Step system (.receive refusal)
        { system with mailbox := rest, inflight := system.inflight.insert key (call :: waiters) }
  | started {key : Key} {call : CallRef} {rest : List (Mail Key Value)}
      (next : system.mailbox = .fetch key call :: rest) (absent : system.inflight.lookup key = none) :
      Step system (.receive none)
        { system with
          mailbox := rest
          inflight := system.inflight.insert key [call]
          tasks := system.tasks ++ [{ ref := system.nextTask, key }]
          nextTask := system.nextTask + 1 }
  | unstarted {refusal : StartError} {key : Key} {call : CallRef} {rest : List (Mail Key Value)}
      (reply : FetchReply Value) (next : system.mailbox = .fetch key call :: rest)
      (absent : system.inflight.lookup key = none) : Step system (.receive (some refusal))
        { system with mailbox := rest, replies := system.replies ++ [(call, reply)] }
  | answered {refusal : Option StartError} {key : Key} {result : ReadResult Value} {sender : TaskRef}
      {rest : List (Mail Key Value)} (next : system.mailbox = .readResult key result sender :: rest) :
      Step system (.receive refusal)
        { system with
          mailbox := rest
          inflight := system.inflight.erase key
          replies := system.replies ++ (system.waiters key).map (·, .result result) }
  | ended {acquired : Bool} {ending : Ending Value} {task : Task Key} (runs : task ∈ system.tasks) :
      Step system (.finish task.ref acquired ending) (system.endTask task (permittedRead acquired ending))
  | timedOut (call : CallRef) : Step system (.timeOut call) { system with timedOut := call :: system.timedOut }

variable {system next : System Key Value} {action : Action Value Key}

omit [DecidableEq Key] in
theorem perform_replies (calls : List CallRef) (reply : FetchReply Value) :
    (calls.map (Effect.reply · reply)).foldl perform system
      = { system with replies := system.replies ++ calls.map (·, reply) } := by
  induction calls generalizing system with
  | nil => simp
  | cons call calls ih =>
    rw [List.map_cons, List.foldl_cons, ih]
    simp [perform]

/-- Every step is one of the transitions. -/
theorem step_cases (stepped : (system.step action).next? = some next) : system.Step action next := by
  cases action with
  | call key =>
    cases stepped
    exact .called key
  | receive refusal =>
    simp only [step] at stepped
    split at stepped
    · cases stepped
    next mail rest arrived =>
      obtain rfl := Option.some.inj stepped
      rcases mail with ⟨key, call⟩ | ⟨key, result, sender⟩
      · rcases entry : system.inflight.lookup key with _ | waiters
        · rcases refusal with _ | _ | reason
          · simp only [handleMail, ReadCoordinator.fetch, entry]
            exact .started arrived entry
          all_goals
            simp only [handleMail, ReadCoordinator.fetch, entry]
            exact .unstarted _ arrived entry
        · by_cases full : maxWaiters ≤ waiters.length
          · simp only [handleMail, ReadCoordinator.fetch, entry, if_pos full]
            exact .full arrived entry
          · simp only [handleMail, ReadCoordinator.fetch, entry, if_neg full]
            exact .joined arrived entry (by omega)
      · simp only [handleMail, ReadCoordinator.readResult, perform_replies]
        exact .answered arrived
  | finish ref acquired ending =>
    simp only [step] at stepped
    split at stepped
    · cases stepped
    next task found =>
      obtain rfl := Option.some.inj stepped
      obtain rfl : task.ref = ref := by simpa using List.find?_some found
      exact .ended (List.mem_of_find?_eq_some found)
  | timeOut call =>
    cases stepped
    exact .timedOut call

end Steps

end System

end ReadCoordinator

end Liqi.Runtime
