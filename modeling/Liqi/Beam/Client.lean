import Liqi.Beam.GenServer

/-!
# A caller of one process

A client makes calls to a process, each depending on the answers so far. `exec` runs a client against a
process that handles nothing else meanwhile, and keeps the messages that the process handled and the effects
that it had.
-/

namespace Beam

variable {Message State Reply Effect α β : Type}

inductive CallError where
  /-- The call was not made. -/
  | overloaded
  /-- The process is gone. -/
  | unavailable
  /-- The process did not reply. -/
  | deadlineExceeded
  deriving DecidableEq

inductive Client (Message Reply α : Type) where
  | done (value : α)
  | call (message : Message) (next : Except CallError Reply → Client Message Reply α)

namespace Client

def map (f : α → β) : Client Message Reply α → Client Message Reply β
  | .done value => .done (f value)
  | .call message next => .call message fun reply => (next reply).map f

def bind : Client Message Reply α → (α → Client Message Reply β) → Client Message Reply β
  | .done value, next => next value
  | .call message rest, next => .call message fun reply => (rest reply).bind next

end Client

/-- How a client ended: its value, the process, and what the process handled and did. -/
structure Exchange (State Message Effect α : Type) where
  value : α
  state : Option State
  messages : List Message
  effects : List Effect

/-- The exchange with one more message before it. -/
def Exchange.after (message : Message) (effects : List Effect) (rest : Exchange State Message Effect α) :
    Exchange State Message Effect α :=
  { rest with messages := message :: rest.messages, effects := effects ++ rest.effects }

section After

variable {message : Message} {effects : List Effect} {rest : Exchange State Message Effect α}

@[simp] theorem Exchange.after_value : (rest.after message effects).value = rest.value := rfl

@[simp] theorem Exchange.after_state : (rest.after message effects).state = rest.state := rfl

@[simp] theorem Exchange.after_messages : (rest.after message effects).messages = message :: rest.messages := rfl

@[simp] theorem Exchange.after_effects : (rest.after message effects).effects = effects ++ rest.effects := rfl

end After

/-- The client against a process; `admitted` says whether calls are made at all. -/
def Client.exec (handle : Message → State → Outcome Reply State Effect) (admitted : Bool) :
    Client Message Reply α → Option State → Exchange State Message Effect α
  | .done value, state => ⟨value, state, [], []⟩
  | .call _ next, none => (next (.error .unavailable)).exec handle admitted none
  | .call message next, some state =>
    if admitted then
      match handle message state with
      | .reply reply state' effects => ((next (.ok reply)).exec handle admitted (some state')).after message effects
      | .noreply state' effects =>
        ((next (.error .deadlineExceeded)).exec handle admitted (some state')).after message effects
      | .stop => ((next (.error .unavailable)).exec handle admitted none).after message []
      | .crash => ((next (.error .unavailable)).exec handle admitted none).after message []
    else (next (.error .overloaded)).exec handle admitted (some state)

variable {handle : Message → State → Outcome Reply State Effect} {state state' : State} {message : Message}

theorem exec_reply {next : Except CallError Reply → Client Message Reply α} {reply : Reply} {effects : List Effect}
    (handled : handle message state = .reply reply state' effects) :
    (Client.call message next).exec handle true (some state)
      = ((next (.ok reply)).exec handle true (some state')).after message effects := by
  simp [Client.exec, handled]

/-- Nothing is handled by a process that is gone. -/
theorem exec_gone (client : Client Message Reply α) (admitted : Bool) :
    (client.exec handle admitted none).state = none ∧ (client.exec handle admitted none).messages = [] := by
  induction client with
  | done value => exact ⟨rfl, rfl⟩
  | call message next ih => exact ih _

/-- The process ends in the state to which the handled messages lead. -/
theorem exec_run (client : Client Message Reply α) :
    (client.exec handle true (some state)).state = run handle state (client.exec handle true (some state)).messages := by
  induction client generalizing state with
  | done value => rfl
  | call message next ih =>
    simp only [Client.exec, if_true]
    rcases handled : handle message state with ⟨reply, state', effects⟩ | ⟨state', effects⟩ | _ | _
    · simp [Exchange.after, run_cons, handled, Outcome.next?, ih]
    · simp [Exchange.after, run_cons, handled, Outcome.next?, ih]
    · simp [Exchange.after, run_cons, handled, Outcome.next?, exec_gone]
    · simp [Exchange.after, run_cons, handled, Outcome.next?, exec_gone]

/-! ## Calls with a fate of their own -/

/-- What becomes of a call: it is refused, answered, or handled only after the caller has given up. -/
inductive Fate where
  | refused
  | answered
  | late
  deriving DecidableEq

/-- The fates of the calls after the first `count`. -/
def Fate.after (count : Nat) (fates : Nat → Fate) : Nat → Fate := fun n => fates (n + count)

/-- The client against a process, where each call has its own fate. -/
def Client.serve (handle : Message → State → Outcome Reply State Effect) :
    Client Message Reply α → (Nat → Fate) → Option State → Exchange State Message Effect α
  | .done value, _, state => ⟨value, state, [], []⟩
  | .call _ next, fates, none => (next (.error .unavailable)).serve handle (Fate.after 1 fates) none
  | .call message next, fates, some state =>
    match fates 0 with
    | .refused => (next (.error .overloaded)).serve handle (Fate.after 1 fates) (some state)
    | .answered =>
      match handle message state with
      | .reply reply state' effects =>
        ((next (.ok reply)).serve handle (Fate.after 1 fates) (some state')).after message effects
      | .noreply state' effects =>
        ((next (.error .deadlineExceeded)).serve handle (Fate.after 1 fates) (some state')).after message effects
      | .stop => ((next (.error .unavailable)).serve handle (Fate.after 1 fates) none).after message []
      | .crash => ((next (.error .unavailable)).serve handle (Fate.after 1 fates) none).after message []
    | .late =>
      match handle message state with
      | .reply _ state' effects =>
        ((next (.error .deadlineExceeded)).serve handle (Fate.after 1 fates) (some state')).after message effects
      | .noreply state' effects =>
        ((next (.error .deadlineExceeded)).serve handle (Fate.after 1 fates) (some state')).after message effects
      | .stop => ((next (.error .unavailable)).serve handle (Fate.after 1 fates) none).after message []
      | .crash => ((next (.error .unavailable)).serve handle (Fate.after 1 fates) none).after message []

/-- The process handles no call after its caller has given up. -/
def InTime (fates : Nat → Fate) : Prop := ∀ n, fates n ≠ .late

/-- The elements of a list, one call for each, whose calls come before the first that is not answered. -/
def beforeRefusal (fates : Nat → Fate) : List α → List α
  | [] => []
  | a :: rest => if fates 0 = .answered then a :: beforeRefusal (Fate.after 1 fates) rest else []

section Serve

variable {fates : Nat → Fate} {next : Except CallError Reply → Client Message Reply α} {reply : Reply}
  {effects : List Effect}

theorem Fate.after_after (first last : Nat) :
    Fate.after last (Fate.after first fates) = Fate.after (first + last) fates := by
  funext n
  exact congrArg fates (by omega)

theorem InTime.after (inTime : InTime fates) (count : Nat) : InTime (Fate.after count fates) :=
  fun n => inTime (n + count)

theorem InTime.refused (inTime : InTime fates) {n : Nat} (unanswered : fates n ≠ .answered) : fates n = .refused := by
  cases fate : fates n with
  | refused => rfl
  | answered => exact absurd fate unanswered
  | late => exact absurd fate (inTime n)

theorem serve_refused (refused : fates 0 = .refused) : (Client.call message next).serve handle fates (some state)
    = (next (.error .overloaded)).serve handle (Fate.after 1 fates) (some state) := by
  simp only [Client.serve, refused]

theorem serve_reply (answered : fates 0 = .answered) (handled : handle message state = .reply reply state' effects) :
    (Client.call message next).serve handle fates (some state)
      = ((next (.ok reply)).serve handle (Fate.after 1 fates) (some state')).after message effects := by
  simp only [Client.serve, answered, handled]

theorem serve_crash (answered : fates 0 = .answered) (handled : handle message state = .crash) :
    (Client.call message next).serve handle fates (some state)
      = ((next (.error .unavailable)).serve handle (Fate.after 1 fates) none).after message [] := by
  simp only [Client.serve, answered, handled]

@[simp] theorem serve_map (f : α → β) (client : Client Message Reply α) (fates : Nat → Fate) (process : Option State) :
    (client.map f).serve handle fates process
      = { client.serve handle fates process with value := f (client.serve handle fates process).value } := by
  induction client generalizing fates process with
  | done value => rfl
  | call message next ih =>
    rcases process with _ | state
    · exact ih _ _ _
    · simp only [Client.map, Client.serve]
      rcases fates 0 with _ | _ | _
      · exact ih _ _ _
      all_goals rcases handle message state with ⟨reply, state', effects⟩ | ⟨state', effects⟩ | _ | _
      all_goals simp [ih, Exchange.after]

/-- Calls that are all made, or all refused. -/
theorem exec_eq_serve (client : Client Message Reply α) (admitted : Bool) (process : Option State) :
    client.exec handle admitted process
      = client.serve handle (fun _ => if admitted then .answered else .refused) process := by
  induction client generalizing process with
  | done value => rfl
  | call message next ih =>
    rcases process with _ | state
    · exact ih _ _
    cases admitted with
    | false =>
      simp only [Client.exec, Client.serve, Bool.false_eq_true, if_false]
      exact ih _ _
    | true =>
      simp only [Client.exec, Client.serve, if_true]
      rcases handle message state with ⟨reply, state', effects⟩ | ⟨state', effects⟩ | _ | _ <;> simp only [ih] <;> rfl

theorem beforeRefusal_cons {a : α} {rest : List α} (answered : fates 0 = .answered) :
    beforeRefusal fates (a :: rest) = a :: beforeRefusal (Fate.after 1 fates) rest := by
  simp [beforeRefusal, answered]

theorem beforeRefusal_nil {rest : List α} (unanswered : fates 0 ≠ .answered) : beforeRefusal fates rest = [] := by
  cases rest with
  | nil => rfl
  | cons a rest => simp [beforeRefusal, unanswered]

end Serve

end Beam
