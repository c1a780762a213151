import Mathlib.Data.List.Induction

/-!
# A process that handles messages one at a time

A `GenServer` takes the messages of its mailbox in order. A handler answers with a new state, stops the
process, or raises because no clause matches; in the last two cases the process is gone. `run` folds a
handler over the messages that a process received, `none` once it is gone.
-/

namespace Beam

variable {Message State Reply Effect : Type}

/-- What a handler does with one message. -/
inductive Outcome (Reply State Effect : Type) where
  | reply (reply : Reply) (state : State) (effects : List Effect)
  | noreply (state : State) (effects : List Effect)
  | stop
  | crash
  deriving DecidableEq

namespace Outcome

/-- The state that the process goes on with. -/
def next? : Outcome Reply State Effect → Option State
  | .reply _ state _ => some state
  | .noreply state _ => some state
  | .stop => none
  | .crash => none

def effects : Outcome Reply State Effect → List Effect
  | .reply _ _ effects => effects
  | .noreply _ effects => effects
  | .stop => []
  | .crash => []

def reply? : Outcome Reply State Effect → Option Reply
  | .reply answer _ _ => some answer
  | .noreply _ _ => none
  | .stop => none
  | .crash => none

end Outcome

variable (handle : Message → State → Outcome Reply State Effect)

/-- The state after the messages, if the process is still there. -/
def run (start : State) (messages : List Message) : Option State :=
  messages.foldl (fun state message => state.bind fun state => (handle message state).next?) (some start)

variable {handle} {start state state' : State} {messages : List Message} {message : Message}

@[simp] theorem run_nil : run handle start [] = some start := rfl

theorem run_append (before after : List Message) : run handle start (before ++ after)
    = (run handle start before).bind fun state => run handle state after := by
  induction after using List.reverseRecOn with
  | nil => simp
  | append_singleton after message ih =>
    have last : ∀ s : State, run handle s (after ++ [message])
        = (run handle s after).bind fun state => (handle message state).next? := fun s => by
      simp [run, List.foldl_append]
    have first : run handle start (before ++ (after ++ [message]))
        = (run handle start (before ++ after)).bind fun state => (handle message state).next? := by
      rw [← List.append_assoc]
      simp [run, List.foldl_append]
    rw [first, ih, Option.bind_assoc]
    simp only [last]

theorem run_concat : run handle start (messages ++ [message])
    = (run handle start messages).bind fun state => (handle message state).next? := by
  rw [run_append]
  cases run handle start messages with
  | none => rfl
  | some state => simp [run]

theorem run_cons : run handle start (message :: messages)
    = (handle message start).next?.bind fun state => run handle state messages := by
  rw [← List.singleton_append, run_append]
  rfl

/-- The last message was handled in a state of the run. -/
theorem run_concat_eq_some : run handle start (messages ++ [message]) = some state' ↔
    ∃ state, run handle start messages = some state ∧ (handle message state).next? = some state' := by
  rw [run_concat, Option.bind_eq_some_iff]

/-- **Invariants.** What holds at the start and is kept by every message holds in every state. -/
theorem run_invariant {P : State → Prop} (first : P start)
    (keeps : ∀ state message state', P state → (handle message state).next? = some state' → P state') :
    run handle start messages = some state → P state := by
  induction messages using List.reverseRecOn generalizing state with
  | nil => exact fun same => Option.some.inj same ▸ first
  | append_singleton messages message ih =>
    intro ran
    obtain ⟨before, ran, stepped⟩ := run_concat_eq_some.1 ran
    exact keeps before message state (ih ran) stepped

/-- What an observer of every transition has seen. -/
def collect {α : Type} (handle : Message → State → Outcome Reply State Effect) (observe : State → State → List α) :
    State → List Message → List α
  | _, [] => []
  | state, message :: messages =>
    match (handle message state).next? with
    | none => []
    | some next => observe state next ++ collect handle observe next messages

theorem collect_append {α : Type} {observe : State → State → List α} (after : List Message)
    (ran : run handle start messages = some state) : collect handle observe start (messages ++ after)
      = collect handle observe start messages ++ collect handle observe state after := by
  induction messages generalizing start with
  | nil =>
    cases ran
    rfl
  | cons message messages ih =>
    rw [run_cons] at ran
    obtain ⟨next, stepped, ran⟩ := Option.bind_eq_some_iff.1 ran
    simp [collect, stepped, ih ran]

/-- What was seen was seen at a step of the run. -/
theorem mem_collect {α : Type} {observe : State → State → List α} {a : α} :
    a ∈ collect handle observe start messages ↔ ∃ before message state next, before ++ [message] <+: messages
      ∧ run handle start before = some state ∧ (handle message state).next? = some next ∧ a ∈ observe state next := by
  induction messages generalizing start with
  | nil => simp [collect]
  | cons first messages ih =>
    rcases stepped : (handle first start).next? with _ | next
    · simp only [collect, stepped, List.not_mem_nil, false_iff, not_exists, not_and]
      intro before message state after step ran
      rcases before with _ | ⟨earlier, before⟩
      · cases ran
        obtain ⟨rfl, _⟩ := List.cons_prefix_cons.1 step
        simp [stepped]
      · obtain ⟨rfl, _⟩ := List.cons_prefix_cons.1 step
        rw [run_cons, stepped] at ran
        cases ran
    · rw [collect, stepped, List.mem_append, ih]
      constructor
      · rintro (seen | ⟨before, message, state, after, step, ran, moved, seen⟩)
        · exact ⟨[], first, start, next, by simp, rfl, stepped, seen⟩
        · refine ⟨first :: before, message, state, after, by simpa using step, ?_, moved, seen⟩
          rw [run_cons, stepped]
          exact ran
      · rintro ⟨before, message, state, after, step, ran, moved, seen⟩
        rcases before with _ | ⟨earlier, before⟩
        · cases ran
          obtain ⟨rfl, _⟩ := List.cons_prefix_cons.1 step
          rw [stepped] at moved
          cases moved
          exact .inl seen
        · obtain ⟨rfl, rest⟩ := List.cons_prefix_cons.1 step
          rw [run_cons, stepped] at ran
          exact .inr ⟨before, message, state, after, rest, ran, moved, seen⟩

/-- The messages that the process took, each with the state that it found. -/
def visits (handle : Message → State → Outcome Reply State Effect) : State → List Message → List (Message × State)
  | _, [] => []
  | state, message :: messages =>
    (message, state) :: match (handle message state).next? with
      | none => []
      | some next => visits handle next messages

theorem visits_concat (ran : run handle start messages = some state) :
    visits handle start (messages ++ [message]) = visits handle start messages ++ [(message, state)] := by
  induction messages generalizing start with
  | nil =>
    cases ran
    simp only [List.nil_append, visits]
    split <;> rfl
  | cons first messages ih =>
    rw [run_cons] at ran
    obtain ⟨next, stepped, ran⟩ := Option.bind_eq_some_iff.1 ran
    simp [visits, stepped, ih ran]

/-- `C` holds whenever the process takes a message of the run. -/
def Along (handle : Message → State → Outcome Reply State Effect) (start : State) (C : Message → State → Prop)
    (messages : List Message) : Prop :=
  ∀ before message state, before ++ [message] <+: messages → run handle start before = some state → C message state

/-- `P` holds in every state of the run. -/
def Throughout (handle : Message → State → Outcome Reply State Effect) (start : State) (P : State → Prop)
    (messages : List Message) : Prop :=
  ∀ before state, before <+: messages → run handle start before = some state → P state

theorem Along.take {C : Message → State → Prop} {before : List Message} (along : Along handle start C messages)
    (earlier : before <+: messages) : Along handle start C before :=
  fun first message state step => along first message state (step.trans earlier)

section Exact

variable {L : Message → Prop} {C : Message → State → Prop} {P I : State → Prop}

/-- **Conditional invariants.** What the messages keep under `C` holds in a run along which `C` holds. -/
theorem run_invariant_along (first : I start) (allowed : ∀ message ∈ messages, L message)
    (keeps : ∀ message state state', L message → I state → C message state →
      (handle message state).next? = some state' → I state')
    (along : Along handle start C messages) (ran : run handle start messages = some state) : I state := by
  induction messages using List.reverseRecOn generalizing state with
  | nil => exact Option.some.inj ran ▸ first
  | append_singleton messages message ih =>
    obtain ⟨before, ran, stepped⟩ := run_concat_eq_some.1 ran
    have earlier := ih (fun message member => allowed message (List.mem_append_left _ member))
      (along.take (List.prefix_append _ _)) ran
    exact keeps message before state (allowed message (by simp)) earlier (along _ _ _ List.prefix_rfl ran) stepped

/-- **Exact conditions.** If `C` keeps an invariant that implies `P`, and a message that violates `C` leads to
a state without `P`, then `P` holds throughout a run exactly if `C` holds along it. -/
theorem throughout_iff_along (allowed : ∀ message ∈ messages, L message) (first : I start)
    (implies : ∀ state, I state → P state)
    (keeps : ∀ message state state', L message → I state → C message state →
      (handle message state).next? = some state' → I state')
    (breaks : ∀ message state, L message → I state → ¬ C message state →
      ∃ state', (handle message state).next? = some state' ∧ ¬ P state') :
    Throughout handle start P messages ↔ Along handle start C messages := by
  constructor
  · intro throughout
    -- Induction on the run: up to its last message `C` held along it, so the invariant holds there.
    induction messages using List.reverseRecOn with
    | nil => exact fun before message _ step => absurd (List.prefix_nil.1 step) (by simp)
    | append_singleton messages message ih =>
      have allowedBefore : ∀ message ∈ messages, L message :=
        fun message member => allowed message (List.mem_append_left _ member)
      have along := ih allowedBefore fun before state earlier =>
        throughout before state (earlier.trans (List.prefix_append _ _))
      intro before last state step ran
      rcases List.prefix_concat_iff.1 step with whole | earlier
      · obtain ⟨rfl, ⟨⟩⟩ := List.append_inj' whole rfl
        have invariant := run_invariant_along first allowedBefore keeps along ran
        by_contra violated
        obtain ⟨state', stepped, broken⟩ := breaks message state (allowed message (by simp)) invariant violated
        exact broken (throughout _ state' List.prefix_rfl (run_concat_eq_some.2 ⟨state, ran, stepped⟩))
      · exact along before last state earlier ran
  · intro along before state earlier ran
    refine implies state (run_invariant_along first (fun message member => ?_) keeps (along.take earlier) ran)
    exact allowed message (earlier.subset member)

end Exact

section Notes

variable {Notes : Type} (note : Message → State → Notes → Notes)

/-- The process with the notes that an observer makes of every message and the state that it found. -/
def noting (handle : Message → State → Outcome Reply State Effect) (message : Message) (state : State × Notes) :
    Outcome Reply (State × Notes) Effect :=
  let notes := note message state.1 state.2
  match handle message state.1 with
  | .reply reply next effects => .reply reply (next, notes) effects
  | .noreply next effects => .noreply (next, notes) effects
  | .stop => .stop
  | .crash => .crash

/-- The notes of a run. -/
def notes (handle : Message → State → Outcome Reply State Effect) (start : State) (first : Notes)
    (messages : List Message) : Notes :=
  (visits handle start messages).foldl (fun notes visit => note visit.1 visit.2 notes) first

variable {note} {first : Notes}

theorem noting_next? (state : State) (earlier : Notes) : (noting note handle message (state, earlier)).next?
    = (handle message state).next?.map fun next => (next, note message state earlier) := by
  unfold noting
  cases handle message state <;> rfl

theorem notes_concat (ran : run handle start messages = some state) :
    notes note handle start first (messages ++ [message])
      = note message state (notes note handle start first messages) := by
  rw [notes, visits_concat ran, List.foldl_append]
  rfl

/-- The observer changes nothing. -/
theorem run_noting : run (noting note handle) (start, first) messages
    = (run handle start messages).map fun state => (state, notes note handle start first messages) := by
  induction messages using List.reverseRecOn with
  | nil => rfl
  | append_singleton messages message ih =>
    rw [run_concat, run_concat, ih]
    rcases ran : run handle start messages with _ | state
    · rfl
    · rw [Option.map_some, Option.bind_some, Option.bind_some, noting_next?, notes_concat ran]

theorem throughout_noting {P : State × Notes → Prop} : Throughout (noting note handle) (start, first) P messages
    ↔ ∀ before state, before <+: messages → run handle start before = some state →
        P (state, notes note handle start first before) := by
  simp only [Throughout, run_noting, Option.map_eq_some_iff]
  constructor
  · exact fun holds before state earlier ran => holds before _ earlier ⟨state, ran, rfl⟩
  · rintro holds before _ earlier ⟨state, ran, rfl⟩
    exact holds before state earlier ran

theorem along_noting {C : Message → State × Notes → Prop} : Along (noting note handle) (start, first) C messages
    ↔ ∀ before message state, before ++ [message] <+: messages → run handle start before = some state →
        C message (state, notes note handle start first before) := by
  simp only [Along, run_noting, Option.map_eq_some_iff]
  constructor
  · exact fun holds before message state earlier ran => holds before message _ earlier ⟨state, ran, rfl⟩
  · rintro holds before message _ earlier ⟨state, ran, rfl⟩
    exact holds before message state earlier ran

end Notes

end Beam
