import Liqi.Postgres.Program
import Mathlib.Logic.Function.Basic

/-!
# Transactions side by side

Transactions execute their programs one statement at a time at READ COMMITTED: a statement sees
the committed database and its own transaction's writes. Locks, and the unique index entries of
inserted rows, are held until the transaction ends; a statement that needs a lock of another
transaction waits. A raised error or an abort drops the writes, a commit applies them in one step.

`Verified` is a rely-guarantee reading of a program: between two statements other transactions may
commit any writes, but none that touches a lock held here (`Undisturbed`). `verified_world` turns
it, program by program, into an invariant of every interleaving.
-/

namespace Postgres

open Store

variable {Call Db Write Lock Err α β : Type}

/-- An open transaction. -/
structure Session (Call Db Write Lock Err α : Type) where
  call : Call
  program : Program Db Write Lock Err α
  writes : List Write
  held : List Lock

inductive Ending (Err α : Type) where
  | committed (result : α)
  | raised (error : Err)
  | aborted
  deriving DecidableEq

/-- The committed database, the open transactions, and how each finished one ended. -/
structure World (Call Db Write Lock Err α : Type) where
  db : Db
  active : Nat → Option (Session Call Db Write Lock Err α)
  history : List (Call × Ending Err α)

inductive Action (Call : Type) where
  | start (t : Nat) (call : Call)
  | execute (t : Nat)
  | commit (t : Nat)
  | fail (t : Nat)
  | abort (t : Nat)

/-- Removing a transaction keeps the others as they were. -/
theorem update_none_some {w : World Call Db Write Lock Err α} {t u : Nat} {s : Session Call Db Write Lock Err α}
    (h : Function.update w.active t none u = some s) : u ≠ t ∧ w.active u = some s := by
  by_cases e : u = t
  · subst e; simp at h
  · exact ⟨e, by simpa [Function.update, e] using h⟩

variable [Store Db Write Lock]

/-- The next statement of `s` needs none of another transaction's locks. -/
def Unblocked (w : World Call Db Write Lock Err α) (t : Nat) (locks : List Lock) : Prop :=
  ∀ t' s', t' ≠ t → w.active t' = some s' → ∀ l ∈ locks, l ∉ s'.held

inductive Step (body : Call → Program Db Write Lock Err α) :
    World Call Db Write Lock Err α → Action Call → World Call Db Write Lock Err α → Prop where
  | start {w t call} (idle : w.active t = none) :
      Step body w (.start t call)
        { w with active := Function.update w.active t (some ⟨call, body call, [], []⟩) }
  | execute {w t s locks writes next} (active : w.active t = some s) (at_ : s.program = .stmt locks writes next)
      (unblocked : Unblocked w t (locks (applyAll w.db s.writes))) :
      Step body w (.execute t)
        { w with active := Function.update w.active t (some
            { s with
              program := next (applyAll w.db s.writes)
              writes := s.writes ++ writes (applyAll w.db s.writes)
              held := s.held ++ locks (applyAll w.db s.writes) }) }
  | commit {w t s a} (active : w.active t = some s) (at_ : s.program = .done (.ok a)) :
      Step body w (.commit t)
        { db := applyAll w.db s.writes
          active := Function.update w.active t none
          history := w.history ++ [(s.call, .committed a)] }
  | fail {w t s e} (active : w.active t = some s) (at_ : s.program = .done (.error e)) :
      Step body w (.fail t)
        { w with
          active := Function.update w.active t none
          history := w.history ++ [(s.call, .raised e)] }
  | abort {w t s} (active : w.active t = some s) :
      Step body w (.abort t)
        { w with
          active := Function.update w.active t none
          history := w.history ++ [(s.call, .aborted)] }

/-- No transaction has started yet. -/
def World.initial (db : Db) : World Call Db Write Lock Err α := ⟨db, fun _ => none, []⟩

inductive Reachable (body : Call → Program Db Write Lock Err α) (db : Db) :
    World Call Db Write Lock Err α → Prop where
  | initial : Reachable body db (.initial db)
  | step {w a w'} : Reachable body db w → Step body w a w' → Reachable body db w'

/-- `db'` follows `db` by writes of others, none of which touches a lock in `held`. -/
inductive Undisturbed (held : List Lock) : Db → Db → Prop where
  | refl (db : Db) : Undisturbed held db db
  | write {db db' : Db} {w : Write} : Undisturbed held db db' → (∀ l ∈ touches Db w, l ∉ held) →
      Undisturbed held db (apply db' w)

variable {held : List Lock} {db : Db}

variable {db' : Db}

theorem Undisturbed.trans {db'' : Db} (first : Undisturbed held db db') (last : Undisturbed held db' db'') :
    Undisturbed held db db'' := by
  induction last with
  | refl => exact first
  | write _ clear ih => exact .write ih clear

variable {ws : List Write}

theorem Undisturbed.applyAll (h : Undisturbed held db db') (clear : ∀ w ∈ ws, ∀ l ∈ touches Db w, l ∉ held) :
    Undisturbed held db (applyAll db' ws) := by
  induction ws generalizing db' with
  | nil => exact h
  | cons w ws ih =>
    exact ih (.write h (clear w (by simp))) fun u hu => clear u (by simp [hu])

theorem Undisturbed.mono {held' : List Lock} (h : Undisturbed held db db') (sub : ∀ l ∈ held', l ∈ held) :
    Undisturbed held' db db' := by
  induction h with
  | refl => exact .refl _
  | write _ clear ih => exact .write ih fun l hl mem => clear l hl (sub l mem)

/-- A fact that every write outside the held locks keeps is kept between two statements. -/
theorem Undisturbed.stable (h : Undisturbed held db db') {P : Db → Prop}
    (keeps : ∀ (d : Db) (w : Write), P d → (∀ l ∈ touches Db w, l ∉ held) → P (apply d w)) (start : P db) :
    P db' := by
  induction h with
  | refl => exact start
  | write _ clear ih => exact keeps _ _ ih clear

/-- The rest of a program is safe under the invariant `I`, from the committed database `db` its last
statement saw: each write is covered by a lock held by then, and the ending meets `Q`. -/
def Program.Safe (I : Db → Prop) (Q : Except Err α → List Lock → List Write → Db → Prop) :
    Program Db Write Lock Err α → List Lock → List Write → Db → Prop
  | .done r, held, ws, db => Q r held ws db
  | .stmt locks writes next, held, ws, db =>
    ∀ now, Undisturbed held db now → I now →
      (∀ w ∈ writes (Store.applyAll now ws), ∀ l ∈ touches Db w, l ∈ held ++ locks (Store.applyAll now ws)) ∧
      (next (Store.applyAll now ws)).Safe I Q (held ++ locks (Store.applyAll now ws))
        (ws ++ writes (Store.applyAll now ws)) now

variable {I : Db → Prop} {Q : Except Err α → List Lock → List Write → Db → Prop}

theorem Program.Safe.mono {R : Except Err α → List Lock → List Write → Db → Prop} {p : Program Db Write Lock Err α}
    (weaker : ∀ r held ws db, Q r held ws db → R r held ws db) :
    ∀ {held ws db}, p.Safe I Q held ws db → p.Safe I R held ws db := by
  induction p with
  | done r => exact fun h => weaker _ _ _ _ h
  | stmt locks writes next ih =>
    intro held ws db h now since inv
    obtain ⟨covered, rest⟩ := h now since inv
    exact ⟨covered, ih _ rest⟩

theorem Program.Safe.query {next : Db → Program Db Write Lock Err α}
    (h : ∀ now, Undisturbed held db now → I now → (next (Store.applyAll now ws)).Safe I Q held ws now) :
    (Program.query next).Safe I Q held ws db := by
  intro now since inv
  refine ⟨fun w hw => absurd hw List.not_mem_nil, ?_⟩
  simpa using h now since inv

theorem Program.Safe.lock {next : Program Db Write Lock Err α} {l : Lock}
    (h : ∀ now, Undisturbed held db now → I now → next.Safe I Q (held ++ [l]) ws now) :
    (Program.lock l next).Safe I Q held ws db := by
  intro now since inv
  refine ⟨fun w hw => absurd hw List.not_mem_nil, ?_⟩
  simpa using h now since inv

theorem Program.Safe.insert {ρ : Type} {I : Db → Prop} {Q : Except Err α → List Lock → List Write → Db → Prop}
    {attempt : Db → Except Err (Option ρ)} {keys : ρ → List Lock} {write : ρ → Write}
    {next : Option ρ → Program Db Write Lock Err α} {held : List Lock} {ws : List Write} {db : Db}
    (h : ∀ now, Undisturbed held db now → I now → match attempt (Store.applyAll now ws) with
      | .error e => Q (.error e) held ws now
      | .ok none => (next none).Safe I Q held ws now
      | .ok (some row) => (∀ l ∈ touches Db (write row), l ∈ held ++ keys row) ∧
          (next (some row)).Safe I Q (held ++ keys row) (ws ++ [write row]) now) :
    (Program.insert attempt keys write next).Safe I Q held ws db := by
  intro now since inv
  have outcome := h now since inv
  dsimp only
  rcases attempted : attempt (Store.applyAll now ws) with e | _ | row
  · rw [attempted] at outcome
    exact ⟨fun w hw => absurd hw List.not_mem_nil, by simpa [Program.Safe] using outcome⟩
  · rw [attempted] at outcome
    exact ⟨fun w hw => absurd hw List.not_mem_nil, by simpa using outcome⟩
  · rw [attempted] at outcome
    refine ⟨fun w hw => ?_, outcome.2⟩
    obtain rfl : w = write row := by simpa using hw
    exact outcome.1

theorem Program.Safe.exec {I : Db → Prop} {Q : Except Err α → List Lock → List Write → Db → Prop}
    {effect : Db → Except Err (β × List Write)} {next : β → Program Db Write Lock Err α} {held : List Lock}
    {ws : List Write} {db : Db}
    (h : ∀ now, Undisturbed held db now → I now → match effect (Store.applyAll now ws) with
      | .error e => Q (.error e) held ws now
      | .ok (b, more) => (next b).Safe I Q (held ++ more.flatMap (touches Db)) (ws ++ more) now) :
    (Program.exec effect next).Safe I Q held ws db := by
  intro now since inv
  have outcome := h now since inv
  dsimp only [Program.written]
  rcases effected : effect (Store.applyAll now ws) with e | ⟨b, more⟩
  · rw [effected] at outcome
    exact ⟨fun w hw => absurd hw List.not_mem_nil, by simpa [Program.Safe] using outcome⟩
  · rw [effected] at outcome
    refine ⟨fun w hw l hl => ?_, outcome⟩
    exact List.mem_append_right _ (List.mem_flatMap.2 ⟨w, hw, hl⟩)

/-- Sequencing: the callee's ending is where the caller goes on. -/
theorem Program.Safe.bind {Q : Except Err β → List Lock → List Write → Db → Prop} {p : Program Db Write Lock Err α}
    {f : α → Program Db Write Lock Err β} :
    ∀ {held ws db},
      p.Safe I (fun r held ws db => match r with
        | .ok a => (f a).Safe I Q held ws db
        | .error e => Q (.error e) held ws db) held ws db →
      (p.bind f).Safe I Q held ws db := by
  induction p with
  | done r => cases r <;> exact fun h => h
  | stmt locks writes next ih =>
    intro held ws db h now since inv
    obtain ⟨covered, rest⟩ := h now since inv
    exact ⟨covered, ih _ rest⟩

/-- What a call promises at its end, in the database it ends in. -/
structure Promise (Call Db Write Err α : Type) where
  commits : Call → α → Db → List Write → Prop
  raises : Call → Err → Db → Prop

/-- The ending condition that `Safe` carries for a promise. -/
def Promise.ending (P : Promise Call Db Write Err α) (I : Db → Prop) (call : Call) :
    Except Err α → List Lock → List Write → Db → Prop :=
  fun r held ws db => ∀ now, Undisturbed held db now → I now →
    match r with
    | .ok a => I (Store.applyAll now ws) ∧ P.commits call a now ws
    | .error e => P.raises call e now

/-- Every call, started in any database of the invariant, is safe to its end. -/
def Verified (body : Call → Program Db Write Lock Err α) (I : Db → Prop) (P : Promise Call Db Write Err α) : Prop :=
  ∀ call db, I db → (body call).Safe I (P.ending I call) [] [] db

/-- The invariant of an interleaving: locks are exclusive, and each open transaction is safe from
the database it last saw. -/
structure Sound (I : Db → Prop) (P : Promise Call Db Write Err α) (w : World Call Db Write Lock Err α) : Prop where
  inv : I w.db
  exclusive : ∀ {t t' s s'}, t ≠ t' → w.active t = some s → w.active t' = some s' → ∀ l ∈ s.held, l ∉ s'.held
  covered : ∀ {t s}, w.active t = some s → ∀ u ∈ s.writes, ∀ l ∈ touches Db u, l ∈ s.held
  safe : ∀ {t s}, w.active t = some s →
    ∃ seen, Undisturbed s.held seen w.db ∧ s.program.Safe I (P.ending I s.call) s.held s.writes seen

section Soundness

variable {body : Call → Program Db Write Lock Err α} {I : Db → Prop} {P : Promise Call Db Write Err α}
  {w w' : World Call Db Write Lock Err α}

theorem Sound.remove (sound : Sound I P w) (t : Nat) (history : List (Call × Ending Err α)) :
    Sound I P { w with active := Function.update w.active t none, history := history } where
  inv := sound.inv
  exclusive ne h h' := sound.exclusive ne (update_none_some h).2 (update_none_some h').2
  covered h := sound.covered (update_none_some h).2
  safe h := sound.safe (update_none_some h).2

variable {s : Session Call Db Write Lock Err α}

variable {t : Nat}

theorem Sound.commit (sound : Sound I P w) {a : α} (active : w.active t = some s) (at_ : s.program = .done (.ok a)) :
    (I (applyAll w.db s.writes) ∧ P.commits s.call a w.db s.writes) ∧
    ∀ history, Sound I P ⟨applyAll w.db s.writes, Function.update w.active t none, history⟩ := by
  obtain ⟨seen, since, safe⟩ := sound.safe active
  rw [at_] at safe
  have ending := safe w.db since sound.inv
  refine ⟨ending, fun history => ⟨ending.1, ?_, ?_, ?_⟩⟩
  · intro _ _ _ _ ne h h'
    exact sound.exclusive ne (update_none_some h).2 (update_none_some h').2
  · intro _ _ h
    exact sound.covered (update_none_some h).2
  · intro u s' h
    obtain ⟨ne, h⟩ := update_none_some h
    obtain ⟨seen', since', safe'⟩ := sound.safe h
    refine ⟨seen', since'.applyAll ?_, safe'⟩
    intro x hx l hl mem
    exact sound.exclusive (fun e => ne e.symm) active h l (sound.covered active x hx l hl) mem

/-- A transaction may be put in the place of another if it is safe and its locks are its own. -/
theorem Sound.put (sound : Sound I P w)
    (exclusive : ∀ t' s', t' ≠ t → w.active t' = some s' → ∀ l ∈ s.held, l ∉ s'.held)
    (covered : ∀ u ∈ s.writes, ∀ l ∈ touches Db u, l ∈ s.held) {seen : Db} (since : Undisturbed s.held seen w.db)
    (safe : s.program.Safe I (P.ending I s.call) s.held s.writes seen) :
    Sound I P { w with active := Function.update w.active t (some s) } := by
  have cases : ∀ {u r}, Function.update w.active t (some s) u = some r → u = t ∧ r = s ∨ u ≠ t ∧ w.active u = some r := by
    intro u r active
    by_cases same : u = t
    · exact .inl ⟨same, by simpa [same, eq_comm] using active⟩
    · exact .inr ⟨same, by simpa [same] using active⟩
  refine ⟨sound.inv, ?_, ?_, ?_⟩
  · intro u u' r r' ne hu hu' l hl mem
    rcases cases hu with ⟨rfl, rfl⟩ | ⟨away, first⟩
    · rcases cases hu' with ⟨same, _⟩ | ⟨away, other⟩
      · exact ne same.symm
      · exact exclusive u' r' away other l hl mem
    · rcases cases hu' with ⟨_, rfl⟩ | ⟨_, other⟩
      · exact exclusive u r away first l mem hl
      · exact sound.exclusive ne first other l hl mem
  · intro u r hu
    rcases cases hu with ⟨_, rfl⟩ | ⟨_, old⟩
    · exact covered
    · exact sound.covered old
  · intro u r hu
    rcases cases hu with ⟨_, rfl⟩ | ⟨_, old⟩
    · exact ⟨seen, since, safe⟩
    · exact sound.safe old

theorem Sound.execute (sound : Sound I P w) {locks : Db → List Lock} {writes : Db → List Write}
    {next : Db → Program Db Write Lock Err α} (active : w.active t = some s)
    (at_ : s.program = .stmt locks writes next) (unblocked : Unblocked w t (locks (applyAll w.db s.writes))) :
    Sound I P { w with active := Function.update w.active t (some
      { s with
        program := next (applyAll w.db s.writes)
        writes := s.writes ++ writes (applyAll w.db s.writes)
        held := s.held ++ locks (applyAll w.db s.writes) }) } := by
  obtain ⟨seen, since, safe⟩ := sound.safe active
  rw [at_] at safe
  obtain ⟨covered, rest⟩ := safe w.db since sound.inv
  refine sound.put ?_ ?_ (.refl _) rest
  · intro t' s' away other l hl
    rcases List.mem_append.1 hl with old | new
    · exact sound.exclusive away.symm active other l old
    · exact unblocked t' s' away other l new
  · intro u hu l hl
    rcases List.mem_append.1 hu with old | new
    · exact List.mem_append_left _ (sound.covered active u old l hl)
    · exact covered u new l hl

theorem Sound.start (sound : Sound I P w) (verified : Verified body I P) (call : Call) :
    Sound I P { w with active := Function.update w.active t (some ⟨call, body call, [], []⟩) } :=
  sound.put (fun _ _ _ _ _ mem => absurd mem List.not_mem_nil) (fun _ mem => absurd mem List.not_mem_nil) (.refl _)
    (verified call w.db sound.inv)

theorem Sound.step (sound : Sound I P w) (verified : Verified body I P) {a : Action Call}
    (step : Step body w a w') : Sound I P w' := by
  cases step with
  | start => exact sound.start verified _
  | execute active at_ unblocked => exact sound.execute active at_ unblocked
  | commit active at_ => exact (sound.commit active at_).2 _
  | fail | abort => exact sound.remove _ _

/-- **Soundness.** Verified calls keep the invariant in every interleaving. -/
theorem verified_world (verified : Verified body I P) {db : Db} (start : I db) (reached : Reachable body db w) :
    Sound I P w := by
  induction reached with
  | initial =>
    refine ⟨start, ?_, ?_, ?_⟩
    · intro _ _ _ _ _ h; cases h
    · intro _ _ h; cases h
    · intro _ _ h; cases h
  | step _ step ih => exact ih.step verified step

/-- What holds when a call raises. -/
theorem Sound.raises (sound : Sound I P w) {e : Err} (active : w.active t = some s)
    (at_ : s.program = .done (.error e)) : P.raises s.call e w.db := by
  obtain ⟨seen, since, safe⟩ := sound.safe active
  rw [at_] at safe
  exact safe w.db since sound.inv

end Soundness

/-! ## One transaction at a time -/

section Alone

variable {body : Call → Program Db Write Lock Err α} {start : Db}

/-- The world once a call that ran with no other transaction about has ended. -/
def World.after (db : Db) (history : List (Call × Ending Err α)) (call : Call) :
    Except Err (α × Db) → World Call Db Write Lock Err α
  | .ok (a, db') => ⟨db', fun _ => none, history ++ [(call, .committed a)]⟩
  | .error e => ⟨db, fun _ => none, history ++ [(call, .raised e)]⟩

omit [Store Db Write Lock] in
/-- Without other transactions there are no locks. -/
theorem free_of_alone : ∀ (t : Nat) (s : Session Call Db Write Lock Err α), (fun _ : Nat => none) t = some s →
    s.held = [] := fun _ _ active => by cases active

/-- A transaction executes its next statement while the others hold no locks. -/
theorem Reachable.execute {t : Nat} {db : Db} {call : Call} {history : List (Call × Ending Err α)}
    {others : Nat → Option (Session Call Db Write Lock Err α)} (free : ∀ t' s', others t' = some s' → s'.held = [])
    {locks : Db → List Lock} {writes : Db → List Write} {next : Db → Program Db Write Lock Err α} {ws : List Write}
    {held : List Lock}
    (reached : Reachable body start
      ⟨db, Function.update others t (some ⟨call, .stmt locks writes next, ws, held⟩), history⟩) :
    Reachable body start ⟨db, Function.update others t (some ⟨call, next (applyAll db ws),
      ws ++ writes (applyAll db ws), held ++ locks (applyAll db ws)⟩), history⟩ := by
  let s : Session Call Db Write Lock Err α := ⟨call, .stmt locks writes next, ws, held⟩
  have unblocked : Unblocked ⟨db, Function.update others t (some s), history⟩ t (locks (applyAll db ws)) := by
    intro t' s' other active l _ locked
    rw [free t' s' (by simpa [Function.update, other] using active)] at locked
    cases locked
  have executed := reached.step (.execute (Function.update_self t (some s) others) rfl unblocked)
  rwa [Function.update_idem] at executed

variable {history : List (Call × Ending Err α)}

/-- A transaction runs to its end as `run` says while the others hold no locks. -/
theorem Reachable.finish {t : Nat} {db : Db} {call : Call} {others : Nat → Option (Session Call Db Write Lock Err α)}
    (free : ∀ t' s', others t' = some s' → s'.held = []) (idle : others t = none) {p : Program Db Write Lock Err α} :
    ∀ {ws held}, Reachable body start ⟨db, Function.update others t (some ⟨call, p, ws, held⟩), history⟩ →
      Reachable body start (match p.run (applyAll db ws) with
        | .ok (a, db') => ⟨db', others, history ++ [(call, .committed a)]⟩
        | .error e => ⟨db, others, history ++ [(call, .raised e)]⟩) := by
  have removed (s : Option (Session Call Db Write Lock Err α)) :
      Function.update (Function.update others t s) t none = others := by
    rw [Function.update_idem, Function.update_eq_self_iff.2 idle.symm]
  induction p with
  | done result =>
    intro ws held reached
    let s : Session Call Db Write Lock Err α := ⟨call, .done result, ws, held⟩
    have active : Function.update others t (some s) t = some s := Function.update_self t (some s) others
    cases result with
    | ok a =>
      have ended := reached.step (.commit active rfl)
      rwa [removed] at ended
    | error e =>
      have ended := reached.step (.fail active rfl)
      rwa [removed] at ended
  | stmt locks writes next ih =>
    intro ws held reached
    have rest := ih _ (reached.execute free)
    rw [applyAll_append] at rest
    exact rest

/-- A transaction that commits. -/
theorem Reachable.commit {t : Nat} {db db' : Db} {call : Call} {a : α}
    {others : Nat → Option (Session Call Db Write Lock Err α)} (free : ∀ t' s', others t' = some s' → s'.held = [])
    (idle : others t = none) {p : Program Db Write Lock Err α} {ws : List Write} {held : List Lock}
    (reached : Reachable body start ⟨db, Function.update others t (some ⟨call, p, ws, held⟩), history⟩)
    (ran : p.run (applyAll db ws) = .ok (a, db')) :
    Reachable body start ⟨db', others, history ++ [(call, .committed a)]⟩ := by
  have ended := reached.finish free idle
  rwa [ran] at ended

/-- **Solo runs.** Calls made one after another are one of the interleavings, and each ends as `run` says. -/
theorem Reachable.call {db : Db} (reached : Reachable body start ⟨db, fun _ => none, history⟩) (call : Call) :
    Reachable body start (World.after db history call ((body call).run db)) := by
  have opened : Step body ⟨db, fun _ => none, history⟩ (.start 0 call) _ := .start rfl
  have ended := (reached.step opened).finish free_of_alone rfl
  rw [applyAll_nil] at ended
  generalize (body call).run db = result at ended ⊢
  cases result <;> exact ended

end Alone

end Postgres
