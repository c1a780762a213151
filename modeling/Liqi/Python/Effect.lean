import Mathlib.Data.List.Basic

/-!
# Scripts with effects

A script that changes a state and may raise. What was changed before an exception stays changed, also where the exception
is caught; a specification therefore says what holds where the script returns and what holds where it raises.
-/

namespace Python

/-- `ε` is what the script raises, `σ` what it changes. -/
abbrev Effect (ε σ : Type) := ExceptT ε (StateM σ)

namespace Effect

variable {ε σ τ α β : Type}

/-- The end of a script: what it returned or raised, and the state it left. -/
def exec (x : Effect ε σ α) (s : σ) : Except ε α × σ := x.run.run s

/-- A script that changes a part of a larger state. -/
def zoom (view : τ → σ) (put : τ → σ → τ) (x : Effect ε σ α) : Effect ε τ α :=
  fun t => let (ended, s) := x.exec (view t); (ended, put t s)

/-- From a state with `P` the script returns with `Q` or raises with `R`. -/
def Spec (P : σ → Prop) (x : Effect ε σ α) (Q : α → σ → Prop) (R : σ → Prop) : Prop :=
  ∀ s, P s → match x.exec s with
    | (.ok a, s') => Q a s'
    | (.error _, s') => R s'

section Rules

variable {P P' : σ → Prop} {Q Q' : α → σ → Prop} {R R' : σ → Prop} {x : Effect ε σ α}

theorem Spec.mono (spec : Spec P x Q R) (before : ∀ s, P' s → P s) (returns : ∀ a s, Q a s → Q' a s)
    (raises : ∀ s, R s → R' s) : Spec P' x Q' R' := by
  intro s start
  have ended := spec s (before s start)
  rcases ran : x.exec s with ⟨_ | a, s'⟩
  · rw [ran] at ended
    exact raises s' ended
  · rw [ran] at ended
    exact returns a s' ended

theorem Spec.pure {a : α} (holds : ∀ s, P s → Q a s) : Spec P (Pure.pure a : Effect ε σ α) Q R :=
  holds

theorem Spec.throw {e : ε} (holds : ∀ s, P s → R s) : Spec P (throw e : Effect ε σ α) Q R :=
  holds

theorem Spec.modify {f : σ → σ} {Q : PUnit → σ → Prop} (holds : ∀ s, P s → Q ⟨⟩ (f s)) :
    Spec P (modify f : Effect ε σ PUnit) Q R :=
  holds

theorem exec_bind (f : α → Effect ε σ β) (s : σ) : (x >>= f).exec s = match x.exec s with
    | (.ok a, s') => (f a).exec s'
    | (.error e, s') => (.error e, s') := by
  unfold exec
  rw [ExceptT.run_bind, StateT.run_bind]
  generalize x.run.run s = ended
  rcases ended with ⟨_ | a, s'⟩ <;> rfl

theorem exec_tryCatch (handler : ε → Effect ε σ α) (s : σ) : (tryCatch x handler).exec s = match x.exec s with
    | (.ok a, s') => (.ok a, s')
    | (.error e, s') => (handler e).exec s' := by
  have split : (tryCatch x handler).exec s = StateT.run (ExceptT.tryCatch x handler) s := rfl
  have first : x.exec s = StateT.run x s := rfl
  rw [split, ExceptT.tryCatch, ExceptT.mk, StateT.run_bind, first]
  generalize StateT.run x s = ended
  rcases ended with ⟨_ | a, s'⟩ <;> rfl

/-- A second script starts where the first has returned, and what the first raises is raised. -/
theorem Spec.bind {f : α → Effect ε σ β} {Q' : β → σ → Prop} (first : Spec P x Q R)
    (second : ∀ a, Spec (Q a) (f a) Q' R) : Spec P (x >>= f) Q' R := by
  intro s start
  have ended := first s start
  rw [exec_bind]
  rcases ran : x.exec s with ⟨_ | a, s'⟩
  · rw [ran] at ended
    exact ended
  · rw [ran] at ended
    exact second a s' ended

/-- A handler starts in the state that the exception has left. -/
theorem Spec.tryCatch {handler : ε → Effect ε σ α} (body : Spec P x Q R') (caught : ∀ e, Spec R' (handler e) Q R) :
    Spec P (tryCatch x handler) Q R := by
  intro s start
  have ended := body s start
  rw [exec_tryCatch]
  rcases ran : x.exec s with ⟨e | a, s'⟩
  · rw [ran] at ended
    exact caught e s' ended
  · rw [ran] at ended
    exact ended

/-- What a script establishes for its part holds of that part, and what does not depend on the part stays. -/
theorem Spec.zoom {view : τ → σ} {put : τ → σ → τ} {K : τ → Prop} (same : ∀ t s, view (put t s) = s)
    (kept : ∀ t s, K t → K (put t s)) (spec : Spec P x Q R) :
    Spec (fun t => P (view t) ∧ K t) (x.zoom view put) (fun a t => Q a (view t) ∧ K t) fun t => R (view t) ∧ K t := by
  rintro t ⟨start, other⟩
  have ended := spec (view t) start
  have zoomed : (x.zoom view put).exec t = ((x.exec (view t)).1, put t (x.exec (view t)).2) := rfl
  rw [zoomed]
  generalize x.exec (view t) = result at ended
  rcases result with ⟨_ | a, s⟩
  · exact ⟨(same t s).symm ▸ ended, kept t s other⟩
  · exact ⟨(same t s).symm ▸ ended, kept t s other⟩

theorem Spec.get {Q : σ → σ → Prop} (holds : ∀ s, P s → Q s s) : Spec P (get : Effect ε σ σ) Q R :=
  holds

theorem Spec.set {s' : σ} {Q : PUnit → σ → Prop} (holds : ∀ s, P s → Q ⟨⟩ s') : Spec P (set s' : Effect ε σ PUnit) Q R :=
  holds

theorem Spec.mapM_from {f : α → Effect ε σ β} {I : List α → σ → Prop} (xs done : List α)
    (step : ∀ done, ∀ x ∈ xs, Spec (I done) (f x) (fun _ => I (done ++ [x])) R) :
    Spec (I done) (xs.mapM f) (fun _ => I (done ++ xs)) R := by
  induction xs generalizing done with
  | nil =>
    rw [List.mapM_nil, List.append_nil]
    exact Spec.pure fun _ => id
  | cons x xs ih =>
    rw [List.mapM_cons]
    refine (step done x List.mem_cons_self).bind fun _ => ?_
    have rest := ih (done ++ [x]) fun done y later => step done y (List.mem_cons_of_mem _ later)
    rw [List.append_assoc] at rest
    exact rest.bind fun _ => Spec.pure fun _ => id

/-- A loop with an invariant over the elements that are done. -/
theorem Spec.mapM {f : α → Effect ε σ β} {I : List α → σ → Prop} {xs : List α}
    (step : ∀ done, ∀ x ∈ xs, Spec (I done) (f x) (fun _ => I (done ++ [x])) R) :
    Spec (I []) (xs.mapM f) (fun _ => I xs) R :=
  Spec.mapM_from xs [] step

end Rules

end Effect

end Python
