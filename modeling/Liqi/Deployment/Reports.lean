import Liqi.Deployment.Selection

/-!
# What release control reports

The documents of a run against the host it leaves. Commands change the host and nothing of the documents, so up to its
last step an operation can still be reported as anything; `Truthful` is what the last step establishes.
-/

namespace Liqi.Deployment

open Python Python.Effect

variable {world : World} {args : Args} {plan : Plan} {systemctl : String}

/-- The release runs; without one, none does. -/
def Settled : Option Release → Host → Prop
  | some release => Running release
  | none => Deactivated

/-- The document names the releases of the plan. -/
structure Named (plan : Plan) (document : ActivationDoc) : Prop where
  target : plan.targetId = some document.releaseId
  previous : document.previousReleaseId = plan.currentId

/-- Nothing has been reported yet. -/
structure Unreported (plan : Plan) (run : Run) : Prop where
  named : ∀ document ∈ run.activation, Named plan document
  activation : ∀ document ∈ run.activation, document.status ≠ .passed ∧ document.state ≠ .rolledBack
  rollback : run.rollback.status ≠ .passed

/-- What is reported holds. -/
structure Truthful (args : Args) (plan : Plan) (run : Run) : Prop where
  named : ∀ document ∈ run.activation, Named plan document
  passed : ∀ document ∈ run.activation, document.status = .passed → ∃ target ∈ plan.target, Running target run.host
  rolledBack : ∀ document ∈ run.activation, document.state = .rolledBack → Settled plan.current run.host
  rollback : args.mode = .rollback → run.rollback.status = .passed → Settled plan.target run.host

/-! ### Operations on the host -/

section Host

variable {P R : Host → Prop} {current : Option Release} {release target : Release}

theorem monotonic_spec (kept : ∀ host tick, P host → P { host with tick }) :
    Spec P (monotonic world) (fun _ => P) R := by
  refine (Spec.get (Q := fun host now => P host ∧ now = host) fun host start => ⟨start, rfl⟩).bind fun host => ?_
  refine (Spec.set (Q := fun _ => P) fun _ start => kept host _ start.1).bind fun _ => ?_
  exact Spec.pure fun _ => id

variable {host : Host}

theorem Running.withTick (running : Running release host) (tick : Nat) :
    Running release { host with tick } :=
  ⟨running.links, running.active, running.only, running.healthy⟩

theorem Own.between (own : Own current host) : Between current target host :=
  fun unit process running => .inr (own unit process running)

theorem Own.target_between (own : Own (some target) host) : Between current target host := by
  intro unit process running
  obtain ⟨_, same, member, _⟩ := own unit process running
  cases same
  exact .inl member

theorem Running.own (running : Running release host) : Own (some release) host := by
  intro unit process held
  have member : unit ∈ release.units := by
    by_contra stranger
    rw [running.only unit stranger] at held
    cases held
  obtain ⟨other, held', selected⟩ := running.active unit member
  rw [held] at held'
  cases held'
  exact ⟨release, rfl, member, selected⟩

/-- A release that is alone is stopped altogether. -/
theorem stopOwn_spec {drain : Bool} :
    Spec (Own (some release)) (stopRelease world release systemctl drain) (fun _ host => host.units = fun _ => none)
      (Own (some release)) := by
  intro host own
  have stop : Spec (Fewer host.units) (stopRelease world release systemctl drain) _ _ := stopRelease_spec
  refine stop.mono (fun _ => id) ?_ ?_ host fun _ _ => id
  · rintro _ now ⟨fewer, stopped⟩
    refine funext fun unit => Option.eq_none_iff_forall_ne_some.2 fun process running => ?_
    obtain ⟨_, same, member, _⟩ := own unit process (fewer unit process running)
    cases same
    rw [stopped unit member] at running
    cases running
  · exact fun now fewer unit process running => own unit process (fewer unit process running)

/-- Without the units of the target, only the current release's own are left. -/
theorem stopTarget_spec {drain : Bool} :
    Spec (Between current target) (stopRelease world target systemctl drain) (fun _ => Own current) fun _ => True := by
  intro host between
  have stop : Spec (Fewer host.units) (stopRelease world target systemctl drain) _ _ := stopRelease_spec
  refine stop.mono (fun _ => id) ?_ (fun _ _ => trivial) host fun _ _ => id
  · rintro _ now ⟨fewer, stopped⟩ unit process running
    rcases between unit process (fewer unit process running) with member | own
    · rw [stopped unit member] at running
      cases running
    · exact own

/-- Where only the release's own units are active, it is selected and started. -/
theorem selectOwn_spec :
    Spec (Own (some release)) (selectRelease world release)
      (fun _ host => host.links = release.selection ∧ Own (some release) host) (Own (some release)) := by
  intro host own
  have select : Spec (fun now => now.units = host.units) (selectRelease world release) _ _ := selectRelease_spec
  refine select.mono (fun _ => id) ?_ ?_ host rfl
  · rintro _ now ⟨same, selected⟩
    refine ⟨selected, fun unit process running => own unit process ?_⟩
    rw [← same]
    exact running
  · intro now same unit process running
    rw [same] at running
    exact own unit process running

theorem own_of_stopped (stopped : host.units = fun _ => none) : Own current host := by
  intro unit process running
  rw [stopped] at running
  cases running

theorem clear_spec : Spec (Own none) (clearSelection world) (fun _ => Deactivated) fun _ => True := by
  have clear : Spec (fun host => host.units = fun _ => none) (clearSelection world) _ _ := clearSelection_spec
  refine clear.mono ?_ ?_ fun _ _ => trivial
  · intro host own
    refine funext fun unit => Option.eq_none_iff_forall_ne_some.2 fun process running => ?_
    obtain ⟨_, never, _⟩ := own unit process running
    cases never
  · rintro _ host ⟨stopped, cleared⟩
    exact ⟨cleared, fun unit => congrFun stopped unit⟩

end Host

/-! ### Operations of a run -/

/-- Nothing is reported, and the host is as it should be. -/
def Midway (plan : Plan) (P : Host → Prop) (run : Run) : Prop := P run.host ∧ Unreported plan run

section Runs

variable {P R : Host → Prop} {release : Release}

theorem onHost_spec {α : Type} {operation : Operation α} {Q : α → Host → Prop} (spec : Spec P operation Q R) :
    Spec (Midway plan P) (onHost operation) (fun a => Midway plan (Q a)) (Midway plan R) :=
  Spec.zoom (fun _ _ => rfl) (fun _ _ unreported => ⟨unreported.named, unreported.activation, unreported.rollback⟩) spec

theorem Midway.mono (implies : ∀ host, P host → R host) (run : Run) (midway : Midway plan P run) : Midway plan R run :=
  ⟨implies run.host midway.1, midway.2⟩

theorem asserted_some {α : Type} {a : α} : asserted (some a) = pure a := rfl

variable {checks : List Check}

theorem addChecks_spec {R : Run → Prop} :
    Spec (Midway plan P) (addChecks checks) (fun _ => Midway plan P) R :=
  Spec.modify fun _ start => ⟨start.1, start.2.named, start.2.activation, start.2.rollback⟩

theorem addRecoveryChecks_spec {R : Run → Prop} :
    Spec (Midway plan P) (addRecoveryChecks checks) (fun _ => Midway plan P) R :=
  Spec.modify fun _ start => ⟨start.1, start.2.named, start.2.activation, start.2.rollback⟩

/-- An update keeps the names of the releases. -/
theorem mem_updateActivation {run : Run} {state : ActivationState} {status : DocumentStatus}
    {document : ActivationDoc} (named : ∀ document ∈ run.activation, Named plan document)
    (member : document ∈ (run.updateActivation state status checks).activation) :
    Named plan document ∧ document.state = state ∧ document.status = status := by
  obtain ⟨before, present, rfl⟩ := Option.map_eq_some_iff.1 member
  exact ⟨⟨(named before present).target, (named before present).previous⟩, rfl, rfl⟩

/-- A run that only says that it failed says nothing wrong. -/
theorem reportFailure_spec {failure : Stop} {R : Run → Prop} :
    Spec (fun run => ∀ document ∈ run.activation, Named plan document) (reportFailure failure)
      (fun _ => Truthful args plan) R := by
  refine Spec.modify fun run named => ?_
  refine ⟨fun document member => (mem_updateActivation named member).1, fun document member passed => ?_,
    fun document member back => ?_, fun _ passed => by cases passed⟩
  · rw [(mem_updateActivation named member).2.2] at passed
    cases passed
  · rw [(mem_updateActivation named member).2.1] at back
    cases back

/-- The current release, if there is one, is stopped. -/
theorem stopCurrent_spec :
    Spec (Midway plan (Own plan.current))
      (plan.current.forM fun current => do
        let stopped ← onHost (stopRelease world current args.systemctl true)
        addChecks stopped)
      (fun _ => Midway plan fun host => host.units = fun _ => none) (Midway plan (Own plan.current)) := by
  rcases plan.current with _ | current
  · refine Spec.pure (Midway.mono fun host own => ?_)
    refine funext fun unit => Option.eq_none_iff_forall_ne_some.2 fun process running => ?_
    obtain ⟨_, never, _⟩ := own unit process running
    cases never
  · exact (onHost_spec stopOwn_spec).bind fun _ => addChecks_spec

/-- A host without units is given to the release. -/
theorem takeOver_spec :
    Spec (fun host => host.units = fun _ => none) (selectRelease world release)
      (fun _ host => host.links = release.selection ∧ Own (some release) host) (Own (some release)) :=
  selectOwn_spec.mono (fun _ => own_of_stopped) (fun _ _ => id) fun _ => id

theorem activate_spec {started : Int} (mode : args.mode = .activate) (target : plan.target = some release) :
    Spec (Midway plan (Own plan.current)) (activate world args plan started) (fun _ => Truthful args plan)
      (Midway plan (Between plan.current release)) := by
  unfold activate
  rw [target, asserted_some, pure_bind]
  refine (stopCurrent_spec.mono (fun _ => id) (fun _ _ => id) (Midway.mono fun _ => Own.between)).bind fun _ => ?_
  refine ((onHost_spec takeOver_spec).mono (fun _ => id) (fun _ _ => id)
    (Midway.mono fun _ => Own.target_between)).bind fun _ => ?_
  refine addChecks_spec.bind fun _ => ?_
  refine ((onHost_spec startRelease_spec).mono (fun _ => id) (fun _ _ => id)
    (Midway.mono fun _ => Own.target_between)).bind fun results => ?_
  refine addChecks_spec.bind fun _ => ?_
  refine (onHost_spec (monotonic_spec fun _ tick running => running.withTick tick)).bind fun now => ?_
  split_ifs
  · exact Spec.throw (Midway.mono fun _ running => running.own.target_between)
  · refine Spec.modify fun run ⟨running, unreported⟩ => ?_
    refine ⟨fun document member => (mem_updateActivation unreported.named member).1,
      fun _ _ _ => ⟨release, target, running⟩, fun document member back => ?_, fun rollback => ?_⟩
    · rw [(mem_updateActivation unreported.named member).2.1] at back
      cases back
    · rw [mode] at rollback
      cases rollback

/-- A rollback that reports success has the host settled; no activation is reported then. -/
theorem updateRollback_truthful {run : Run} (unreported : Unreported plan run)
    (settled : Settled plan.target run.host) : Truthful args plan (run.updateRollback .passed checks) where
  named := unreported.named
  passed document member passed := absurd passed (unreported.activation document member).1
  rolledBack document member back := absurd back (unreported.activation document member).2
  rollback _ _ := settled

theorem deactivate_spec (current : plan.current = some release) (target : plan.target = none) :
    Spec (Midway plan (Own plan.current)) (deactivate world args plan) (fun _ => Truthful args plan)
      (Midway plan fun _ => True) := by
  unfold deactivate
  rw [current, asserted_some, pure_bind]
  refine ((onHost_spec stopOwn_spec).mono (fun _ => id) (fun _ _ => id) (Midway.mono fun _ _ => trivial)).bind fun _ => ?_
  refine addRecoveryChecks_spec.bind fun _ => ?_
  refine ((onHost_spec clear_spec).mono (Midway.mono fun _ => own_of_stopped) (fun _ _ => id) fun _ => id).bind fun _ => ?_
  refine Spec.modify fun run ⟨deactivated, unreported⟩ => updateRollback_truthful unreported ?_
  rw [target]
  exact deactivated

theorem switch_spec {current : Release} (from_ : plan.current = some current) (target : plan.target = some release) :
    Spec (Midway plan (Own plan.current)) (switch world args plan) (fun _ => Truthful args plan)
      (Midway plan fun _ => True) := by
  unfold switch
  rw [from_, target, asserted_some, pure_bind, asserted_some, pure_bind]
  refine ((onHost_spec stopOwn_spec).mono (fun _ => id) (fun _ _ => id) (Midway.mono fun _ _ => trivial)).bind fun _ => ?_
  refine addRecoveryChecks_spec.bind fun _ => ?_
  refine ((onHost_spec takeOver_spec).mono (fun _ => id) (fun _ _ => id) (Midway.mono fun _ _ => trivial)).bind fun _ => ?_
  refine ((onHost_spec startRelease_spec).mono (fun _ => id) (fun _ _ => id)
    (Midway.mono fun _ _ => trivial)).bind fun _ => ?_
  refine addRecoveryChecks_spec.bind fun _ => ?_
  refine Spec.modify fun run ⟨running, unreported⟩ => updateRollback_truthful unreported ?_
  rw [target]
  exact running

/-- **Recovery.** Where only the current release's own units are left, it runs again. -/
theorem restore_spec :
    Spec (Midway plan (Own plan.current)) (restore world args plan plan.current)
      (fun _ => Midway plan (Settled plan.current)) (Midway plan fun _ => True) := by
  rcases plan.current with _ | current
  · exact (onHost_spec clear_spec).bind fun _ => addRecoveryChecks_spec
  · refine ((onHost_spec selectOwn_spec).mono (fun _ => id) (fun _ _ => id) (Midway.mono fun _ _ => trivial)).bind
      fun _ => ?_
    refine ((onHost_spec startRelease_spec).mono (fun _ => id) (fun _ _ => id)
      (Midway.mono fun _ _ => trivial)).bind fun _ => ?_
    exact addRecoveryChecks_spec

theorem recover_spec {failure : Stop} (mode : args.mode = .activate) (target : plan.target = some release) :
    Spec (Midway plan (Between plan.current release)) (recover world args plan failure) (fun _ => Truthful args plan)
      (Midway plan fun _ => True) := by
  unfold recover
  rw [mode, target]
  rw [asserted_some, pure_bind]
  refine (onHost_spec stopTarget_spec).bind fun _ => ?_
  refine restore_spec.bind fun _ => ?_
  refine Spec.modify fun run ⟨settled, unreported⟩ => ?_
  refine ⟨fun document member => (mem_updateActivation unreported.named member).1, fun document member passed => ?_,
    fun _ _ _ => settled, fun rollback => ?_⟩
  · rw [(mem_updateActivation unreported.named member).2.2] at passed
    cases passed
  · rw [mode] at rollback
    cases rollback

/-- A failed rollback is reported as it is. -/
theorem recover_rollback {failure : Stop} (mode : args.mode = .rollback) : recover world args plan failure = throw failure := by
  unfold recover
  rw [mode]

end Runs

/-! ### The plan -/

/-- What preflight has found out about the releases. -/
structure Planned (world : World) (args : Args) (plan : Plan) : Prop where
  currentId : world.currentReleaseId = .ok plan.currentId
  current : plan.currentId.mapM world.descriptor = .ok plan.current
  target : ∀ id, plan.targetId = some id → ∃ target, world.descriptor id = .ok target ∧ plan.target = some target
  activate : args.mode = .activate → ∃ id, plan.targetId = some id
  rollback : args.mode = .rollback → ∃ current, plan.current = some current ∧
    (plan.firstTransition = true ∧ plan.target = none ∨ plan.firstTransition = false ∧ ∃ target, plan.target = some target)

variable {currentId : Option String} {current : Option Release}

theorem planActivation_ok (planned : planActivation world args currentId current = .ok plan) :
    plan.currentId = currentId ∧ plan.current = current ∧ ∃ id, plan.targetId = some id ∧
      ∃ target, world.descriptor id = .ok target ∧ plan.target = some target := by
  unfold planActivation at planned
  split at planned
  next => cases planned
  next id _ =>
    obtain ⟨_, _, planned⟩ := bind_ok planned
    obtain ⟨target, described, planned⟩ := bind_ok planned
    obtain ⟨_, _, planned⟩ := bind_ok planned
    obtain ⟨_, _, planned⟩ := bind_ok planned
    cases planned
    exact ⟨rfl, rfl, id, rfl, target, described, rfl⟩

theorem planRollback_ok (planned : planRollback world args currentId current = .ok plan) :
    plan.currentId = currentId ∧ plan.current = current ∧
      (∀ id, plan.targetId = some id → ∃ target, world.descriptor id = .ok target ∧ plan.target = some target) ∧
      ∃ release, current = some release ∧ (plan.firstTransition = true ∧ plan.target = none ∨
        plan.firstTransition = false ∧ ∃ target, plan.target = some target) := by
  unfold planRollback at planned
  rcases current with _ | release
  · cases planned
  dsimp only at planned
  split at planned
  · cases planned
    exact ⟨rfl, rfl, nofun, release, rfl, .inl ⟨rfl, rfl⟩⟩
  · obtain ⟨_, _, planned⟩ := bind_ok planned
    obtain ⟨target, described, planned⟩ := bind_ok planned
    cases planned
    refine ⟨rfl, rfl, fun id same => ?_, release, rfl, .inr ⟨rfl, target, rfl⟩⟩
    cases same
    exact ⟨target, described, rfl⟩

theorem planReleases_ok (planned : planReleases world args = .ok plan) : Planned world args plan := by
  obtain ⟨currentId, found, planned⟩ := bind_ok planned
  obtain ⟨current, described, planned⟩ := bind_ok planned
  split at planned
  next mode =>
    obtain ⟨rfl, rfl, id, named, target⟩ := planActivation_ok planned
    refine ⟨found, described, fun other same => ?_, fun _ => ⟨id, named⟩, fun rollback => ?_⟩
    · rw [named] at same
      cases same
      exact target
    · rw [mode] at rollback
      cases rollback
  next mode =>
    obtain ⟨rfl, rfl, target, release, present, first⟩ := planRollback_ok planned
    refine ⟨found, described, target, fun activate => ?_, fun _ => ⟨release, present, first⟩⟩
    rw [mode] at activate
    cases activate

theorem preflight_ok {checks : List Check} (passed : preflight world args = .ok (plan, checks)) :
    Planned world args plan := by
  obtain ⟨_, _, passed⟩ := bind_ok passed
  obtain ⟨found, planned, passed⟩ := bind_ok passed
  iterate 11 obtain ⟨_, _, passed⟩ := bind_ok passed
  cases passed
  exact planReleases_ok planned

/-! ### The run -/

/-- **Execution.** It never raises, and what it reports holds. -/
theorem execute_spec (planned : Planned world args plan) :
    Spec (Midway plan (Own plan.current)) (execute world args plan) (fun _ => Truthful args plan) fun _ => False := by
  have report : ∀ failure, Spec (Midway plan fun _ => True) (reportFailure failure) (fun _ => Truthful args plan)
      fun _ => False := fun failure =>
    reportFailure_spec.mono (fun _ midway => midway.2.named) (fun _ _ => id) fun _ => id
  refine ((onHost_spec (monotonic_spec (R := fun _ => False) fun _ _ own => own)).mono (fun _ => id) (fun _ _ => id)
    fun _ midway => midway.1).bind fun started => ?_
  unfold operate
  cases mode : args.mode with
  | activate =>
    obtain ⟨id, named⟩ := planned.activate mode
    obtain ⟨target, _, known⟩ := planned.target id named
    refine (activate_spec mode known).tryCatch fun failure => ?_
    refine addRecoveryChecks_spec.bind fun _ => ?_
    exact (recover_spec mode known).tryCatch report
  | rollback =>
    obtain ⟨current, known, first⟩ := planned.rollback mode
    have body : Spec (Midway plan (Own plan.current))
        (if plan.firstTransition then deactivate world args plan else switch world args plan) (fun _ => Truthful args plan)
        (Midway plan fun _ => True) := by
      rcases first with ⟨first, none⟩ | ⟨later, target, some⟩
      · rw [if_pos first]
        exact deactivate_spec known none
      · rw [if_neg (by rw [later]; simp)]
        exact switch_spec known some
    refine body.tryCatch fun failure => ?_
    refine addRecoveryChecks_spec.bind fun _ => ?_
    rw [recover_rollback mode]
    exact Spec.tryCatch (Spec.throw fun _ => id) report

theorem start_unreported (planned : Planned world args plan) (checks : List Check) (host : Host) :
    Unreported plan (Run.start args plan checks host) := by
  have activation : ∀ document ∈ (Run.start args plan checks host).activation, Named plan document ∧
      document.status = .engineeringCompleteEvidencePending ∧ document.state = .preflightPassed := by
    intro document member
    cases mode : args.mode with
    | activate =>
      obtain ⟨id, named⟩ := planned.activate mode
      obtain ⟨target, _, known⟩ := planned.target id named
      simp only [Run.start, mode, known, named, Option.getD_some] at member
      cases member
      exact ⟨⟨named, rfl⟩, rfl, rfl⟩
    | rollback =>
      simp only [Run.start, mode] at member
      cases member
  refine ⟨fun document member => (activation document member).1, fun document member => ?_, nofun⟩
  obtain ⟨_, status, state⟩ := activation document member
  rw [status, state]
  exact ⟨nofun, nofun⟩

theorem report_ok {run : Run} {reported : Report} (ran : report world args run = .ok reported) :
    reported.activation = run.activation ∧ reported.rollback = run.rollback := by
  obtain ⟨_, _, ran⟩ := bind_ok ran
  obtain ⟨_, _, ran⟩ := bind_ok ran
  cases ran
  exact ⟨rfl, rfl⟩

theorem dryRun_ok {run : Run} {reported : Report} (ran : dryRun world args run = .ok reported) :
    reported.activation = run.activation ∧ reported.rollback = run.rollback := by
  obtain ⟨_, _, ran⟩ := bind_ok ran
  obtain ⟨_, _, ran⟩ := bind_ok ran
  cases ran
  exact ⟨rfl, rfl⟩

theorem Unreported.truthful {run : Run} (unreported : Unreported plan run) : Truthful args plan run where
  named := unreported.named
  passed document member passed := absurd passed (unreported.activation document member).1
  rolledBack document member back := absurd back (unreported.activation document member).2
  rollback _ passed := absurd passed unreported.rollback

/-- The report is that of a run that ends truthfully in the host. -/
theorem main_run {host host' : Host} {reported : Report}
    (start : ∀ currentId current, world.currentReleaseId = .ok currentId →
      currentId.mapM world.descriptor = .ok current → Own current host)
    (ran : main world args host = (.ok reported, host')) :
    ∃ plan checks run, preflight world args = .ok (plan, checks) ∧ Truthful args plan run ∧ run.host = host' ∧
      reported.activation = run.activation ∧ reported.rollback = run.rollback := by
  unfold main at ran
  rcases passed : preflight world args with failure | ⟨plan, checks⟩
  · rw [passed] at ran
    cases ran
  rw [passed] at ran
  dsimp only at ran
  have planned := preflight_ok passed
  have unreported := start_unreported planned checks host
  have own : Own plan.current host := start _ _ planned.currentId planned.current
  split_ifs at ran with dry
  · obtain ⟨published, rfl⟩ := Prod.mk.inj ran
    exact ⟨plan, checks, _, rfl, unreported.truthful, rfl, dryRun_ok published⟩
  have ended := execute_spec planned (Run.start args plan checks host) ⟨own, unreported⟩
  split at ran
  · cases ran
  next run executed =>
    rw [executed] at ended
    obtain ⟨published, rfl⟩ := Prod.mk.inj ran
    exact ⟨plan, checks, run, rfl, ended, rfl, report_ok published⟩

/-- **Release control.** What is reported about a release holds of the host that is left, for every outcome of every
command and file operation, if each unit that is active at the start is the current release's own. -/
theorem report_truthful {host host' : Host} {reported : Report}
    (start : ∀ currentId current, world.currentReleaseId = .ok currentId →
      currentId.mapM world.descriptor = .ok current → Own current host)
    (ran : main world args host = (.ok reported, host')) :
    (∀ document ∈ reported.activation, document.status = .passed → ∃ target,
      world.descriptor document.releaseId = .ok target ∧ Running target host') ∧
    (∀ document ∈ reported.activation, document.state = .rolledBack → ∃ previous,
      document.previousReleaseId.mapM world.descriptor = .ok previous ∧ Settled previous host') ∧
    (args.mode = .rollback → reported.rollback.status = .passed → ∃ plan checks,
      preflight world args = .ok (plan, checks) ∧ Settled plan.target host') := by
  obtain ⟨plan, checks, run, passed, truthful, rfl, activation, rollback⟩ := main_run start ran
  have planned := preflight_ok passed
  rw [activation, rollback]
  refine ⟨fun document member status => ?_, fun document member back => ?_, fun mode status =>
    ⟨plan, checks, passed, truthful.rollback mode status⟩⟩
  · obtain ⟨target, known, running⟩ := truthful.passed document member status
    obtain ⟨described, found, same⟩ := planned.target _ (truthful.named document member).target
    rw [known] at same
    cases same
    exact ⟨target, found, running⟩
  · rw [(truthful.named document member).previous]
    exact ⟨plan.current, planned.current, truthful.rolledBack document member back⟩

/-! ### A failed activation -/

def sampleRelease (id path : String) (units : List String) (rollbackTarget : Option String) : Release where
  releaseId := id
  gitSha := "0123456789abcdef0123456789abcdef01234567"
  releasePath := path
  sourceManifestSha256 := ""
  services := units.zipIdx.map fun item => ⟨item.1, item.2, 30⟩
  drain := ⟨["drain"], 30⟩
  health := ⟨["health", id], 30⟩
  databaseCompatibility := ⟨1, 10, false⟩
  rollbackTargetReleaseId := rollbackTarget
  configurationPaths := []
  databaseCompatibilityEvidence := ⟨"evidence.json", "digest"⟩
  runtimeConfigPath := some (path ++ "/runtime.json")
  credentialDirectory := none
  requiredCredentials := []

def sampleCurrent : Release := sampleRelease "r1" "/opt/liqi/releases/r1" ["api", "worker"] none

def sampleTarget : Release := sampleRelease "r2" "/opt/liqi/releases/r2" ["api", "jobs"] (some "r1")

/-- A world in which the target's health gate fails. -/
def sampleWorld : World where
  currentReleaseId := .ok (some "r1")
  descriptor id := if id = "r1" then .ok sampleCurrent else if id = "r2" then .ok sampleTarget
    else .error (.error "no such descriptor")
  load path := if path = "host.json" then .ok (.map [("status", .string "ready")])
    else .ok (.map [("schemaVersion", .string "database-readiness-v0"), ("ready", .bool true), ("reason", .string "ready"),
      ("currentVersion", .integer 6)])
  validate _ _ := .ok []
  validateDocument _ _ := .ok []
  writeText _ _ := .ok ()
  int _ := .ok 6
  repr _ := ""
  strip := id
  pathExists _ := true
  isFile _ := true
  isDir _ := true
  digest _ := .ok "digest"
  readable _ := true
  size _ := 1
  mode _ := 0
  rootPosix := true
  command tick := ⟨.completed (if tick = 14 then 1 else 0) "" 0, true⟩
  file _ := none
  monotonic _ := 0

def sampleArgs : Args where
  mode := .activate
  targetReleaseId := some "r2"
  deploymentId := "d1"
  hostReadiness := "host.json"
  databaseReadiness := "database.json"
  firstReleaseRecovery := none
  systemctl := "systemctl"
  maximumDurationSeconds := 300
  approvalReference := some "change-1"
  execute := true
  activationOutput := some "activation.json"
  rollbackOutput := "rollback.json"

/-- The current release runs. -/
def sampleHost : Host where
  links := sampleCurrent.selection
  temporaries _ := none
  units unit := if unit ∈ sampleCurrent.units then some ⟨sampleCurrent.selection⟩ else none
  history := []
  tick := 0

/-- What the activation document says about its end, and about the release before. -/
def activationOf (ended : Except Stop Report × Host) : Option (ActivationState × Option String) :=
  match ended.1 with
  | .ok reported => reported.activation.map fun document => (document.state, document.previousReleaseId)
  | .error _ => none

theorem activationOf_some {ended : Except Stop Report × Host} {state : ActivationState} {previous : Option String}
    (known : activationOf ended = some (state, previous)) : ∃ reported host', ended = (.ok reported, host') ∧
      ∃ document ∈ reported.activation, document.state = state ∧ document.previousReleaseId = previous := by
  obtain ⟨failure | reported, host'⟩ := ended
  · cases known
  · obtain ⟨document, present, same⟩ := Option.map_eq_some_iff.1 known
    exact ⟨reported, host', rfl, document, present, congrArg Prod.fst same, congrArg Prod.snd same⟩

theorem sampleHost_own (found : sampleWorld.currentReleaseId = .ok currentId)
    (described : currentId.mapM sampleWorld.descriptor = .ok current) :
    Own current sampleHost := by
  intro unit process running
  cases found
  cases described
  simp only [sampleHost] at running
  split_ifs at running with member
  cases running
  exact ⟨sampleCurrent, rfl, member, rfl⟩

/-- The current release runs again after an activation that failed. -/
theorem failed_activation_restored : ∃ reported host', main sampleWorld sampleArgs sampleHost = (.ok reported, host') ∧
    Running sampleCurrent host' := by
  have known : activationOf (main sampleWorld sampleArgs sampleHost) = some (.rolledBack, some "r1") := by
    decide +kernel
  obtain ⟨reported, host', ran, document, present, back, previous⟩ := activationOf_some known
  obtain ⟨restored, described, settled⟩ :=
    (report_truthful (fun _ _ => sampleHost_own) ran).2.1 document present back
  rw [previous] at described
  cases described
  exact ⟨reported, host', ran, settled⟩

end Liqi.Deployment
