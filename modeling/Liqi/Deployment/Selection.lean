import Liqi.Except
import Liqi.Deployment.ReleaseControl

/-!
# The selection that release control leaves behind

A report that a release runs is right: the links designate it, its units and no others are active in processes started
while it was selected, and its health was asked for after the last start. Stopping only takes units away, so wherever an
activation fails, each active unit is one of the target or still the current release's own; recovery starts from there.
-/

namespace Liqi.Deployment

open Python Python.Effect

/-! ### What is left behind -/

/-- The health gate of the release has passed, and nothing was started since. -/
def HealthPassed (release : Release) (history : List (Call × Bool)) : Prop :=
  ∃ before after, history = before ++ (⟨.health, release.health.argv, release.health.timeoutSeconds⟩, true) :: after ∧
    ∀ entry ∈ after, ∀ unit, entry.1.action ≠ .start unit

/-- The release runs, and nothing else. -/
structure Running (release : Release) (host : Host) : Prop where
  links : host.links = release.selection
  active : ∀ unit ∈ release.units, ∃ process, host.units unit = some process ∧ process.selected = release.selection
  only : ∀ unit, unit ∉ release.units → host.units unit = none
  healthy : HealthPassed release host.history

/-- No release runs or is selected. -/
structure Deactivated (host : Host) : Prop where
  links : ∀ link, host.links link = none
  stopped : ∀ unit, host.units unit = none

/-- Each active unit belongs to the release and was started while it was selected. -/
def Own (release : Option Release) (host : Host) : Prop :=
  ∀ unit process, host.units unit = some process →
    ∃ own ∈ release, unit ∈ own.units ∧ process.selected = own.selection

/-- Each active unit belongs to the target, or is the current release's own. -/
def Between (current : Option Release) (target : Release) (host : Host) : Prop :=
  ∀ unit process, host.units unit = some process → unit ∈ target.units ∨
    ∃ own ∈ current, unit ∈ own.units ∧ process.selected = own.selection

/-- Units were only stopped. -/
def Fewer (units : String → Option Process) (host : Host) : Prop :=
  ∀ unit process, host.units unit = some process → units unit = some process

/-! ### Commands -/

section Commands

variable {world : World} {release : Release} {systemctl : String} {units : String → Option Process} {P Q R : Host → Prop}

theorem run_spec {call : Call} {Q : Bool × String × Int → Host → Prop}
    (returns : ∀ host succeeded active detail durationMs, P host →
      Q (succeeded, detail, durationMs) (host.after call succeeded active))
    (raises : ∀ host active, P host → R (host.after call false active)) : Spec P (run world call) Q R := by
  refine (Spec.get (Q := fun host now => P host ∧ now = host) fun host start => ⟨start, rfl⟩).bind fun host => ?_
  generalize world.command host.tick = outcome
  refine (Spec.set (Q := fun _ now => P host ∧ now = host.after call outcome.succeeded outcome.active)
    fun _ start => ⟨start.1, rfl⟩).bind fun _ => ?_
  obtain ⟨ending, active⟩ := outcome
  cases ending with
  | completed returncode detail durationMs =>
    refine Spec.pure ?_
    rintro _ ⟨start, rfl⟩
    exact returns host _ active detail durationMs start
  | timedOut durationMs =>
    refine Spec.pure ?_
    rintro _ ⟨start, rfl⟩
    exact returns host _ active _ durationMs start
  | raised message =>
    refine Spec.throw ?_
    rintro _ ⟨start, rfl⟩
    exact raises host active start

theorem mustRun_spec {call : Call} {name failure : String} {describe : String → String}
    (succeeds : ∀ host active, P host → Q (host.after call true active))
    (fails : ∀ host active, P host → R (host.after call false active)) :
    Spec P (mustRun world call name describe failure) (fun _ => Q) R := by
  refine (run_spec (Q := fun result host => if result.1 then Q host else R host) ?_ fails).bind ?_
  · rintro host (_ | _) active detail durationMs start
    · exact fails host active start
    · exact succeeds host active start
  · rintro ⟨_ | _, detail, durationMs⟩
    · exact Spec.throw fun _ ended => ended
    · exact Spec.pure fun _ ended => ended

theorem fileStep_spec {change : Host → Host} (succeeds : ∀ host tick, P host → Q (change { host with tick }))
    (fails : ∀ host tick, P host → R { host with tick }) : Spec P (fileStep world change) (fun _ => Q) R := by
  refine (Spec.get (Q := fun host now => P host ∧ now = host) fun host start => ⟨start, rfl⟩).bind fun host => ?_
  refine (Spec.set (Q := fun _ now => P host ∧ now = { host with tick := host.tick + 1 })
    fun _ start => ⟨start.1, rfl⟩).bind fun _ => ?_
  cases world.file host.tick with
  | some failure =>
    refine Spec.throw ?_
    rintro _ ⟨start, rfl⟩
    exact fails host _ start
  | none =>
    refine Spec.modify ?_
    rintro _ ⟨start, rfl⟩
    exact succeeds host _ start

/-! ### Stopping -/

variable {unit : String} {host : Host}

theorem stop_apply {other : String} {succeeded active : Bool} {process : Process}
    (running : (Action.stop unit).apply succeeded active host other = some process) :
    host.units other = some process := by
  dsimp only [Action.apply] at running
  split_ifs at running
  · by_cases same : other = unit
    · rw [same, Function.update_self] at running
      cases running
    · rwa [Function.update_of_ne same] at running
  · exact running

theorem drainRelease_spec {drain : Bool} :
    Spec (Fewer units) (drainRelease world release drain) (fun _ => Fewer units) (Fewer units) := by
  unfold drainRelease
  split
  · exact (mustRun_spec (fun _ _ => id) fun _ _ => id).bind fun _ => Spec.pure fun _ => id
  · exact Spec.pure fun _ => id

theorem Fewer.stop (fewer : Fewer units host) {argv : List String} {timeoutSeconds : Int} (succeeded active : Bool) :
    Fewer units (host.after ⟨.stop unit, argv, timeoutSeconds⟩ succeeded active) :=
  fun other process running => fewer other process (stop_apply running)

/-- The services that are done are stopped. -/
structure Stopping (units : String → Option Process) (done : List Service) (host : Host) : Prop where
  fewer : Fewer units host
  stopped : ∀ item ∈ done, host.units item.unit = none

variable {item : Service}

theorem stopService_spec {done : List Service} :
    Spec (Stopping units done) (stopService world systemctl item) (fun _ => Stopping units (done ++ [item]))
      (Fewer units) := by
  refine mustRun_spec (fun host active start => ⟨start.fewer.stop true active, fun other member => ?_⟩)
    fun host active start => start.fewer.stop false active
  change Function.update host.units item.unit none other.unit = none
  by_cases same : other.unit = item.unit
  · rw [same, Function.update_self]
  · rw [Function.update_of_ne same]
    rcases List.mem_append.1 member with before | here
    · exact start.stopped other before
    · exact absurd (congrArg Service.unit (List.mem_singleton.1 here)) same

theorem mem_ordered {reverse : Bool} : item ∈ release.ordered reverse ↔ item ∈ release.services := by
  unfold Release.ordered
  split_ifs <;> exact (List.perm_insertionSort _ _).mem_iff

/-- **Stopping.** Only units of before are left, and none of the release. -/
theorem stopRelease_spec {drain : Bool} :
    Spec (Fewer units) (stopRelease world release systemctl drain)
      (fun _ host => Fewer units host ∧ ∀ unit ∈ release.units, host.units unit = none) (Fewer units) := by
  refine drainRelease_spec.bind fun drained => ?_
  have loop : Spec (Stopping units []) ((release.ordered true).mapM (stopService world systemctl))
      (fun _ => Stopping units (release.ordered true)) (Fewer units) := Spec.mapM fun _ _ _ => stopService_spec
  refine (loop.mono (fun host fewer => ⟨fewer, nofun⟩) (fun _ _ => id) fun _ => id).bind fun stopped => Spec.pure ?_
  rintro host ⟨fewer, all⟩
  refine ⟨fewer, fun unit member => ?_⟩
  obtain ⟨item, listed, rfl⟩ := List.mem_map.1 member
  exact all item (mem_ordered.2 listed)

/-! ### Starting -/

/-- What runs after a start has run before, or is what was started. -/
theorem start_apply {other : String} {succeeded active : Bool} {process : Process}
    (running : (Action.start unit).apply succeeded active host other = some process) :
    host.units other = some process ∨ other = unit ∧ process = ⟨host.links⟩ := by
  dsimp only [Action.apply] at running
  by_cases same : other = unit
  · subst same
    split_ifs at running
    · rw [Function.update_self] at running
      rcases held : host.units other with _ | before
      · rw [held] at running
        cases running
        exact .inr ⟨rfl, rfl⟩
      · rw [held] at running
        exact .inl running
    · rw [Function.update_self] at running
      cases running
  · left
    split_ifs at running
    all_goals rwa [Function.update_of_ne same] at running

theorem Own.start (own : Own (some release) host) (selected : host.links = release.selection)
    (member : unit ∈ release.units) (succeeded active : Bool) {argv : List String} {timeoutSeconds : Int} :
    Own (some release) (host.after ⟨.start unit, argv, timeoutSeconds⟩ succeeded active) := by
  intro other process running
  rcases start_apply running with before | ⟨rfl, rfl⟩
  · exact own other process before
  · exact ⟨release, rfl, member, selected⟩

/-- The release is selected, nothing else is active, and the services that are done are active. -/
structure Starting (release : Release) (done : List Service) (host : Host) : Prop where
  selected : host.links = release.selection
  own : Own (some release) host
  active : ∀ item ∈ done, (host.units item.unit).isSome

theorem startService_spec {done : List Service} (listed : item ∈ release.services) :
    Spec (Starting release done) (startService world systemctl item) (fun _ => Starting release (done ++ [item]))
      (Own (some release)) := by
  have member : item.unit ∈ release.units := List.mem_map_of_mem listed
  refine mustRun_spec (fun host active start =>
    ⟨start.selected, start.own.start start.selected member true active, fun other here => ?_⟩)
    fun host active start => start.own.start start.selected member false active
  change (Function.update host.units item.unit _ other.unit).isSome
  by_cases same : other.unit = item.unit
  · rw [same, Function.update_self]
    cases host.units item.unit <;> rfl
  · rw [Function.update_of_ne same]
    rcases List.mem_append.1 here with before | last
    · exact start.active other before
    · exact absurd (congrArg Service.unit (List.mem_singleton.1 last)) same

/-- A release whose services are all started runs once its health gate has passed. -/
theorem Starting.running (start : Starting release (release.ordered false) host) (active : Bool) :
    Running release
      (host.after ⟨.health, release.health.argv, release.health.timeoutSeconds⟩ true active) := by
  refine ⟨start.selected, fun unit member => ?_, fun unit stranger => ?_, host.history, [], rfl, nofun⟩
  · obtain ⟨item, listed, rfl⟩ := List.mem_map.1 member
    obtain ⟨process, running⟩ := Option.isSome_iff_exists.1 (start.active item (mem_ordered.2 listed))
    obtain ⟨_, same, _, when⟩ := start.own item.unit process running
    cases same
    exact ⟨process, running, when⟩
  · refine Option.eq_none_iff_forall_ne_some.2 fun process running => ?_
    obtain ⟨_, same, member, _⟩ := start.own unit process running
    cases same
    exact stranger member

/-- **Starting.** Where the release is selected and nothing else is active, it runs in the end. -/
theorem startRelease_spec :
    Spec (fun host => host.links = release.selection ∧ Own (some release) host) (startRelease world release systemctl)
      (fun _ => Running release) (Own (some release)) := by
  have loop : Spec (Starting release []) ((release.ordered false).mapM (startService world systemctl))
      (fun _ => Starting release (release.ordered false)) (Own (some release)) :=
    Spec.mapM fun _ _ listed => startService_spec (mem_ordered.1 listed)
  refine (loop.mono (fun host start => ⟨start.1, start.2, nofun⟩) (fun _ _ => id) fun _ => id).bind fun started => ?_
  exact (mustRun_spec (fun _ active start => start.running active) fun _ _ start => start.own).bind
    fun _ => Spec.pure fun _ => id

/-! ### Selecting -/

section Links

variable {link : Link}

def Pointed (units : String → Option Process) (links : Link → Option String) (host : Host) : Prop :=
  host.units = units ∧ host.links = links

theorem unlink_spec {links : Link → Option String} :
    Spec (Pointed units links) (unlink world link) (fun _ => Pointed units (Function.update links link none))
      (fun host => host.units = units) := by
  refine fileStep_spec (fun host _ start => ⟨start.1, ?_⟩) fun _ _ start => start.1
  exact congrArg (Function.update · link none) start.2

theorem atomicSymlink_spec {target : String} {links : Link → Option String} :
    Spec (Pointed units links) (atomicSymlink world target link)
      (fun _ => Pointed units (Function.update links link (some target))) (fun host => host.units = units) := by
  refine (fileStep_spec (Q := Pointed units links) (fun _ _ => id) fun _ _ start => start.1).bind fun _ => ?_
  refine (fileStep_spec (Q := Pointed units links) (fun _ _ => id) fun _ _ start => start.1).bind fun _ => ?_
  refine (fileStep_spec (Q := fun host => Pointed units links host ∧ host.temporaries link = some target)
    (fun _ _ start => ⟨start, Function.update_self ..⟩) fun _ _ start => start.1).bind fun _ => ?_
  refine fileStep_spec (fun host _ start => ⟨start.1.1, ?_⟩) fun _ _ start => start.1.1
  change Function.update host.links link (host.temporaries link) = _
  rw [start.2, start.1.2]

/-- **Selecting.** Both links designate the release. -/
theorem selectRelease_spec :
    Spec (fun host => host.units = units) (selectRelease world release)
      (fun _ host => host.units = units ∧ host.links = release.selection) (fun host => host.units = units) := by
  intro host start
  have selected : Spec (Pointed units host.links) (selectRelease world release)
      (fun _ => Pointed units release.selection) (fun host => host.units = units) := by
    refine atomicSymlink_spec.bind fun _ => ?_
    have both : Function.update (Function.update host.links .current (some release.releasePath)) .runtime
        release.runtimeConfigPath = release.selection := funext fun link => by cases link <;> rfl
    rcases held : release.runtimeConfigPath with _ | runtime
    · rw [← both, held]
      exact unlink_spec
    · rw [← both, held]
      exact atomicSymlink_spec
  exact selected host ⟨start, rfl⟩

theorem clearSelection_spec :
    Spec (fun host => host.units = units) (clearSelection world)
      (fun _ host => host.units = units ∧ ∀ link, host.links link = none) (fun host => host.units = units) := by
  intro host start
  have cleared : Spec (Pointed units host.links) (clearSelection world)
      (fun _ host => host.units = units ∧ ∀ link, host.links link = none) (fun host => host.units = units) := by
    refine unlink_spec.bind fun _ => ?_
    refine unlink_spec.mono (fun _ => id) (fun _ host ended => ⟨ended.1, fun link => ?_⟩) fun _ => id
    rw [ended.2]
    cases link <;> rfl
  exact cleared host ⟨start, rfl⟩

end Links

end Commands

end Liqi.Deployment
