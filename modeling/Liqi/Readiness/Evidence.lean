import Liqi.Except
import Liqi.Readiness.Compose

/-!
# Evidence that has passed

The passing verdict needs a composition without blockers whose statuses are all `passed`. No step takes a blocker or a
status back, so every step was clean. Here is what a clean step has checked about an evidence document: `Presented` for
what all documents share, `EvidencePassed` for the rest, and that no document has a correctness event.
-/

namespace Liqi.Readiness

open Beam (Json)
open Python

variable {world : World} {inputs : Inputs}

/-- No blockers, and nothing but `passed`. -/
structure Composition.Clean (state : Composition) : Prop where
  blockers : state.blockers = []
  statuses : ∀ status ∈ state.statusInputs, status = .string "passed"

/-- The document was read, satisfies its schema, belongs to the release and has passed. -/
structure Presented (world : World) (inputs : Inputs) (schema label path : String) (document : Json) : Prop where
  readable : world.loadJson path = .ok document
  valid : world.validateDocument schema document label = .ok []
  gitSha : document.get "git_sha" = .string inputs.sha
  releaseId : document.get "release_id" = .string inputs.releaseId
  passed : document.get "status" = .string "passed"

/-- The time is at most `maxAgeSeconds` and a second old, and at most 300 seconds ahead. -/
def InWindow (now maxAgeSeconds time : Int) : Prop :=
  now - maxAgeSeconds * 1000000 - 1000000 ≤ time ∧ time ≤ now + 300 * 1000000

/-- No container of correctness events has a positive count. -/
def NoCount (document : Json) : Prop :=
  ∀ container ∈ countContainers, ∀ members, document.get container = .map members →
    ∀ event : CorrectnessEvent, ∀ value n, (event.key, value) ∈ members → value = .integer n → n ≤ 0

/-! ### Values -/

theorem ite_nil {α : Type} {condition : Bool} {a : α} (none : (if condition then [a] else []) = []) :
    condition = false := by
  cases condition with
  | false => rfl
  | true => cases none

section Values

variable {value : Json}

theorem errorUnless_nil {holds : Bool} {message : String} : errorUnless holds message = [] ↔ holds = true := by
  cases holds <;> simp [errorUnless]

theorem status_of_passed : Status.of value = .passed ↔ value = .string "passed" := by
  unfold Status.of
  rw [← isText_iff]
  split_ifs with passed blocked
  · simp [passed]
  · simp [passed]
  · simp [passed]

theorem combineStatus_passed {statuses : List Json} (combined : combineStatus statuses = .ok .passed) :
    ∀ status ∈ statuses, status = .string "passed" := by
  refine (foldlM_backward (P := fun result => result = Status.passed) (Q := fun status => status = .string "passed")
    ?_ combined rfl).2
  rintro result status result' _ ran rfl
  split_ifs at ran with unhashable worse
  · have same : Status.of status = .passed := Except.ok.inj ran
    rw [same] at worse
    exact absurd worse (Nat.not_lt_zero _)
  · cases ran
    refine ⟨rfl, status_of_passed.1 ?_⟩
    cases named : Status.of status with
    | passed => rfl
    | blocked =>
      rw [named] at worse
      exact absurd Nat.zero_lt_one worse
    | failed =>
      rw [named] at worse
      exact absurd Nat.zero_lt_two worse

end Values

/-! ### Times -/

theorem fresh_of_age {now time maxAge : Int} (young : ¬ maxAge < ageSeconds time now) :
    now - maxAge * 1000000 - 1000000 ≤ time := by
  unfold ageSeconds at young
  have nonneg : 0 ≤ maxAge := by omega
  by_cases past : 0 ≤ now - time
  · rw [Int.tdiv_eq_ediv_of_nonneg past] at young
    omega
  · omega

theorem evidenceTime_clean {kind : EvidenceKind} {rule : Rule} {document : Json} {timestamp : String}
    (timed : evidenceTime world inputs kind rule document = .ok ([], false, timestamp)) :
    ∃ text time, observedAt document = .ok (some text) ∧ world.parseDatetime text = .ok time ∧
      InWindow inputs.now rule.maxAgeSeconds time := by
  obtain ⟨found, observed, timed⟩ := bind_ok timed
  cases found with
  | none => cases timed
  | some text =>
    dsimp only at timed
    rcases parsed : world.parseDatetime text with failure | time
    · rw [parsed] at timed
      cases failure <;> cases timed
    · rw [parsed] at timed
      simp only [pure, Except.pure, Except.ok.injEq, Prod.mk.injEq] at timed
      obtain ⟨future, stale, _⟩ := timed
      rw [errorUnless_nil, Bool.not_eq_true', decide_eq_false_iff_not] at future
      rw [decide_eq_false_iff_not] at stale
      refine ⟨text, time, observed, parsed, fresh_of_age stale, ?_⟩
      omega

/-! ### Evidence -/

/-- What has been checked about the document of an evidence kind. -/
structure EvidencePassed (world : World) (inputs : Inputs) (kind : EvidenceKind) (rule : Rule) (document : Json) : Prop where
  presented : ∃ path, inputs.evidencePaths.lookup kind.text = some path ∧
    Presented world inputs rule.schema kind.text path document
  live : document.get "evidence_mode" = .string "live"
  time : ∃ text time, observedAt document = .ok (some text) ∧ world.parseDatetime text = .ok time ∧
    InWindow inputs.now rule.maxAgeSeconds time

section Evidence

variable {kind : EvidenceKind} {rule : Rule} {path : String} {document : Json} {state state' : Composition}

theorem documentStatus_passed (status : documentStatus document = .ok .passed) :
    document.get "status" = .string "passed" := by
  obtain ⟨value, got, status⟩ := bind_ok status
  split_ifs at status
  have named : value = .string "passed" := status_of_passed.1 (Except.ok.inj status)
  subst named
  exact get_text got (by simp)

theorem evidenceDocument_clean (ran : evidenceDocument world inputs kind rule path document state = .ok state')
    (clean : state'.Clean) (readable : world.loadJson path = .ok document)
    (supplied : inputs.evidencePaths.lookup kind.text = some path) :
    state.Clean ∧ EvidencePassed world inputs kind rule document
      ∧ state'.documents = setItem (fun a b => decide (a = b)) state.documents kind document := by
  obtain ⟨valid, validated, ran⟩ := bind_ok ran
  obtain ⟨semantic, _, ran⟩ := bind_ok ran
  obtain ⟨gitSha, bound, ran⟩ := bind_ok ran
  obtain ⟨releaseId, released, ran⟩ := bind_ok ran
  obtain ⟨environment, _, ran⟩ := bind_ok ran
  obtain ⟨⟨timed, stale, timestamp⟩, time, ran⟩ := bind_ok ran
  obtain ⟨status, reported, ran⟩ := bind_ok ran
  obtain ⟨mode, moded, ran⟩ := bind_ok ran
  obtain ⟨_, _, ran⟩ := bind_ok ran
  obtain ⟨_, _, ran⟩ := bind_ok ran
  obtain ⟨_, _, ran⟩ := bind_ok ran
  cases ran
  obtain ⟨blockers, statuses⟩ := clean
  dsimp only at blockers statuses
  rw [List.append_eq_nil_iff, List.append_eq_nil_iff] at blockers
  obtain ⟨⟨earlier, unstale⟩, accepted⟩ := blockers
  have young : stale = false := ite_nil unstale
  split_ifs at accepted with invalid refused
  rw [not_not] at refused
  rw [Bool.not_eq_true', Bool.not_eq_false, List.isEmpty_iff, List.append_eq_nil_iff] at invalid
  obtain ⟨none, alive⟩ := invalid
  rw [none, errorUnless_nil, refused] at alive
  simp only [List.append_eq_nil_iff, errorUnless_nil] at none
  obtain ⟨⟨⟨⟨⟨rfl, _⟩, ofCommit⟩, ofRelease⟩, _⟩, rfl⟩ := none
  subst young refused
  have live : isText mode "live" = true := by simpa using alive
  refine ⟨⟨earlier, fun status member => statuses status (List.mem_append_left _ member)⟩, ?_, rfl⟩
  refine ⟨⟨path, supplied, readable, uncaught_ok validated, ?_, ?_, documentStatus_passed reported⟩, ?_, evidenceTime_clean time⟩
  · rw [← get_null bound]
    exact isText_iff.1 ofCommit
  · rw [← get_null released]
    exact isText_iff.1 ofRelease
  · rw [← get_null moded]
    exact isText_iff.1 live

theorem evidence_clean {item : EvidenceKind × Rule} (ran : evidence world inputs state item = .ok state')
    (clean : state'.Clean) : state.Clean ∧ ∃ document, EvidencePassed world inputs item.1 item.2 document
      ∧ state'.documents = setItem (fun a b => decide (a = b)) state.documents item.1 document := by
  unfold evidence at ran
  dsimp only at ran
  rcases supplied : inputs.evidencePaths.lookup item.1.text with _ | path
  · rw [supplied] at ran
    cases ran
    exact absurd clean.blockers (by simp)
  rw [supplied] at ran
  dsimp only at ran
  rcases readable : world.loadJson path with failure | document
  · rw [readable] at ran
    cases failure with
    | raised => cases ran
    | caught message =>
      cases ran
      exact absurd clean.blockers (by simp)
  · rw [readable] at ran
    obtain ⟨before, passed, kept⟩ := evidenceDocument_clean ran clean readable supplied
    exact ⟨before, document, passed, kept⟩

/-- **Evidence.** Every kind of the policy has passed, and its document is kept for the counts. -/
theorem evidenceLoop_clean {rules : List (EvidenceKind × Rule)} (distinct : (rules.map Prod.fst).Nodup)
    (fresh : ∀ rule ∈ rules, ∀ entry ∈ state.documents, entry.1 ≠ rule.1)
    (ran : rules.foldlM (evidence world inputs) state = .ok state') (clean : state'.Clean) :
    (∀ item ∈ rules, ∃ document, EvidencePassed world inputs item.1 item.2 document ∧ (item.1, document) ∈ state'.documents)
      ∧ (∀ entry ∈ state'.documents, entry ∈ state.documents ∨
        ∃ item ∈ rules, EvidencePassed world inputs item.1 item.2 entry.2)
      ∧ ∀ entry ∈ state.documents, entry ∈ state'.documents := by
  induction rules generalizing state with
  | nil =>
    cases ran
    exact ⟨nofun, fun _ => .inl, fun _ => id⟩
  | cons item rules ih =>
    rw [List.foldlM_cons] at ran
    obtain ⟨state₁, first, rest⟩ := bind_ok ran
    have clean₁ : state₁.Clean := (foldlM_backward (Q := fun _ => True)
      (fun _ _ _ _ ran clean => ⟨(evidence_clean ran clean).1, trivial⟩) rest clean).1
    obtain ⟨_, document, passed, documents⟩ := evidence_clean first clean₁
    rw [List.map_cons, List.nodup_cons] at distinct
    rw [setItem_new fun entry member => decide_eq_false (fresh item List.mem_cons_self entry member)] at documents
    have fresh₁ : ∀ rule ∈ rules, ∀ entry ∈ state₁.documents, entry.1 ≠ rule.1 := by
      intro rule member entry stored
      rw [documents, List.mem_append, List.mem_singleton] at stored
      rcases stored with old | rfl
      · exact fresh rule (List.mem_cons_of_mem _ member) entry old
      · intro same
        exact distinct.1 (List.mem_map.2 ⟨rule, member, same.symm⟩)
    obtain ⟨all, back, kept⟩ := ih distinct.2 fresh₁ rest
    rw [documents] at back kept
    refine ⟨fun other member => ?_, fun entry stored => ?_, fun entry stored => kept entry (List.mem_append_left _ stored)⟩
    · rcases List.mem_cons.1 member with rfl | later
      · exact ⟨document, passed, kept _ (List.mem_append_right _ (List.mem_singleton.2 rfl))⟩
      · exact all other later
    · rcases back entry stored with old | ⟨other, later, passed'⟩
      · rcases List.mem_append.1 old with old | new
        · exact .inl old
        · rw [List.mem_singleton.1 new]
          exact .inr ⟨item, List.mem_cons_self, passed⟩
      · exact .inr ⟨other, List.mem_cons_of_mem _ later, passed'⟩

theorem byKind_of_distinct {policy : Policy} (distinct : (policy.evidence.map Prod.fst).Nodup) :
    policy.byKind = policy.evidence := by
  have loop : ∀ (rest rules : List (EvidenceKind × Rule)), ((rules ++ rest).map Prod.fst).Nodup →
      rest.foldl (fun rules item => setItem (fun a b => decide (a = b)) rules item.1 item.2) rules = rules ++ rest := by
    intro rest
    induction rest with
    | nil => exact fun rules _ => (List.append_nil rules).symm
    | cons item rest ih =>
      intro rules nodup
      have new : ∀ entry ∈ rules, decide (entry.1 = item.1) = false := by
        intro entry member
        rw [List.map_append, List.nodup_append] at nodup
        exact decide_eq_false (nodup.2.2 _ (List.mem_map_of_mem member) _ (by simp))
      rw [List.foldl_cons, setItem_new new, ih _ (by rwa [List.append_assoc]), List.append_assoc]
      rfl
  exact loop policy.evidence [] distinct

end Evidence

/-! ### Counts -/

/-- The counts of a document are natural numbers. -/
def CountsNatural (document : Json) : Prop :=
  ∀ container ∈ countContainers, ∀ members, document.get container = .map members →
    ∀ event : CorrectnessEvent, ∀ value, (event.key, value) ∈ members → ∃ n : Nat, value = .integer n

section Counts

variable {counts counts' : CorrectnessEvent → Int} {members : List (String × Json)} {document : Json}

theorem event_of_key (event : CorrectnessEvent) :
    (CorrectnessEvent.all.find? fun other => other.key = event.key) = some event := by
  cases event <;> rfl

theorem countMember_mono {member : String × Json}
    (natural : ∀ event : CorrectnessEvent, ∀ value, (event.key, value) = member → ∃ n : Nat, value = .integer n) :
    counts ≤ countMember counts member := by
  unfold countMember
  split
  next event value found counted =>
    have key : event.key = member.1 := by simpa using List.find?_some found
    obtain ⟨n, integer⟩ := natural event member.2 (Prod.ext key rfl)
    rw [integer] at counted
    cases counted
    intro other
    dsimp only
    split_ifs
    · exact Int.le_add_of_nonneg_right (Int.natCast_nonneg n)
    · exact le_rfl
  next => exact le_rfl

theorem countMember_counts (event : CorrectnessEvent) (n : Int) :
    countMember counts (event.key, .integer n) event = counts event + n := by
  unfold countMember
  rw [event_of_key]
  exact if_pos rfl

section Members

variable (natural : ∀ event : CorrectnessEvent, ∀ value, (event.key, value) ∈ members → ∃ n : Nat, value = .integer n)

include natural

theorem countMembers_mono : counts ≤ members.foldl countMember counts := by
  induction members generalizing counts with
  | nil => exact le_rfl
  | cons member members ih =>
    have first : counts ≤ countMember counts member :=
      countMember_mono fun event value same => natural event value (same ▸ List.mem_cons_self)
    exact first.trans (ih fun event value later => natural event value (List.mem_cons_of_mem _ later))

/-- Natural counts add at least each of them. -/
theorem countMembers_ge {event : CorrectnessEvent} {n : Int} (counted : (event.key, .integer n) ∈ members) :
    counts event + n ≤ members.foldl countMember counts event := by
  induction members generalizing counts with
  | nil => cases counted
  | cons member members ih =>
    have rest : ∀ event : CorrectnessEvent, ∀ value, (event.key, value) ∈ members → ∃ n : Nat, value = .integer n :=
      fun event value later => natural event value (List.mem_cons_of_mem _ later)
    rw [List.foldl_cons]
    rcases List.mem_cons.1 counted with rfl | later
    · rw [← countMember_counts]
      exact countMembers_mono rest event
    · have first : counts ≤ countMember counts member :=
        countMember_mono fun event value same => natural event value (same ▸ List.mem_cons_self)
      exact (Int.add_le_add_right (first event) n).trans (ih rest later)

end Members

theorem countContainer_mono {container : String} (natural : CountsNatural document) (member : container ∈ countContainers)
    (ran : countContainer document counts container = .ok counts') : counts ≤ counts' := by
  obtain ⟨found, got, ran⟩ := bind_ok ran
  have held := get_null got
  split at ran
  · cases ran
    exact countMembers_mono (natural container member _ held.symm)
  · cases ran
    exact le_rfl

/-- A document of natural counts adds at least each of them. -/
theorem countDocument_ge (natural : CountsNatural document) (ran : countDocument counts document = .ok counts') :
    counts ≤ counts' ∧ ∀ container ∈ countContainers, ∀ members, document.get container = .map members →
      ∀ event : CorrectnessEvent, ∀ n, (event.key, .integer n) ∈ members → counts event + n ≤ counts' event := by
  obtain ⟨grows, steps⟩ := foldlM_mono (fun _ _ _ => countContainer_mono natural) ran
  refine ⟨grows, fun container member members held event n counted => ?_⟩
  obtain ⟨before, after, above, step, below⟩ := steps container member
  obtain ⟨found, got, step⟩ := bind_ok step
  rw [get_null got, held] at step
  cases step
  have adds : before event + n ≤ members.foldl countMember before event :=
    countMembers_ge (natural container member members held) counted
  exact (Int.add_le_add_right (above event) n).trans (adds.trans (below event))

/-- **Counts.** Where no count is positive, no document has one. -/
theorem correctnessCounts_clean {documents : List (EvidenceKind × Json)}
    (natural : ∀ entry ∈ documents, CountsNatural entry.2) (ran : correctnessCounts documents = .ok counts)
    (none : ∀ event, counts event ≤ 0) : ∀ entry ∈ documents, NoCount entry.2 := by
  have steps := (foldlM_mono (fun counts entry counts' member ran => (countDocument_ge (natural entry member) ran).1) ran).2
  rintro entry member container held members found event value n counted rfl
  obtain ⟨before, after, above, step, below⟩ := steps entry member
  have adds := (countDocument_ge (natural entry member) step).2 container held members found event n counted
  have start : 0 ≤ before event := above event
  have total : after event ≤ 0 := (below event).trans (none event)
  omega

end Counts

theorem correctness_clean {counts : CorrectnessEvent → Int} {events : List CorrectnessEvent} {state : Composition}
    (clean : (events.foldl (correctness counts) state).Clean) : state.Clean ∧ ∀ event ∈ events, counts event ≤ 0 := by
  induction events generalizing state with
  | nil => exact ⟨clean, nofun⟩
  | cons event events ih =>
    obtain ⟨after, rest⟩ := ih clean
    unfold correctness at after
    split_ifs at after with positive
    · exact absurd after.blockers (by simp)
    · refine ⟨after, fun other member => ?_⟩
      rcases List.mem_cons.1 member with rfl | later
      · exact Int.not_lt.1 positive
      · exact rest other later

end Liqi.Readiness
