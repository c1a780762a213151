import Mathlib.Data.Finset.Insert
import Liqi.Lockstep
import Liqi.V0.ProbeWorker

/-!
# The leases of the V0 test double

`FakePlatformStore` keeps a lease twice, under the delivery it is for and under the token that was given out.
`acknowledge` and `retry` take the token's entry out before they look at the rest of the call. A live token that comes
with another consumer or another event therefore loses its entry: the call is refused, the delivery stays leased, and
from then on its holder is refused as well. Without such a call the two maps are inverse to each other in every state,
and a call that is refused changes nothing.
-/

namespace Liqi.V0

open Postgres Liqi.Database

/-- A consumer and an event. -/
abbrev DeliveryKey := String × Uuid

/-- The state behind the lock; its maps are the lookups in them. -/
structure FakePlatformStore extends FakeState where
  acknowledged : Finset DeliveryKey
  activeClaimByDelivery : DeliveryKey → Option Uuid
  deliveryByClaim : Uuid → Option DeliveryKey
  terminalEffects : Finset Uuid
  retryCounts : DeliveryKey → Option Nat
  deadLetter : Finset DeliveryKey

/-- The arguments that the calls on a lease share; the token is a text. -/
structure ClaimArguments where
  eventId : Uuid
  claim : String
  consumerId : String

namespace FakePlatformStore

/-- The result of a call and the state it leaves. -/
abbrev Result (α : Type) := Except PersistenceError α × FakePlatformStore

/-- `ready()`, or `default()` for a store that is not ready. -/
def new (ready : Bool) : FakePlatformStore where
  ready
  probesByClientId := ∅
  events := []
  acknowledged := ∅
  activeClaimByDelivery := fun _ => none
  deliveryByClaim := fun _ => none
  terminalEffects := ∅
  retryCounts := fun _ => none
  deadLetter := ∅

def commitProbe : Commit FakePlatformStore := fun clock commit store =>
  let (committed, state) := fakeCommitProbe clock commit store.toFakeState
  (committed, { store with toFakeState := state })

/-- A lease is entered in both maps. -/
def lease (key : DeliveryKey) (claimId : Uuid) (store : FakePlatformStore) : FakePlatformStore :=
  { store with
    activeClaimByDelivery := Function.update store.activeClaimByDelivery key (some claimId)
    deliveryByClaim := Function.update store.deliveryByClaim claimId (some key) }

/-- The loop of `claim`; `nowV7` gives the ids that it draws, one for each delivery. -/
def claimLoop (nowV7 : Nat → Uuid) (consumer : String) (batchSize : Nat) :
    List EventEnvelope → List OutboxDelivery → FakePlatformStore → List OutboxDelivery × FakePlatformStore
  | [], deliveries, store => (deliveries, store)
  | event :: candidates, deliveries, store =>
    if batchSize ≤ deliveries.length then (deliveries, store)
    else
      let key := (consumer, event.eventId)
      if key ∈ store.acknowledged ∨ key ∈ store.deadLetter ∨ (store.activeClaimByDelivery key).isSome then
        claimLoop nowV7 consumer batchSize candidates deliveries store
      else
        let claimId := nowV7 deliveries.length
        -- `saturating_add` of a `u32`
        let attempt := min ((store.retryCounts key).getD 0 + 1) 4294967295
        claimLoop nowV7 consumer batchSize candidates (deliveries ++ [⟨claimId, attempt, event⟩])
          (store.lease key claimId)

def claim (nowV7 : Nat → Uuid) (request : OutboxClaimRequest) (store : FakePlatformStore) :
    Result (List OutboxDelivery) :=
  match request.validate with
  | .error e => (.error e, store)
  | .ok () =>
    if store.ready = false then (.error .notReady, store)
    else
      let candidates := store.events.filter fun event => decide (event.eventType ∈ request.eventTypes)
      let (deliveries, store) := claimLoop nowV7 request.consumer request.batchSize candidates [] store
      (.ok deliveries, store)

section Calls

variable (parseStr : String → Option Uuid)

/-- `parse_claim_id`; `parseStr` is `Uuid::parse_str`. -/
def parseClaimId (claim : String) : Except PersistenceError Uuid :=
  match parseStr claim with
  | none => .error .invalidOperation
  | some claimId => .ok claimId

/-- What `acknowledge` and `retry` share: the token's entry goes before the call is checked. `finish` is what follows
the checks. -/
def settle (finish : DeliveryKey → FakePlatformStore → FakePlatformStore) (a : ClaimArguments)
    (store : FakePlatformStore) : Result Unit :=
  match parseClaimId parseStr a.claim with
  | .error e => (.error e, store)
  | .ok claimId => match store.deliveryByClaim claimId with
    | none => (.error .conflict, store)
    | some key =>
      let store := { store with deliveryByClaim := Function.update store.deliveryByClaim claimId none }
      if key.1 ≠ a.consumerId ∨ key.2 ≠ a.eventId ∨ store.activeClaimByDelivery key ≠ some claimId then
        (.error .conflict, store)
      else
        (.ok (), finish key
          { store with activeClaimByDelivery := Function.update store.activeClaimByDelivery key none })

def acknowledge : ClaimArguments → FakePlatformStore → Result Unit :=
  settle parseStr fun key store => { store with acknowledged := insert key store.acknowledged }

def retry (a : ClaimArguments) (retry : OutboxRetry) (store : FakePlatformStore) : Result Unit :=
  match retry.validate with
  | .error e => (.error e, store)
  | .ok () =>
    settle parseStr (fun key store =>
      { store with
        retryCounts := Function.update store.retryCounts key (some retry.attempt)
        deadLetter := if retry.maxAttempts ≤ retry.attempt then insert key store.deadLetter else store.deadLetter })
      a store

def applyProbeEffectAndAck (a : ClaimArguments) (store : FakePlatformStore) : Result ProbeEffectAckOutcome :=
  match parseClaimId parseStr a.claim with
  | .error e => (.error e, store)
  | .ok claimId =>
    let key := (a.consumerId, a.eventId)
    if store.ready = false then (.error .notReady, store)
    else if key ∈ store.acknowledged then (.ok .alreadyAcknowledged, store)
    else if key ∈ store.deadLetter then (.ok .terminalWithoutEffect, store)
    else if store.activeClaimByDelivery key ≠ some claimId ∨ store.deliveryByClaim claimId ≠ some key then
      (.ok .leaseLost, store)
    else
      (.ok (if a.eventId ∈ store.terminalEffects then .alreadyAcknowledged else .appliedAndAcknowledged),
        { store with
          activeClaimByDelivery := Function.update store.activeClaimByDelivery key none
          deliveryByClaim := Function.update store.deliveryByClaim claimId none
          terminalEffects := insert a.eventId store.terminalEffects
          acknowledged := insert key store.acknowledged })

/-- The calls of the store; a claim comes with the ids that it draws. -/
inductive Call where
  | commitProbe (clock : RequestClock) (commit : ProbeCommit)
  | claim (nowV7 : Nat → Uuid) (request : OutboxClaimRequest)
  | acknowledge (a : ClaimArguments)
  | retry (a : ClaimArguments) (retry : OutboxRetry)
  | applyProbeEffectAndAck (a : ClaimArguments)

/-- Whether a call was refused, and the state it leaves. -/
def Result.outcome {α : Type} (result : Result α) : Result Unit := (result.1.map fun _ => (), result.2)

def step (store : FakePlatformStore) : Call → Result Unit
  | .commitProbe clock commit => Result.outcome (store.commitProbe clock commit)
  | .claim nowV7 request => Result.outcome (store.claim nowV7 request)
  | .acknowledge a => store.acknowledge parseStr a
  | .retry a retry => store.retry parseStr a retry
  | .applyProbeEffectAndAck a => Result.outcome (store.applyProbeEffectAndAck parseStr a)

/-! ### What a call leaves -/

/-- Each of the two maps undoes the other. -/
def Inverse (store : FakePlatformStore) : Prop :=
  ∀ key claimId, store.activeClaimByDelivery key = some claimId ↔ store.deliveryByClaim claimId = some key

/-- Maps that are inverse to each other, and nothing changed if the call was refused. -/
structure Spared {α : Type} (store : FakePlatformStore) (result : Result α) : Prop where
  inverse : result.2.Inverse
  unchanged : ∀ e, result.1 = .error e → result.2 = store

/-- The store is spared, and every lease in it can still be acknowledged by its holder. -/
structure Harmless (store : FakePlatformStore) (call : Call) : Prop extends Spared store (step parseStr store call) where
  held : ∀ key claimId, (step parseStr store call).2.activeClaimByDelivery key = some claimId →
    ((step parseStr store call).2.acknowledge parseStr ⟨key.2, claimId.text, key.1⟩).1 = .ok ()

/-- A live token comes with the consumer and the event that it was given out for. -/
def Owns (store : FakePlatformStore) (a : ClaimArguments) : Prop :=
  ∀ claimId ∈ parseStr a.claim, ∀ key ∈ store.deliveryByClaim claimId, key = (a.consumerId, a.eventId)

/-- A settlement that gets to the maps is its token's own. -/
def Rightful (store : FakePlatformStore) : Call → Prop
  | .acknowledge a => Owns parseStr store a
  | .retry a retry => retry.validate = .ok () → Owns parseStr store a
  | _ => True

/-- The ids that a claim may draw are neither live nor drawn twice, as `Uuid::now_v7` promises. -/
def Fresh (store : FakePlatformStore) : Call → Prop
  | .claim nowV7 request =>
    (∀ i < request.batchSize, store.deliveryByClaim (nowV7 i) = none) ∧
      ∀ i j, i < j → j < request.batchSize → nowV7 i ≠ nowV7 j
  | _ => True

end Calls

section Maps

variable {α : Type} {parseStr : String → Option Uuid} {store changed : FakePlatformStore} {key : DeliveryKey}
  {claimId : Uuid} {a : ClaimArguments} {call : Call}

theorem inverse_new (ready : Bool) : (new ready).Inverse := by
  intro key claimId
  simp [new]

theorem Inverse.same {result : Result α} (inverse : store.Inverse) (same : result.2 = store) : Spared store result :=
  ⟨same ▸ inverse, fun _ _ => same⟩

/-- The entries of one lease, put in or taken out on both sides. -/
theorem Inverse.entry (live : Bool) (inverse : store.Inverse)
    (forKey : ∀ other, store.activeClaimByDelivery key = some other → other = claimId)
    (forClaim : ∀ other, store.deliveryByClaim claimId = some other → other = key)
    (active : changed.activeClaimByDelivery =
      Function.update store.activeClaimByDelivery key (if live then some claimId else none))
    (claims : changed.deliveryByClaim =
      Function.update store.deliveryByClaim claimId (if live then some key else none)) : changed.Inverse := by
  intro otherKey otherId
  have known := inverse otherKey otherId
  rw [active, claims, Function.update_apply, Function.update_apply]
  by_cases sameKey : otherKey = key <;> by_cases sameId : otherId = claimId
  all_goals grind

theorem Inverse.release (inverse : store.Inverse) (live : store.deliveryByClaim claimId = some key)
    (active : changed.activeClaimByDelivery = Function.update store.activeClaimByDelivery key none)
    (claims : changed.deliveryByClaim = Function.update store.deliveryByClaim claimId none) : changed.Inverse := by
  refine inverse.entry false (fun other leased => ?_) (fun other known => ?_) active claims
  · exact Option.some.inj (leased.symm.trans ((inverse _ _).2 live))
  · exact Option.some.inj (known.symm.trans live)

theorem Inverse.claimLoop {nowV7 : Nat → Uuid} {batchSize : Nat} {consumer : String} {candidates : List EventEnvelope}
    {deliveries : List OutboxDelivery} (inverse : store.Inverse)
    (fresh : ∀ i, deliveries.length ≤ i → i < batchSize → store.deliveryByClaim (nowV7 i) = none)
    (distinct : ∀ i j, i < j → j < batchSize → nowV7 i ≠ nowV7 j) :
    (claimLoop nowV7 consumer batchSize candidates deliveries store).2.Inverse := by
  fun_induction FakePlatformStore.claimLoop with
  | case1 => exact inverse
  | case2 => exact inverse
  | case3 _ _ _ _ _ _ _ ih => exact ih inverse fresh
  | case4 event candidates deliveries store room key free claimId attempt ih =>
    have unleased : store.activeClaimByDelivery key = none := by
      simpa using fun leased => free (.inr (.inr leased))
    have unused : store.deliveryByClaim claimId = none := fresh _ (Nat.le_refl _) (by omega)
    refine ih (inverse.entry true (by simp [unleased]) (by simp [unused]) rfl rfl) fun i later below => ?_
    rw [List.length_append, List.length_singleton] at later
    have other : nowV7 i ≠ claimId := (distinct _ i (by omega) below).symm
    exact (Function.update_of_ne other _ _).trans (fresh i (by omega) below)

section Settle

variable (finish : DeliveryKey → FakePlatformStore → FakePlatformStore)

/-- The settlement of a lease by its holder. -/
theorem Inverse.settle_owned (inverse : store.Inverse) (parsed : parseStr a.claim = some claimId)
    (owned : store.deliveryByClaim claimId = some (a.consumerId, a.eventId)) :
    settle parseStr finish a store = (.ok (), finish (a.consumerId, a.eventId)
      { store with
        activeClaimByDelivery := Function.update store.activeClaimByDelivery (a.consumerId, a.eventId) none
        deliveryByClaim := Function.update store.deliveryByClaim claimId none }) := by
  have leased := (inverse _ _).2 owned
  simp [settle, parseClaimId, parsed, owned, leased]

theorem Inverse.settled (inverse : store.Inverse) (owns : Owns parseStr store a)
    (finishes : ∀ key store, (finish key store).activeClaimByDelivery = store.activeClaimByDelivery ∧
      (finish key store).deliveryByClaim = store.deliveryByClaim) : Spared store (settle parseStr finish a store) := by
  rcases parsed : parseStr a.claim with _ | claimId
  · exact inverse.same (by simp [settle, parseClaimId, parsed])
  rcases live : store.deliveryByClaim claimId with _ | key
  · exact inverse.same (by simp [settle, parseClaimId, parsed, live])
  · obtain rfl := owns claimId parsed key live
    rw [inverse.settle_owned finish parsed live]
    exact ⟨inverse.release live (finishes _ _).1 (finishes _ _).2, nofun⟩

/-- A live token that is not the caller's loses its entry in the call that is refused. -/
theorem Spared.owns (spared : Spared store (settle parseStr finish a store)) :
    Owns parseStr store a := by
  intro claimId parsed key live
  by_contra foreign
  have mismatch : key.1 ≠ a.consumerId ∨ key.2 ≠ a.eventId ∨ store.activeClaimByDelivery key ≠ some claimId := by
    by_contra matching
    exact foreign (Prod.ext (by tauto) (by tauto))
  have refused : settle parseStr finish a store = (.error .conflict,
      { store with deliveryByClaim := Function.update store.deliveryByClaim claimId none }) := by
    simp only [settle, parseClaimId, Option.mem_def.1 parsed, Option.mem_def.1 live]
    exact if_pos mismatch
  rw [refused] at spared
  have kept := congrArg (·.deliveryByClaim claimId) (spared.unchanged _ rfl)
  simp only [Function.update_self, Option.mem_def.1 live] at kept
  cases kept

end Settle

theorem Spared.outcome {result : Result α} (spared : Spared store result) : Spared store result.outcome := by
  refine ⟨spared.inverse, fun e refused => ?_⟩
  rcases result with ⟨e' | value, later⟩
  · exact spared.unchanged e' rfl
  · cases refused

theorem Inverse.committed {clock : RequestClock} {commit : ProbeCommit} (inverse : store.Inverse) :
    Spared store (store.commitProbe clock commit) := by
  refine ⟨inverse, fun e refused => ?_⟩
  have kept : (fakeCommitProbe clock commit store.toFakeState).2 = store.toFakeState := by
    revert refused
    simp only [commitProbe, fakeCommitProbe]
    split_ifs
    · exact fun _ => rfl
    split
    · nofun
    split
    · exact fun _ => rfl
    · nofun
  simp only [commitProbe, kept]

theorem Inverse.claimed {nowV7 : Nat → Uuid} {request : OutboxClaimRequest} (inverse : store.Inverse)
    (fresh : Fresh store (.claim nowV7 request)) : Spared store (store.claim nowV7 request) := by
  unfold claim
  split
  · exact inverse.same rfl
  split
  · exact inverse.same rfl
  · exact ⟨inverse.claimLoop (fun i _ => fresh.1 i) fresh.2, nofun⟩

theorem Inverse.applied (inverse : store.Inverse) : Spared store (store.applyProbeEffectAndAck parseStr a) := by
  unfold applyProbeEffectAndAck
  split
  · exact inverse.same rfl
  dsimp only
  split_ifs with unready done dead lost
  all_goals try exact inverse.same rfl
  all_goals
    rw [not_or, not_not, not_not] at lost
    exact ⟨inverse.release lost.2 rfl rfl, nofun⟩

/-- **One call.** Where the maps are inverse, a rightful call is harmless. -/
theorem Inverse.harmless (parses : ∀ claimId : Uuid, parseStr claimId.text = some claimId) (inverse : store.Inverse)
    (fresh : Fresh store call) (rightful : Rightful parseStr store call) : Harmless parseStr store call := by
  have spared : Spared store (step parseStr store call) := by
    cases call with
    | commitProbe => exact inverse.committed.outcome
    | claim => exact (inverse.claimed fresh).outcome
    | acknowledge a =>
      simp only [step, acknowledge]
      exact inverse.settled _ rightful fun _ _ => ⟨rfl, rfl⟩
    | retry a retry =>
      show Spared store (store.retry parseStr a retry)
      unfold FakePlatformStore.retry
      split
      · exact inverse.same rfl
      next valid => exact inverse.settled _ (rightful valid) fun _ _ => ⟨rfl, rfl⟩
    | applyProbeEffectAndAck => exact inverse.applied.outcome
  refine ⟨spared, fun key claimId leased => ?_⟩
  exact congrArg Prod.fst (spared.inverse.settle_owned _ (parses claimId) ((spared.inverse key claimId).1 leased))

theorem Harmless.rightful (harmless : Harmless parseStr store call) : Rightful parseStr store call := by
  have spared := harmless.toSpared
  cases call with
  | acknowledge a =>
    simp only [step, acknowledge] at spared
    exact spared.owns
  | retry a retry =>
    intro valid
    simp only [step, FakePlatformStore.retry, valid] at spared
    exact spared.owns
  | _ => trivial

end Maps

/-- **Refused calls.** In a run of calls from a new store, the maps are inverse in every state, no refused call changes
anything and every lease can be acknowledged by its holder exactly when no `acknowledge` or `retry` brings a live token
with another consumer or another event. -/
theorem refused_calls_harmless_iff {parseStr : String → Option Uuid}
    (parses : ∀ claimId : Uuid, parseStr claimId.text = some claimId) (ready : Bool) (calls : List Call)
    (fresh : Lockstep.Throughout (step parseStr) Fresh (.new ready) calls) :
    Lockstep.Throughout (step parseStr) (Harmless parseStr) (.new ready) calls ↔
      Lockstep.Throughout (step parseStr) (Rightful parseStr) (.new ready) calls :=
  Lockstep.throughout_congr (fun inverse fresh rightful =>
      let harmless := Inverse.harmless parses inverse fresh rightful
      ⟨harmless, harmless.inverse⟩)
    (fun _ _ harmless => harmless.rightful) (inverse_new ready) fresh

/-- A probe is committed and its event leased. -/
def sampleLeased : List Call :=
  [.commitProbe (sampleCall 0).clock ((sampleCall 0).probe (fun _ => sampleUuid 2) sampleRequest),
    .claim (fun _ => sampleUuid 9) ⟨probeConsumer, [platformProbeEvent], 1, outboxLease⟩]

def sampleAcknowledge (consumerId : String) : Call := .acknowledge ⟨sampleUuid 2, (sampleUuid 9).text, consumerId⟩

theorem sample_calls_harmless :
    Lockstep.Throughout (step Uuid.ofText) (Harmless Uuid.ofText) (.new true)
      (sampleLeased ++ [sampleAcknowledge probeConsumer]) := by
  have own : Rightful Uuid.ofText (Lockstep.after (step Uuid.ofText) (.new true) sampleLeased)
      (sampleAcknowledge probeConsumer) := by
    simp only [Rightful, sampleAcknowledge, Owns]
    decide +kernel
  refine (refused_calls_harmless_iff Uuid.ofText_text true _ ?_).2 ?_
  · refine Lockstep.throughout_cons.2 ⟨trivial, Lockstep.throughout_cons.2 ⟨⟨fun _ _ => rfl, ?_⟩, ?_⟩⟩
    · intro i j before below
      have one : j < 1 := below
      omega
    · exact Lockstep.throughout_cons.2 ⟨trivial, Lockstep.throughout_nil⟩
  · exact Lockstep.throughout_cons.2 ⟨trivial, Lockstep.throughout_cons.2 ⟨trivial,
      Lockstep.throughout_cons.2 ⟨own, Lockstep.throughout_nil⟩⟩⟩

/-- **A stranger's call.** Another consumer brings the token and is refused, and so is the holder after that. -/
theorem foreign_acknowledge_loses_lease :
    Lockstep.answers (step Uuid.ofText) (.new true)
        (sampleLeased ++ [sampleAcknowledge "liqi-other", sampleAcknowledge probeConsumer])
      = [.ok (), .ok (), .error .conflict, .error .conflict] ∧
    Lockstep.answers (step Uuid.ofText) (.new true) (sampleLeased ++ [sampleAcknowledge probeConsumer])
      = [.ok (), .ok (), .ok ()] ∧
    ¬ Harmless Uuid.ofText (Lockstep.after (step Uuid.ofText) (.new true) sampleLeased)
      (sampleAcknowledge "liqi-other") := by
  refine ⟨by decide +kernel, by decide +kernel, fun harmless => ?_⟩
  have own := harmless.rightful
  revert own
  simp only [Rightful, sampleAcknowledge, Owns]
  decide +kernel

end FakePlatformStore

end Liqi.V0
