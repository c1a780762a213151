import Liqi.Database.HandoffRetention
import Liqi.V0.SessionGate

/-!
# Delivery without gaps

A subscription is polled in turns; every poll reads the page after the stored cursor, and the cursor follows each
frame that the channel accepts. So the server events of a subscription, from one insertion of its id to the next,
are the ids after the start cursor, one by one, wherever the loop was interrupted. The handoff log may grow in any
way between two reads; all that is used of it is that its ids are consecutive, as they are after every run of the
database.
-/

namespace Liqi.V0

open Postgres Liqi.Database

/-- The cursors of the server events of a subscription. -/
def cursorsOf (subscriptionId : Uuid) (marks : List Mark) : List String :=
  marks.filterMap fun
    | .enqueued (.text (.serverEvent other cursor _)) => if other = subscriptionId then some cursor else none
    | _ => none

/-- The id after which a subscription starts to read: 0 without a cursor, none for a cursor that is no id. -/
def startId : Option String → Option Nat
  | none => some 0
  | some text => match Rust.parseI64 text with
    | some id => if id < 0 then none else some id.toNat
    | none => none

/-- The cursors are the ids after the start, without gap or repetition. -/
def Gapless (start : Option String) (cursors : List String) : Prop :=
  match startId start with
  | none => cursors = []
  | some after => ∃ k, cursors = (List.range' (after + 1) k).map toString

/-- The subscription is not inserted again. -/
def Uninterrupted (subscriptionId : Uuid) (marks : List Mark) : Prop := ∀ cursor, .inserted subscriptionId cursor ∉ marks

/-! ### The current period -/

/-- The start of the current period of a subscription and the cursors sent in it. -/
def periodStep (subscriptionId : Uuid) (period : Option (Option String × List String)) :
    Mark → Option (Option String × List String)
  | .inserted other start => if other = subscriptionId then some (start, []) else period
  | .enqueued (.text (.serverEvent other cursor _)) =>
    if other = subscriptionId then period.map fun p => (p.1, p.2 ++ [cursor]) else period
  | .enqueued _ => period

def period (subscriptionId : Uuid) (history : List Mark) : Option (Option String × List String) :=
  history.foldl (periodStep subscriptionId) none

section Period

variable {subscriptionId : Uuid} {history marks : List Mark} {mark : Mark}

@[simp] theorem period_snoc : period subscriptionId (history ++ [mark])
    = periodStep subscriptionId (period subscriptionId history) mark := by
  rw [period, List.foldl_append]
  rfl

@[simp] theorem cursorsOf_append : cursorsOf subscriptionId (history ++ marks)
    = cursorsOf subscriptionId history ++ cursorsOf subscriptionId marks :=
  List.filterMap_append

/-- A mark that neither starts the subscription nor is one of its events. -/
def Aside (subscriptionId : Uuid) (mark : Mark) : Prop :=
  (∀ start, mark ≠ .inserted subscriptionId start) ∧ cursorsOf subscriptionId [mark] = []

theorem periodStep_aside (aside : Aside subscriptionId mark) (current : Option (Option String × List String)) :
    periodStep subscriptionId current mark = current := by
  obtain ⟨other, silent⟩ := aside
  unfold periodStep
  split
  next id start =>
    rw [if_neg]
    rintro rfl
    exact other start rfl
  next id cursor event =>
    rw [if_neg]
    rintro rfl
    simp [cursorsOf] at silent
  next => rfl

theorem aside_notice {message : Message} (notice : message.isNotice = true) :
    Aside subscriptionId (.enqueued message) := by
  refine ⟨nofun, ?_⟩
  cases message with
  | pong bytes => rfl
  | text frame =>
    cases frame with
    | serverEvent id cursor event => cases notice
    | _ => rfl

/-- Within a period the events are those since its start. -/
theorem period_split {before during : List Mark} {start : Option String}
    (same : Uninterrupted subscriptionId during) :
    period subscriptionId (before ++ .inserted subscriptionId start :: during)
      = some (start, cursorsOf subscriptionId during) := by
  induction during using List.reverseRecOn with
  | nil =>
    rw [period_snoc, periodStep, if_pos rfl]
    rfl
  | append_singleton during mark ih =>
    have earlier : Uninterrupted subscriptionId during := fun cursor member => same cursor (List.mem_append_left _ member)
    rw [← List.cons_append, ← List.append_assoc, period_snoc, ih earlier, cursorsOf_append]
    cases mark with
    | inserted id cursor =>
      have other : id ≠ subscriptionId := by
        rintro rfl
        exact same cursor (List.mem_append_right _ (List.mem_singleton.2 rfl))
      simp [periodStep, other, cursorsOf]
    | enqueued message =>
      cases message with
      | pong bytes => simp [periodStep, cursorsOf]
      | text frame =>
        cases frame with
        | serverEvent id cursor event =>
          by_cases mine : id = subscriptionId <;> simp [periodStep, cursorsOf, mine]
        | _ => simp [periodStep, cursorsOf]

/-- The current period goes back to the last insertion of the subscription. -/
theorem period_some {start : Option String} {cursors : List String}
    (current : period subscriptionId history = some (start, cursors)) :
    ∃ before during, history = before ++ .inserted subscriptionId start :: during ∧
      Uninterrupted subscriptionId during ∧ cursors = cursorsOf subscriptionId during := by
  induction history using List.reverseRecOn generalizing start cursors with
  | nil => cases current
  | append_singleton history mark ih =>
    -- the last mark starts the period, or belongs to the one before it
    by_cases begins : ∃ at_, mark = .inserted subscriptionId at_
    · obtain ⟨at_, rfl⟩ := begins
      rw [period_snoc, periodStep, if_pos rfl] at current
      cases current
      exact ⟨history, [], rfl, fun _ => List.not_mem_nil, rfl⟩
    · have earlier : ∃ sent, period subscriptionId history = some (start, sent) := by
        rw [period_snoc] at current
        unfold periodStep at current
        split at current
        · split_ifs at current with mine
          · exact absurd ⟨_, by rw [mine]⟩ begins
          · exact ⟨_, current⟩
        · split_ifs at current
          · obtain ⟨p, old, same⟩ := Option.map_eq_some_iff.1 current
            cases same
            exact ⟨_, old⟩
          · exact ⟨_, current⟩
        · exact ⟨_, current⟩
      obtain ⟨sent, old⟩ := earlier
      obtain ⟨before, during, rfl, same, rfl⟩ := ih old
      have longer : Uninterrupted subscriptionId (during ++ [mark]) := by
        intro cursor member
        rcases List.mem_append.1 member with old | new
        · exact same cursor old
        · exact begins ⟨cursor, (List.mem_singleton.1 new).symm⟩
      refine ⟨before, during ++ [mark], by simp, longer, ?_⟩
      rw [List.append_assoc, List.cons_append, period_split longer] at current
      cases current
      rfl

end Period

/-! ### The invariant -/

/-- In every prefix of the history, what a subscription was sent in its period has no gap, and it was sent nothing
before its first one. -/
def Sound (history : List Mark) : Prop :=
  ∀ id n, (∀ start cursors, period id (history.take n) = some (start, cursors) → Gapless start cursors) ∧
    (period id (history.take n) = none → cursorsOf id (history.take n) = [])

/-- The stored cursor is the last one sent in the current period, or its start. -/
structure Tracked (set : SubscriptionSet) (history : List Mark) : Prop where
  sound : Sound history
  stored : ∀ id subscription, set.entries[id]? = some subscription → ∃ start cursors,
    period id history = some (start, cursors) ∧
      subscription.cursor.map RealtimeCursor.opaqueText = cursors.getLast?.or start

section Invariant

variable {set after : SubscriptionSet} {history : List Mark}

theorem Gapless.nil (start : Option String) : Gapless start [] := by
  unfold Gapless
  split
  · rfl
  · exact ⟨0, rfl⟩

theorem Sound.snoc {mark : Mark} (sound : Sound history)
    (whole : ∀ id, (∀ start cursors, period id (history ++ [mark]) = some (start, cursors) → Gapless start cursors) ∧
      (period id (history ++ [mark]) = none → cursorsOf id (history ++ [mark]) = [])) :
    Sound (history ++ [mark]) := by
  intro id n
  by_cases old : n ≤ history.length
  · rw [List.take_append_of_le_length old]
    exact sound id n
  · rw [List.take_of_length_le (by rw [List.length_append, List.length_singleton]; omega)]
    exact whole id

/-- What `Sound` says of the whole history. -/
theorem Sound.whole (sound : Sound history) (id : Uuid) :
    (∀ start cursors, period id history = some (start, cursors) → Gapless start cursors) ∧
      (period id history = none → cursorsOf id history = []) := by
  have all := sound id history.length
  rw [List.take_length] at all
  exact all

theorem Sound.aside {mark : Mark} (sound : Sound history) (aside : ∀ id, Aside id mark) : Sound (history ++ [mark]) := by
  refine sound.snoc fun id => ?_
  rw [period_snoc, periodStep_aside (aside id), cursorsOf_append, (aside id).2, List.append_nil]
  exact sound.whole id

theorem Tracked.aside {mark : Mark} (tracked : Tracked set history) (aside : ∀ id, Aside id mark) :
    Tracked set (history ++ [mark]) := by
  refine ⟨tracked.sound.aside aside, fun id subscription present => ?_⟩
  rw [period_snoc, periodStep_aside (aside id)]
  exact tracked.stored id subscription present

theorem Tracked.noticed {later : List Mark} (tracked : Tracked set history) (notices : Noticed history later) :
    Tracked set later := by
  obtain ⟨messages, plain, rfl⟩ := notices
  induction messages using List.reverseRecOn with
  | nil => simpa using tracked
  | append_singleton messages message ih =>
    rw [List.map_append, ← List.append_assoc]
    refine (ih fun m member => plain m (List.mem_append_left _ member)).aside fun id => ?_
    exact aside_notice (plain message (List.mem_append_right _ (List.mem_singleton.2 rfl)))

/-- Fewer subscriptions, with the cursors they had. -/
theorem Tracked.mono (tracked : Tracked set history)
    (kept : ∀ (id : Uuid) (subscription : Subscription), after.entries[id]? = some subscription →
      set.entries[id]? = some subscription) :
    Tracked after history :=
  ⟨tracked.sound, fun id subscription present => tracked.stored id subscription (kept id subscription present)⟩

theorem startCursor_ok {value : Option String} {cursor : Option RealtimeCursor}
    (made : SubscriptionSet.startCursor value = .ok cursor) : cursor.map RealtimeCursor.opaqueText = value := by
  cases value with
  | none => cases made; rfl
  | some text =>
    unfold SubscriptionSet.startCursor at made
    dsimp only at made
    split at made
    next given =>
      cases made
      exact congrArg some (RealtimeCursor.fromOpaque_ok given)
    next => cases made

theorem compare_ne {a b : Uuid} (ne : a ≠ b) : compare a b ≠ .eq := fun same => ne (Std.LawfulEqOrd.eq_of_compare same)

/-- A subscription starts a period at its cursor. -/
theorem Tracked.subscribe {payload : SubscribePayload} {maximum : Nat} (tracked : Tracked set history)
    (accepted : set.subscribe payload maximum = .ok after) : Tracked after (history ++ startMarks [payload]) := by
  unfold SubscriptionSet.subscribe at accepted
  split_ifs at accepted
  split at accepted
  · cases accepted
  next cursor made =>
    cases accepted
    show Tracked _ (history ++ [.inserted payload.subscriptionId payload.resumeCursor])
    constructor
    · refine tracked.sound.snoc fun id => ?_
      rw [period_snoc, periodStep, cursorsOf_append]
      split_ifs with mine
      · refine ⟨?_, nofun⟩
        intro start cursors current
        cases current
        exact .nil _
      · simpa [cursorsOf] using tracked.sound.whole id
    · intro id subscription present
      rw [Std.TreeMap.getElem?_insert] at present
      rw [period_snoc, periodStep]
      by_cases mine : payload.subscriptionId = id
      · subst mine
        rw [if_pos Std.ReflOrd.compare_self] at present
        cases present
        rw [if_pos rfl]
        exact ⟨_, _, rfl, startCursor_ok made⟩
      · rw [if_neg (compare_ne mine)] at present
        rw [if_neg mine]
        exact tracked.stored id subscription present

theorem Tracked.resumeAll {maximum : Nat} (subscriptions : List ResumeSubscription) (tracked : Tracked set history) :
    Tracked (SubscriptionSet.resumeAll maximum subscriptions set).1
      (history ++ startMarks (SubscriptionSet.resumeAll maximum subscriptions set).2.1) := by
  induction subscriptions generalizing set history with
  | nil =>
    show Tracked set (history ++ [])
    rw [List.append_nil]
    exact tracked
  | cons subscription rest ih =>
    unfold SubscriptionSet.resumeAll
    dsimp only
    split
    · show Tracked set (history ++ [])
      rw [List.append_nil]
      exact tracked
    next inserted accepted =>
      have further := ih (tracked.subscribe accepted)
      rw [List.append_assoc] at further
      exact further

theorem Tracked.resume (maximum : Nat) (subscriptions : List ResumeSubscription) (tracked : Tracked set history) :
    Tracked (set.resume subscriptions maximum).1 (history ++ startMarks (set.resume subscriptions maximum).2.1) := by
  unfold SubscriptionSet.resume
  split_ifs
  · show Tracked set (history ++ [])
    rw [List.append_nil]
    exact tracked
  · exact tracked.resumeAll subscriptions

/-! ### Polls -/

theorem getElem?_advance (id other : Uuid) (cursor : RealtimeCursor) : (set.advance id cursor).entries[other]?
    = if id = other then (set.entries[other]?).map fun subscription => { subscription with cursor := some cursor }
      else set.entries[other]? := by
  unfold SubscriptionSet.advance
  rw [Std.TreeMap.getElem?_modify]
  by_cases mine : id = other
  · subst mine
    rw [if_pos Std.ReflOrd.compare_self, if_pos rfl]
  · rw [if_neg (compare_ne mine), if_neg mine]

/-- Storing a cursor that is there already. -/
theorem getElem?_advance_twice (id other : Uuid) (cursor : RealtimeCursor) :
    ((set.advance id cursor).advance id cursor).entries[other]? = (set.advance id cursor).entries[other]? := by
  rw [getElem?_advance, getElem?_advance]
  split_ifs
  · rw [Option.map_map]
    rfl
  · rfl

/-- The next event of a subscription carries the id `next`. -/
def Expects (history : List Mark) (id : Uuid) (next : Nat) : Prop :=
  ∃ start cursors first, period id history = some (start, cursors) ∧ startId start = some first ∧
    next = first + cursors.length + 1

theorem Gapless.snoc {start : Option String} {cursors : List String} {first : Nat} (gapless : Gapless start cursors)
    (begins : startId start = some first) : Gapless start (cursors ++ [toString (first + cursors.length + 1)]) := by
  unfold Gapless at gapless ⊢
  rw [begins] at gapless ⊢
  obtain ⟨k, rfl⟩ := gapless
  refine ⟨k + 1, ?_⟩
  rw [List.length_map, List.length_range', List.range'_1_concat, List.map_append]
  simp only [List.map_cons, List.map_nil]
  rw [show first + 1 + k = first + k + 1 by omega]

/-- One event that is enqueued and whose cursor is then stored. -/
theorem Tracked.event {id : Uuid} {next : Nat} {delivery : RealtimeDelivery} (tracked : Tracked set history)
    (expects : Expects history id next) (text : delivery.cursor.opaqueText = toString next) :
    Tracked (set.advance id delivery.cursor) (history ++ eventMarks id [delivery]) ∧
      Expects (history ++ eventMarks id [delivery]) id (next + 1) := by
  obtain ⟨start, cursors, first, current, begins, rfl⟩ := expects
  have gapless := (tracked.sound.whole id).1 start cursors current
  show Tracked _ (history ++ [.enqueued (.text (.serverEvent id delivery.cursor.opaqueText delivery.event))]) ∧ _
  have extended : period id (history ++ [.enqueued (.text (.serverEvent id delivery.cursor.opaqueText delivery.event))])
      = some (start, cursors ++ [delivery.cursor.opaqueText]) := by
    rw [period_snoc, periodStep, if_pos rfl, current]
    rfl
  refine ⟨⟨tracked.sound.snoc fun other => ?_, fun other subscription present => ?_⟩, ?_⟩
  · by_cases mine : id = other
    · subst mine
      rw [extended]
      refine ⟨?_, nofun⟩
      intro start' cursors' same
      cases same
      rw [text]
      exact gapless.snoc begins
    · rw [period_snoc, periodStep, if_neg mine, cursorsOf_append]
      simpa [cursorsOf, mine] using tracked.sound.whole other
  · rw [getElem?_advance] at present
    by_cases mine : id = other
    · subst mine
      rw [if_pos rfl] at present
      obtain ⟨old, _, rfl⟩ := Option.map_eq_some_iff.1 present
      refine ⟨_, _, extended, ?_⟩
      rw [List.getLast?_append]
      rfl
    · rw [if_neg mine] at present
      rw [period_snoc, periodStep, if_neg mine]
      exact tracked.stored other subscription present
  · refine ⟨_, _, _, extended, begins, ?_⟩
    rw [List.length_append, List.length_singleton]
    omega

/-- The deliveries of a batch, one after the other. -/
theorem Tracked.events {id : Uuid} {deliveries : List RealtimeDelivery} {next n : Nat} (tracked : Tracked set history)
    (expects : Expects history id next)
    (texts : deliveries.map (·.cursor.opaqueText) = (List.range' next n).map toString) :
    Tracked (set.advanceAll id deliveries) (history ++ eventMarks id deliveries) := by
  induction deliveries generalizing set history next n with
  | nil =>
    show Tracked set (history ++ [])
    rw [List.append_nil]
    exact tracked
  | cons delivery rest ih =>
    cases n with
    | zero => cases texts
    | succ n =>
      rw [List.range'_succ, List.map_cons, List.map_cons] at texts
      injection texts with text others
      obtain ⟨tracked, expects⟩ := tracked.event expects text
      have further := ih tracked expects others
      rw [List.append_assoc] at further
      exact further

/-- The id from which a read goes on. -/
theorem afterHandoffId_startId {cursor : Option RealtimeCursor} {after : Nat}
    (read : afterHandoffId cursor = .ok (after : Int)) : startId (cursor.map RealtimeCursor.opaqueText) = some after := by
  cases cursor with
  | none =>
    have zero : after = 0 := by
      injection read with zero
      omega
    rw [zero]
    rfl
  | some cursor =>
    unfold afterHandoffId at read
    unfold startId
    dsimp only [Option.map_some] at read ⊢
    split at read
    · cases read
    next id parsed =>
      rw [parsed]
      split_ifs at read with negative
      injection read with same
      subst same
      dsimp only
      rw [if_neg negative, Int.toNat_natCast]

theorem startId_toString {n after : Nat} (read : startId (some (toString n)) = some after) : after = n := by
  unfold startId at read
  dsimp only at read
  rw [Rust.parseI64_toString] at read
  split_ifs at read
  dsimp only at read
  split_ifs at read
  · injection read with same
    omega

/-- A successful read goes on where the period stands. -/
theorem Tracked.expects {id : Uuid} {subscription : Subscription} {after : Nat} (tracked : Tracked set history)
    (present : set.entries[id]? = some subscription) (read : afterHandoffId subscription.cursor = .ok (after : Int)) :
    Expects history id (after + 1) := by
  obtain ⟨start, cursors, current, stored⟩ := tracked.stored id subscription present
  have gapless := (tracked.sound.whole id).1 start cursors current
  have position := afterHandoffId_startId read
  rw [stored] at position
  unfold Gapless at gapless
  cases begins : startId start with
  | none =>
    -- without a start id nothing was sent, so the stored cursor is the start
    rw [begins] at gapless
    subst gapless
    rw [List.getLast?_nil, Option.none_or, begins] at position
    cases position
  | some first =>
    rw [begins] at gapless
    obtain ⟨k, rfl⟩ := gapless
    refine ⟨start, _, first, current, begins, ?_⟩
    rw [List.length_map, List.length_range']
    cases k with
    | zero =>
      rw [List.range'_zero, List.map_nil, List.getLast?_nil, Option.none_or, begins] at position
      injection position with same
      omega
    | succ k =>
      rw [List.getLast?_map, List.getLast?_range', if_neg (by omega), Option.map_some, Option.some_or] at position
      have := startId_toString position
      omega

/-- What a reader of the handoff log returns; a read may fail at any time. -/
def ReadsLog (reader : Reader) : Prop :=
  ∀ request batch, reader request = .ok batch →
    ∃ db : Db, ConsecutiveIds db.handoffV0 ∧ readCommitted db request = .ok batch

theorem map_take_range' {deliveries : List RealtimeDelivery} {next n : Nat}
    (texts : deliveries.map (·.cursor.opaqueText) = (List.range' next n).map toString) (count : Nat) :
    (deliveries.take count).map (·.cursor.opaqueText) = (List.range' next (min count n)).map toString := by
  rw [List.map_take, texts, ← List.map_take, Table.take_range']

/-- The last cursor of a batch is stored already when the batch is done. -/
theorem getElem?_afterBatch {batch : RealtimeEventBatch} {id : Uuid}
    (last : batch.nextCursor = batch.deliveries.getLast?.map RealtimeDelivery.cursor) (other : Uuid) :
    (set.afterBatch id batch).entries[other]? = (set.advanceAll id batch.deliveries).entries[other]? := by
  unfold SubscriptionSet.afterBatch
  rw [last]
  obtain ⟨deliveries, next⟩ := batch
  induction deliveries using List.reverseRecOn with
  | nil => rfl
  | append_singleton deliveries delivery _ =>
    rw [List.getLast?_concat]
    unfold SubscriptionSet.advanceAll
    rw [List.foldl_append]
    exact getElem?_advance_twice id other delivery.cursor

end Invariant

/-- One event of the loop. -/
theorem Tracked.step {state : RealtimeSessionState} {session after : Session} {event : Event} {control : SessionControl}
    (tracked : Tracked session.protocol.subscriptions session.history)
    (reads : ∀ reader, event = .poll reader → ReadsLog reader)
    (handled : Handled state session event control after) :
    Tracked after.protocol.subscriptions after.history := by
  have aside (frame : ServerFrameBody) (silent : ∀ id, cursorsOf id [.enqueued (.text frame)] = []) :
      ∀ id, Aside id (.enqueued (.text frame)) := fun id => ⟨nofun, silent id⟩
  cases handled with
  | left subscriptions notices | noticed negotiated authenticated subscriptions notices =>
    rw [subscriptions]
    exact tracked.noticed notices
  | welcomed first protocol history | authenticated negotiated enabled protocol history =>
    rw [protocol, history]
    exact tracked.aside (aside _ fun _ => rfl)
  | subscribed payload set cursor authenticated accepted protocol history =>
    rw [protocol, history]
    exact (tracked.subscribe accepted).aside (aside _ fun _ => rfl)
  | subscribedLeft payload set accepted protocol notices =>
    rw [protocol]
    exact (tracked.subscribe accepted).noticed notices
  | unsubscribed subscriptionId protocol notices =>
    rw [protocol]
    refine (tracked.mono fun id subscription present => ?_).noticed notices
    change (session.protocol.subscriptions.entries.erase subscriptionId)[id]? = some subscription at present
    rw [Std.TreeMap.getElem?_erase] at present
    split_ifs at present
    exact present
  | resumed subscriptions set payloads failure authenticated resumed protocol notices =>
    rw [protocol]
    have further := Tracked.resume state.maxSubscriptions subscriptions tracked
    rw [resumed] at further
    exact further.noticed notices
  | unread subscriptionId subscription set next protocol history =>
    rw [protocol, history]
    obtain ⟨same, _⟩ := SubscriptionSet.nextForPoll_some next
    exact tracked.mono fun id found present => same ▸ present
  | polled subscriptionId subscription set batch authenticated next read protocol history =>
    rw [protocol, history]
    obtain ⟨same, present⟩ := SubscriptionSet.nextForPoll_some next
    obtain ⟨db, ids, answer⟩ := reads _ rfl _ _ read
    obtain ⟨position, n, from_, texts, last⟩ := readCommitted_ok ids answer
    have expects := tracked.expects present from_
    have moved : Tracked set session.history := tracked.mono fun id found kept => same ▸ kept
    exact (moved.events expects texts).mono fun id found kept => getElem?_afterBatch last id ▸ kept
  | polledLeft subscriptionId subscription set batch count authenticated next read protocol notices =>
    rw [protocol]
    obtain ⟨same, present⟩ := SubscriptionSet.nextForPoll_some next
    obtain ⟨db, ids, answer⟩ := reads _ rfl _ _ read
    obtain ⟨position, n, from_, texts, _⟩ := readCommitted_ok ids answer
    have expects := tracked.expects present from_
    have moved : Tracked set session.history := tracked.mono fun id found kept => same ▸ kept
    exact (moved.events expects (map_take_range' texts count)).noticed notices

/-- **Delivery without gaps.** Where polls read a handoff log with consecutive ids, or fail: from an insertion of a
subscription on, as long as it is not inserted again, the server events enqueued for it are the ids after its start
cursor, one by one; the stored cursor is that of the last of them or the start cursor; and no event comes before
the first insertion. -/
theorem delivery_gapless (host : Host) (state : RealtimeSessionState) (now : Instant) (events : List Event)
    (reads : ∀ reader, .poll reader ∈ events → ReadsLog reader) (subscriptionId : Uuid) :
    let session := (runSession host state now events).session
    (∀ before start during after, session.history = before ++ .inserted subscriptionId start :: (during ++ after) →
      Uninterrupted subscriptionId during → Gapless start (cursorsOf subscriptionId during)) ∧
    (∀ subscription, session.protocol.subscriptions.entries[subscriptionId]? = some subscription →
      ∃ before start during, session.history = before ++ .inserted subscriptionId start :: during ∧
        Uninterrupted subscriptionId during ∧
        subscription.cursor.map RealtimeCursor.opaqueText = (cursorsOf subscriptionId during).getLast?.or start) ∧
    (∀ before after, session.history = before ++ after → Uninterrupted subscriptionId before →
      cursorsOf subscriptionId before = []) := by
  intro session
  have start : Tracked SubscriptionSet.empty [] := by
    refine ⟨fun id n => ⟨?_, fun _ => ?_⟩, nofun⟩
    · rw [List.take_nil]
      nofun
    · rw [List.take_nil]
      rfl
  have tracked : Tracked session.protocol.subscriptions session.history :=
    runSession_invariant (P := fun running => Tracked running.session.protocol.subscriptions running.session.history)
      start fun session event control after member before handled =>
        before.step (fun reader same => reads reader (same ▸ member)) handled
  refine ⟨?_, ?_, ?_⟩
  · intro before start during after split same
    have upTo := (tracked.sound subscriptionId (before ++ .inserted subscriptionId start :: during).length).1 start
      (cursorsOf subscriptionId during)
    rw [split, ← List.cons_append, ← List.append_assoc, List.take_left] at upTo
    exact upTo (period_split same)
  · intro subscription present
    obtain ⟨start, cursors, current, stored⟩ := tracked.stored subscriptionId subscription present
    obtain ⟨before, during, split, same, rfl⟩ := period_some current
    exact ⟨before, start, during, split, same, stored⟩
  · intro before after split never
    have upTo := (tracked.sound subscriptionId before.length).2
    rw [split, List.take_left] at upTo
    refine upTo ?_
    cases current : period subscriptionId before with
    | none => rfl
    | some found =>
      obtain ⟨earlier, during, shape, _⟩ := period_some (current : period subscriptionId before = some (found.1, found.2))
      exact absurd (shape ▸ List.mem_append_right _ (List.mem_cons_self)) (never found.1)

theorem consecutiveIds_runCalls (calls : List Call) : ConsecutiveIds (runCalls calls).handoffV0 := by
  have retained : Retains 0 (runCalls calls).handoffV0 := runCalls_logsRetained calls .v0
  intro id
  constructor
  · rintro ⟨row, stored, rfl⟩
    exact retained.bounded row stored
  · rintro ⟨low, high⟩
    exact retained.kept id low high

theorem readsLog_runCalls (calls : List Call) : ReadsLog (readCommitted (runCalls calls)) :=
  fun _ _ read => ⟨_, consecutiveIds_runCalls calls, read⟩

/-! ### A session on two probes -/

def sampleProbe (probe event : Fin 256) : Call :=
  .requestV0
    { probeId := some (sampleUuid probe), eventId := some (sampleUuid event), occurredAt := some 0, correlationId := none,
      causationId := none, metadata := none } ⟨0, 0, 0⟩

/-- A client whose texts name the frames it sends. -/
def sampleHost : Host where
  fromStr text := some (.map (Session.frameFields.map fun field => (field, .string text)))
  fromValue value := match value.get "kind" with
    | .string "hello" => some ⟨"0", .hello ["0"]⟩
    | .string "authenticate" => some ⟨"0", .authenticate "bearer" "credential"⟩
    | _ => some ⟨"0", .subscribe ⟨sampleUuid 9, platformProbeEvent, none⟩⟩
  encodedLength _ _ := some 0
  writer _ := ⟨1, false⟩

def sampleState : RealtimeSessionState where
  maxMessageBytes := 64
  outboundCapacity := 2
  heartbeatInterval := 20000
  heartbeatTimeout := 60000
  slowConsumerDisconnect := 5000
  maxSubscriptions := 1
  devAuthenticationEnabled := true

def sampleEvents : List Event :=
  [.incoming 0 (.text "hello"), .incoming 0 (.text "authenticate"), .incoming 0 (.text "subscribe"),
    .poll (readCommitted (runCalls [sampleProbe 1 2, sampleProbe 3 4]))]

theorem two_probes_delivered :
    let history := (runSession sampleHost sampleState 0 sampleEvents).session.history
    ∃ during, history = history.take 2 ++ .inserted (sampleUuid 9) none :: (during ++ []) ∧
      cursorsOf (sampleUuid 9) during = ["1", "2"] ∧ Gapless none (cursorsOf (sampleUuid 9) during) := by
  intro history
  have reads : ∀ reader, .poll reader ∈ sampleEvents → ReadsLog reader := by
    intro reader member
    simp only [sampleEvents, List.mem_cons, List.not_mem_nil, or_false, reduceCtorEq, false_or, Event.poll.injEq] at member
    exact member ▸ readsLog_runCalls _
  have split : history = history.take 2 ++ .inserted (sampleUuid 9) none :: (history.drop 3 ++ []) := by decide +kernel
  refine ⟨history.drop 3, split, by decide +kernel, ?_⟩
  refine (delivery_gapless sampleHost sampleState 0 sampleEvents reads (sampleUuid 9)).1 _ none _ [] split ?_
  have quiet : (history.drop 3).all (fun mark => match mark with | .inserted .. => false | _ => true) = true := by
    decide +kernel
  intro cursor member
  exact absurd (List.all_eq_true.1 quiet _ member) Bool.false_ne_true

end Liqi.V0
