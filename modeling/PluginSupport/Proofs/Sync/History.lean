import Mathlib.Data.List.Sort
import PluginSupport.Proofs.Sync.Step

/-!
# What a channel was told

The events on the change channel of a watch, when no other watch is given the channel. The
channel's history is the transport's history from the watch on, less what the subscription does not
hear: changes after its end, changes of keys that it does not cover, and changes that found the
channel closed or full (`Moment.heard?`).

The invariant is `Hub.Exclusive`: of all subscriptions in the hub at most the one is on the channel.
It says nothing about handles and registrations, so it outlasts whatever is done with them.

Results:
1. `Hub.Exclusive.accepted_step`: what one action adds to the channel.
2. `SoleWatch.events_exact`: what a run adds to it, and what follows for the revisions.
-/
namespace PluginSupport

/-! ## Moments -/

namespace Moment

/-- Whether a subscription on a transport is live. -/
def Live (moment : Moment) (number : Nat) (subscription : Subscription) : Prop :=
  subscription ∈ (moment.hub.transports number).subscriptions

/-- Whether a subscription hears of a change of a key: it is live, one of its prefixes begins the
key, and its channel is neither closed nor full. -/
def Hears (moment : Moment) (number : Nat) (subscription : Subscription) (key : String) : Prop :=
  moment.Live number subscription ∧ subscription.Covers key ∧
    (moment.hub.changes subscription.sink).isClosed = false ∧
    (moment.hub.changes subscription.sink).isFull = false

instance (moment : Moment) (number : Nat) (subscription : Subscription) (key : String) :
    Decidable (moment.Hears number subscription key) :=
  inferInstanceAs (Decidable (_ ∈ _ ∧ _ ∧ _ ∧ _))

/-- Whether a subscription would hear of a change of a key, were its channel not full. -/
def Loses (moment : Moment) (number : Nat) (subscription : Subscription) (key : String) : Prop :=
  moment.Live number subscription ∧ subscription.Covers key ∧
    (moment.hub.changes subscription.sink).isClosed = false ∧
    (moment.hub.changes subscription.sink).isFull = true

instance (moment : Moment) (number : Nat) (subscription : Subscription) (key : String) :
    Decidable (moment.Loses number subscription key) :=
  inferInstanceAs (Decidable (_ ∈ _ ∧ _ ∧ _ ∧ _))

/-- The change of a transport's store that a subscription on it hears of. -/
def heard? (moment : Moment) (number : Nat) (subscription : Subscription) : Option ChangeEvent :=
  (moment.change? number).filter fun event => moment.Hears number subscription event.key

/-- The change of a transport's store that a subscription on it loses to a full channel. -/
def lost? (moment : Moment) (number : Nat) (subscription : Subscription) : Option ChangeEvent :=
  (moment.change? number).filter fun event => moment.Loses number subscription event.key

theorem heard?_eq_some_iff {moment : Moment} {number : Nat} {subscription : Subscription}
    {event : ChangeEvent} :
    moment.heard? number subscription = some event ↔
      moment.change? number = some event ∧ moment.Hears number subscription event.key := by
  simp [heard?, Option.filter_eq_some_iff]

theorem lost?_eq_some_iff {moment : Moment} {number : Nat} {subscription : Subscription}
    {event : ChangeEvent} :
    moment.lost? number subscription = some event ↔
      moment.change? number = some event ∧ moment.Loses number subscription event.key := by
  simp [lost?, Option.filter_eq_some_iff]

theorem heard?_of_no_change {moment : Moment} {number : Nat}
    (noChange : moment.change? number = none) (subscription : Subscription) :
    moment.heard? number subscription = none := by
  simp [heard?, noChange]

theorem heard?_of_change {moment : Moment} {number : Nat} {event : ChangeEvent}
    (change : moment.change? number = some event) (subscription : Subscription) :
    moment.heard? number subscription =
      if moment.Hears number subscription event.key then some event else none := by
  simp [heard?, change, Option.filter]

end Moment

namespace Hub

variable {hub : Hub} {number sink : Nat} {subscription : Subscription} {action : Action}
  {actions : List Action} {moment : Moment} {event : ChangeEvent}

/-! ## One channel, one subscription -/

/-- Subscriptions of a transport that are on a channel. -/
def onChannel (hub : Hub) (number sink : Nat) : List Subscription :=
  (hub.transports number).subscriptions.filter fun subscription => subscription.sink = sink

theorem mem_onChannel :
    subscription ∈ hub.onChannel number subscription.sink ↔
      subscription ∈ (hub.transports number).subscriptions := by
  simp [onChannel]

theorem concerned_eq_countP (hub : Hub) (number : Nat) (key : String) (sink : Nat) :
    Transport.concerned (hub.transports number).subscriptions key sink =
      (hub.onChannel number sink).countP fun subscription => subscription.Covers key := by
  simp [Transport.concerned, onChannel, List.countP_filter]

/-- Only a watch puts a subscription on a channel. -/
theorem onChannel_step (sound : hub.Sound)
    (elsewhere : (⟨hub, action⟩ : Moment).sink? ≠ some sink) (number : Nat) :
    ((hub.step action).1.onChannel number sink).Sublist (hub.onChannel number sink) := by
  have stepped := stepped sound action
  generalize (hub.step action).1 = after at stepped
  cases stepped with
  | change =>
    simp only [onChannel, transports_commit]
    split
    · rename_i same
      subst same
      exact List.filter_sublist.filter _
    · exact .refl _
  | @start other subscription started =>
    have differs : subscription.sink ≠ sink := by
      simpa [Moment.sink?, started] using elsewhere
    simp only [onChannel, transports_commit]
    split
    · rename_i same
      subst same
      simp [Transport.subscribe, differs]
    · exact .refl _
  | quiet _ _ quiet => exact (quiet.undisturbed.subscriptions number).filter _

/-- A change takes no room on a channel that no subscription of its transport is on. -/
theorem told_of_vacant (vacant : hub.onChannel number sink = []) (event : ChangeEvent) :
    (Transport.told event (hub.transports number).subscriptions hub.changes sink).accepted =
      (hub.changes sink).accepted := by
  simp [Transport.told, concerned_eq_countP, vacant, Channel.offered_zero]

/-! ### Before the watch -/

/-- A channel that no subscription was ever on. -/
structure Unused (hub : Hub) (sink : Nat) : Prop where
  sound : hub.Sound
  vacant : ∀ number, hub.onChannel number sink = []
  accepted : (hub.changes sink).accepted = []

theorem unused_start (sink : Nat) : start.Unused sink where
  sound := sound_start
  vacant _ := rfl
  accepted := rfl

theorem Unused.step (unused : hub.Unused sink)
    (elsewhere : (⟨hub, action⟩ : Moment).sink? ≠ some sink) :
    (hub.step action).1.Unused sink where
  sound := unused.sound.step action
  vacant number := by
    have fewer := onChannel_step unused.sound elsewhere number
    rwa [unused.vacant number, List.sublist_nil] at fewer
  accepted := by
    have stepped := stepped unused.sound action
    generalize (hub.step action).1 = after at stepped
    cases stepped with
    | @change number event =>
      exact (told_of_vacant (unused.vacant number) event).trans unused.accepted
    | start => exact (idle_addSender hub.changes _ sink).accepted.trans unused.accepted
    | quiet _ _ quiet =>
      rcases quiet.undisturbed.accepted sink with same | ⟨-, empty⟩
      · exact same.trans unused.accepted
      · exact empty

theorem Unused.after (unused : hub.Unused sink)
    (elsewhere : ∀ moment ∈ hub.moments actions, moment.sink? ≠ some sink) :
    (hub.after actions).Unused sink :=
  holds_after (fun _ _ => Unused.step) unused elsewhere

/-! ### From the watch on -/

/-- A channel belongs to one subscription, which may have ended. -/
structure Exclusive (hub : Hub) (number : Nat) (subscription : Subscription) : Prop where
  sound : hub.Sound
  transport_lt : number < hub.nextTransport
  sink_lt : subscription.sink < hub.nextChannel
  others : ∀ other ≠ number, hub.onChannel other subscription.sink = []
  own : (hub.onChannel number subscription.sink).Sublist [subscription]

/-- A watch on an unused channel makes the channel its own. -/
theorem Unused.watch (unused : hub.Unused subscription.sink)
    (started : hub.started? action = some (number, subscription)) :
    (hub.step action).1.Exclusive number subscription := by
  obtain ⟨transportKnown, channelKnown⟩ := known_of_start unused.sound started
  obtain ⟨_, _, _, _, -, -, -, -, numbered⟩ := watch_of_start started
  obtain ⟨resync, registrations, same⟩ := step_of_start started
  have subscribed : ∀ other, (hub.step action).1.onChannel other subscription.sink =
      if other = number then [subscription] else [] := by
    intro other
    have vacant := unused.vacant other
    rw [same]
    simp only [onChannel, transports_commit] at vacant ⊢
    split
    · rename_i here
      subst here
      simp only [Transport.subscribe, List.filter_append, vacant, ← numbered]
      simp
    · exact vacant
  exact {
    sound := unused.sound.step action
    transport_lt := Nat.lt_of_lt_of_le transportKnown (nextTransport_le_step unused.sound action)
    sink_lt := Nat.lt_of_lt_of_le channelKnown (nextChannel_le_step unused.sound action)
    others := fun other different => (subscribed other).trans (if_neg different)
    own := by rw [subscribed, if_pos rfl] }

theorem Exclusive.step (exclusive : hub.Exclusive number subscription)
    (elsewhere : (⟨hub, action⟩ : Moment).sink? ≠ some subscription.sink) :
    (hub.step action).1.Exclusive number subscription where
  sound := exclusive.sound.step action
  transport_lt := Nat.lt_of_lt_of_le exclusive.transport_lt
    (nextTransport_le_step exclusive.sound action)
  sink_lt := Nat.lt_of_lt_of_le exclusive.sink_lt (nextChannel_le_step exclusive.sound action)
  others other different := by
    have fewer := onChannel_step exclusive.sound elsewhere other
    rwa [exclusive.others other different, List.sublist_nil] at fewer
  own := (onChannel_step exclusive.sound elsewhere number).trans exclusive.own

/-- What a change adds to the channel of a subscription, live or ended, that is alone on it. -/
theorem Exclusive.accepted_told (exclusive : hub.Exclusive number subscription)
    (change : (⟨hub, action⟩ : Moment).change? number = some event) :
    (Transport.told event (hub.transports number).subscriptions hub.changes
        subscription.sink).accepted =
      (hub.changes subscription.sink).accepted ++
        ((⟨hub, action⟩ : Moment).heard? number subscription).toList := by
  rw [Moment.heard?_of_change change]
  -- The subscription has ended, or is the only one on the channel.
  rcases List.sublist_singleton.mp exclusive.own with vacant | alone
  · have deaf : ¬ (⟨hub, action⟩ : Moment).Hears number subscription event.key := by
      rintro ⟨live, -⟩
      have member := mem_onChannel.mpr live
      rw [vacant] at member
      cases member
    rw [told_of_vacant vacant event, if_neg deaf, Option.toList_none, List.append_nil]
  · have live : (⟨hub, action⟩ : Moment).Live number subscription :=
      mem_onChannel.mp (alone ▸ List.mem_singleton_self _)
    simp only [Transport.told, concerned_eq_countP, alone]
    by_cases covers : subscription.Covers event.key
    · rw [List.countP_cons_of_pos (by simpa using covers), List.countP_nil,
        Channel.accepted_offered_one]
      simp only [Moment.Hears, live, covers, true_and, Channel.delivery_eq_queued_iff]
      split <;> rfl
    · rw [List.countP_cons_of_neg (by simpa using covers), List.countP_nil, Channel.offered_zero,
        if_neg fun hears => covers hears.2.1, Option.toList_none, List.append_nil]

/-- An action adds at most one event to the channel, and does so when the subscription hears of a
change. -/
theorem Exclusive.accepted_step (exclusive : hub.Exclusive number subscription) (action : Action) :
    ((hub.step action).1.changes subscription.sink).accepted =
      (hub.changes subscription.sink).accepted ++
        ((⟨hub, action⟩ : Moment).heard? number subscription).toList := by
  have silent : (⟨hub, action⟩ : Moment).change? number = none →
      (hub.changes subscription.sink).accepted =
        (hub.changes subscription.sink).accepted ++
          ((⟨hub, action⟩ : Moment).heard? number subscription).toList := by
    intro noChange
    rw [Moment.heard?_of_no_change noChange, Option.toList_none, List.append_nil]
  have stepped := stepped exclusive.sound action
  generalize (hub.step action).1 = after at stepped
  cases stepped with
  | @change other event change =>
    by_cases here : other = number
    · subst here
      exact exclusive.accepted_told (Moment.change?_eq_some_iff.mpr change)
    · rw [← silent (by simp [Moment.change?, change, here])]
      exact told_of_vacant (exclusive.others other here) event
  | @start other fresh started =>
    rw [← silent (by simp [Moment.change?, change?_of_start started])]
    exact (idle_addSender hub.changes _ _).accepted
  | quiet noChange _ quiet =>
    rw [← silent (by simp [Moment.change?, noChange])]
    rcases quiet.undisturbed.accepted subscription.sink with same | ⟨fresh, -⟩
    · exact same
    · exact absurd exclusive.sink_lt (Nat.not_lt.mpr fresh)

/-- What a subscription hears of in a row of actions. -/
def heard (hub : Hub) (number : Nat) (subscription : Subscription) (actions : List Action) :
    List ChangeEvent :=
  (hub.moments actions).filterMap fun moment => moment.heard? number subscription

theorem heard_cons (hub : Hub) (number : Nat) (subscription : Subscription) (action : Action)
    (actions : List Action) :
    hub.heard number subscription (action :: actions) =
      ((⟨hub, action⟩ : Moment).heard? number subscription).toList ++
        (hub.step action).1.heard number subscription actions := by
  simp only [heard, moments, List.filterMap_cons]
  split <;> simp_all

theorem mem_heard :
    event ∈ hub.heard number subscription actions ↔
      ∃ moment ∈ hub.moments actions, moment.heard? number subscription = some event :=
  List.mem_filterMap

/-- What a run adds to the channel. -/
theorem Exclusive.accepted_after (exclusive : hub.Exclusive number subscription)
    (sole : ∀ moment ∈ hub.moments actions, moment.sink? ≠ some subscription.sink) :
    ((hub.after actions).changes subscription.sink).accepted =
      (hub.changes subscription.sink).accepted ++ hub.heard number subscription actions := by
  induction actions generalizing hub with
  | nil => exact (List.append_nil _).symm
  | cons action actions ih =>
    obtain ⟨first, rest⟩ := List.forall_mem_cons.mp sole
    rw [after, ih (exclusive.step first) rest, exclusive.accepted_step, heard_cons,
      List.append_assoc]

/-- A subscription that is live later is live now: only a watch starts one. -/
theorem Exclusive.live_of_live_after (exclusive : hub.Exclusive number subscription)
    (sole : ∀ moment ∈ hub.moments actions, moment.sink? ≠ some subscription.sink)
    (live : subscription ∈ ((hub.after actions).transports number).subscriptions) :
    subscription ∈ (hub.transports number).subscriptions := by
  induction actions generalizing hub with
  | nil => exact live
  | cons action actions ih =>
    obtain ⟨first, rest⟩ := List.forall_mem_cons.mp sole
    have liveNext := ih (exclusive.step first) rest live
    have fewer := onChannel_step exclusive.sound first number
    exact mem_onChannel.mp (fewer.subset (mem_onChannel.mpr liveNext))

theorem Exclusive.live_of_heard (exclusive : hub.Exclusive number subscription)
    (sole : ∀ moment ∈ hub.moments actions, moment.sink? ≠ some subscription.sink)
    (member : moment ∈ hub.moments actions)
    (heard : moment.heard? number subscription = some event) :
    subscription ∈ (hub.transports number).subscriptions := by
  obtain ⟨-, live, -⟩ := Moment.heard?_eq_some_iff.mp heard
  obtain ⟨front, back, rfl, found⟩ := mem_moments_iff.mp member
  rw [Moment.Live, found] at live
  rw [moments_append] at sole
  exact exclusive.live_of_live_after
    (fun other isFront => sole other (List.mem_append_left _ isFront)) live

/-! ## Revisions -/

/-- The revision of a transport counts its changes. -/
theorem revision_step (sound : hub.Sound) (known : number < hub.nextTransport) (action : Action) :
    ((hub.step action).1.transports number).revision =
      (hub.transports number).revision +
        if ((⟨hub, action⟩ : Moment).change? number).isSome then 1 else 0 := by
  have recorded := (record_step sound known action).2
  cases change : (⟨hub, action⟩ : Moment).change? number with
  | none => simpa [change] using recorded
  | some event =>
    obtain ⟨-, -, numbered⟩ := event_of_change change
    simpa [change, Transport.record, numbered] using recorded

/-- Changes carry later revisions than the transport has before them. -/
theorem revision_lt_of_change (sound : hub.Sound) (known : number < hub.nextTransport)
    (member : moment ∈ hub.moments actions) (change : moment.change? number = some event) :
    (hub.transports number).revision < event.revision := by
  induction actions generalizing hub with
  | nil => cases member
  | cons action actions ih =>
    rcases List.mem_cons.mp member with rfl | later
    · rw [(event_of_change change).2.2]
      exact Nat.lt_succ_self _
    · have stillKnown := Nat.lt_of_lt_of_le known (nextTransport_le_step sound action)
      refine Nat.lt_of_le_of_lt ?_ (ih (sound.step action) stillKnown later)
      rw [revision_step sound known]
      exact Nat.le_add_right _ _

/-- The changes of a transport come in the order of their revisions. -/
theorem changes_ascending (sound : hub.Sound) (known : number < hub.nextTransport)
    (actions : List Action) :
    ((hub.moments actions).filterMap fun moment => moment.change? number).Pairwise
      fun earlier later => earlier.revision < later.revision := by
  induction actions generalizing hub with
  | nil => exact .nil
  | cons action actions ih =>
    have stillKnown := Nat.lt_of_lt_of_le known (nextTransport_le_step sound action)
    have rest := ih (sound.step action) stillKnown
    rw [moments]
    cases change : (⟨hub, action⟩ : Moment).change? number with
    | none => simpa [List.filterMap_cons, change] using rest
    | some event =>
      rw [List.filterMap_cons, change]
      refine List.pairwise_cons.mpr ⟨fun later isLater => ?_, rest⟩
      obtain ⟨moment, member, laterChange⟩ := List.mem_filterMap.mp isLater
      have beyond := revision_lt_of_change (sound.step action) stillKnown member laterChange
      rw [revision_step sound known, change] at beyond
      obtain ⟨-, -, numbered⟩ := event_of_change change
      exact numbered ▸ beyond

/-- Keeping some of the changes keeps their order. -/
theorem selected_sublist (moments : List Moment) (number : Nat)
    (keep : Moment → ChangeEvent → Bool) :
    (moments.filterMap fun moment => (moment.change? number).filter (keep moment)).Sublist
      (moments.filterMap fun moment => moment.change? number) := by
  induction moments with
  | nil => exact .slnil
  | cons moment moments ih =>
    simp only [List.filterMap_cons]
    cases moment.change? number with
    | none => exact ih
    | some event =>
      cases kept : keep moment event with
      | true => simpa [Option.filter, kept] using ih
      | false => simpa [Option.filter, kept] using ih.cons event

theorem heard_ascending (sound : hub.Sound) (known : number < hub.nextTransport)
    (subscription : Subscription) (actions : List Action) :
    (hub.heard number subscription actions).Pairwise
      fun earlier later => earlier.revision < later.revision :=
  (changes_ascending sound known actions).sublist (selected_sublist _ _ _)

theorem lost_ascending (sound : hub.Sound) (known : number < hub.nextTransport)
    (subscription : Subscription) (actions : List Action) :
    ((hub.moments actions).filterMap fun moment => moment.lost? number subscription).Pairwise
      fun earlier later => earlier.revision < later.revision :=
  (changes_ascending sound known actions).sublist (selected_sublist _ _ _)

/-- A subscription that outlives a change of a key that it covers hears of the change, or loses it
to a full channel. -/
theorem heard_or_lost (sound : hub.Sound)
    (change : (⟨hub, action⟩ : Moment).change? number = some event)
    (live : subscription ∈ (hub.transports number).subscriptions)
    (liveNext : subscription ∈ ((hub.step action).1.transports number).subscriptions)
    (covers : subscription.Covers event.key) :
    (⟨hub, action⟩ : Moment).heard? number subscription = some event ∨
      (⟨hub, action⟩ : Moment).lost? number subscription = some event := by
  have isOpen : (hub.changes subscription.sink).isClosed = false := by
    by_contra closed
    rw [Bool.not_eq_false] at closed
    exact not_mem_of_severed sound (Moment.change?_eq_some_iff.mp change) ⟨covers, closed⟩ liveNext
  cases full : (hub.changes subscription.sink).isFull with
  | true => exact .inr (Moment.lost?_eq_some_iff.mpr ⟨change, live, covers, isOpen, full⟩)
  | false => exact .inl (Moment.heard?_eq_some_iff.mpr ⟨change, live, covers, isOpen, full⟩)

/-- A subscription to every key hears of each change up to its last, unless the channel is full. -/
theorem Exclusive.accounted (exclusive : hub.Exclusive number subscription)
    (everything : "" ∈ subscription.stems)
    (sole : ∀ moment ∈ hub.moments actions, moment.sink? ≠ some subscription.sink)
    (member : moment ∈ hub.moments actions)
    (heard : moment.heard? number subscription = some event) {revision : Nat}
    (beyond : (hub.transports number).revision < revision) (upTo : revision ≤ event.revision) :
    ∃ moment ∈ hub.moments actions, ∃ change : ChangeEvent, change.revision = revision ∧
      (moment.heard? number subscription = some change ∨
        moment.lost? number subscription = some change) := by
  induction actions generalizing hub with
  | nil => cases member
  | cons action actions ih =>
    obtain ⟨first, rest⟩ := List.forall_mem_cons.mp sole
    rcases List.mem_cons.mp member with rfl | later
    · obtain ⟨-, -, numbered⟩ := event_of_change (Moment.heard?_eq_some_iff.mp heard).1
      exact ⟨_, List.mem_cons_self, event, by omega, .inl heard⟩
    · by_cases next : ((hub.step action).1.transports number).revision < revision
      · obtain ⟨found, isLater, outcome⟩ := ih (exclusive.step first) rest later next
        exact ⟨found, List.mem_cons_of_mem _ isLater, outcome⟩
      · -- The revision is that of the change that this action makes.
        rw [revision_step exclusive.sound exclusive.transport_lt] at next
        cases change : (⟨hub, action⟩ : Moment).change? number with
        | none =>
          simp only [change, Option.isSome_none, Bool.false_eq_true, if_false] at next
          omega
        | some now =>
          simp only [change, Option.isSome_some, if_true] at next
          obtain ⟨-, -, numbered⟩ := event_of_change change
          have live := exclusive.live_of_heard sole member heard
          have liveNext := (exclusive.step first).live_of_heard rest later heard
          have covers := Subscription.covers_of_empty_mem everything now.key
          exact ⟨_, List.mem_cons_self, now, by omega,
            heard_or_lost exclusive.sound change live liveNext covers⟩

end Hub

/-! ## Runs with one watch on a channel -/

/-- A run in which a watch succeeds and no other watch is given its change channel. -/
structure SoleWatch where
  earlier : List Action
  watch : Action
  later : List Action
  /-- Number of the transport that is watched. -/
  transport : Nat
  subscription : Subscription
  started : (Hub.start.after earlier).started? watch = some (transport, subscription)
  sole : ∀ moment ∈
      Hub.start.moments earlier ++ (Hub.start.after (earlier ++ [watch])).moments later,
    moment.sink? ≠ some subscription.sink

namespace SoleWatch

/-- The hub right after the watch. -/
def opened (run : SoleWatch) : Hub :=
  Hub.start.after (run.earlier ++ [run.watch])

/-- The moments after the watch. -/
def moments (run : SoleWatch) : List Moment :=
  run.opened.moments run.later

/-- All events that were ever queued on the change channel. -/
def events (run : SoleWatch) : List ChangeEvent :=
  ((run.opened.after run.later).changes run.subscription.sink).accepted

theorem unused (run : SoleWatch) :
    (Hub.start.after run.earlier).Unused run.subscription.sink :=
  (Hub.unused_start _).after fun moment member => run.sole moment (List.mem_append_left _ member)

theorem exclusive (run : SoleWatch) : run.opened.Exclusive run.transport run.subscription := by
  rw [opened, Hub.after_concat]
  exact run.unused.watch run.started

theorem sole_later (run : SoleWatch) :
    ∀ moment ∈ run.moments, moment.sink? ≠ some run.subscription.sink :=
  fun moment member => run.sole moment (List.mem_append_right _ member)

/-- The watch itself puts nothing on the change channel. -/
theorem accepted_opened (run : SoleWatch) :
    (run.opened.changes run.subscription.sink).accepted = [] := by
  obtain ⟨resync, registrations, same⟩ := Hub.step_of_start run.started
  rw [opened, Hub.after_concat, same]
  exact (Hub.idle_addSender _ _ _).accepted.trans run.unused.accepted

theorem events_eq (run : SoleWatch) :
    run.events = run.opened.heard run.transport run.subscription run.later := by
  rw [events, run.exclusive.accepted_after run.sole_later, run.accepted_opened, List.nil_append]

/-- Between two neighbours in a row of ascending revisions there is nothing. -/
theorem not_between {front back : List ChangeEvent} {first second event : ChangeEvent}
    (ascending : (front ++ first :: second :: back).Pairwise fun earlier later =>
      earlier.revision < later.revision)
    (member : event ∈ front ++ first :: second :: back)
    (above : first.revision < event.revision) : second.revision ≤ event.revision := by
  simp only [List.pairwise_append, List.pairwise_cons, List.mem_cons] at ascending
  obtain ⟨-, ⟨-, afterSecond, -⟩, split⟩ := ascending
  rcases List.mem_append.mp member with isFront | isBack
  · exact absurd (split event isFront first (.inl rfl)) (Nat.not_lt.mpr (Nat.le_of_lt above))
  · rcases List.mem_cons.mp isBack with rfl | isLater
    · exact absurd above (Nat.lt_irrefl _)
    · rcases List.mem_cons.mp isLater with rfl | isLast
      · exact Nat.le_refl _
      · exact Nat.le_of_lt (afterSecond event isLast)

/-- Between two events in a row of a watch of all keys, a revision is missing only because its event
was lost to a full channel. -/
theorem lost_of_missing (run : SoleWatch) (everything : "" ∈ run.subscription.stems)
    {front back : List ChangeEvent} {first second : ChangeEvent}
    (split : run.events = front ++ first :: second :: back) {revision : Nat}
    (above : first.revision < revision) (below : revision < second.revision) :
    ∃ moment ∈ run.moments, ∃ change : ChangeEvent,
      moment.lost? run.transport run.subscription = some change ∧ change.revision = revision := by
  have ascending := Hub.heard_ascending run.exclusive.sound run.exclusive.transport_lt
    run.subscription run.later
  rw [← run.events_eq, split] at ascending
  have heardOf : ∀ event ∈ run.events, ∃ moment ∈ run.moments,
      moment.heard? run.transport run.subscription = some event := by
    intro event member
    rw [run.events_eq] at member
    exact Hub.mem_heard.mp member
  obtain ⟨firstMoment, firstMember, firstHeard⟩ := heardOf first (by simp [split])
  obtain ⟨secondMoment, secondMember, secondHeard⟩ := heardOf second (by simp [split])
  have opening := Hub.revision_lt_of_change run.exclusive.sound run.exclusive.transport_lt
    firstMember (Moment.heard?_eq_some_iff.mp firstHeard).1
  -- A change that was heard of would stand between the two events.
  obtain ⟨moment, member, change, numbered, heard | lost⟩ :=
    run.exclusive.accounted everything run.sole_later secondMember secondHeard
      (Nat.lt_trans opening above) (Nat.le_of_lt below)
  · have queued : change ∈ run.events := by
      rw [run.events_eq]
      exact Hub.mem_heard.mpr ⟨moment, member, heard⟩
    have atLeast := not_between ascending (split ▸ queued) (numbered ▸ above)
    omega
  · exact ⟨moment, member, change, lost, numbered⟩

/-- The events of a watch that is alone on its channel are, in order, the changes of its transport
that happened while the subscription was live, whose keys it covers, and that found the channel
neither closed nor full: one event for each, with the change's key, kind, new value, former value
and revision. Hence the revisions ascend, and the revisions that a watch of all keys is missing
between two events in a row are, one for one, those of the changes that it lost to a full
channel. -/
theorem events_exact (run : SoleWatch) :
    run.events =
        run.moments.filterMap (fun moment => moment.heard? run.transport run.subscription) ∧
      run.events.Pairwise (fun earlier later => earlier.revision < later.revision) ∧
      ("" ∈ run.subscription.stems → ∀ front first second back,
        run.events = front ++ first :: second :: back →
        ((run.moments.filterMap fun moment =>
            moment.lost? run.transport run.subscription).map ChangeEvent.revision).filter
          (fun revision => first.revision < revision ∧ revision < second.revision) =
        List.range' (first.revision + 1) (second.revision - first.revision - 1)) := by
  have sound := run.exclusive.sound
  have known := run.exclusive.transport_lt
  refine ⟨run.events_eq, ?_, ?_⟩
  · rw [run.events_eq]
    exact Hub.heard_ascending sound known run.subscription run.later
  intro everything front first second back split
  have lostAscending := Hub.lost_ascending sound known run.subscription run.later
  refine List.Pairwise.eq_of_mem_iff ((List.pairwise_map.mpr lostAscending).filter _)
    (List.pairwise_lt_range') fun revision => ?_
  simp only [List.mem_filter, List.mem_map, List.mem_filterMap, List.mem_range'_1,
    decide_eq_true_eq]
  constructor
  · rintro ⟨-, above, below⟩
    omega
  · rintro ⟨above, below⟩
    have within : first.revision < revision ∧ revision < second.revision := by omega
    obtain ⟨moment, member, change, lost, numbered⟩ :=
      run.lost_of_missing everything split within.1 within.2
    exact ⟨⟨change, ⟨moment, member, lost⟩, numbered⟩, within⟩

/-- A watch of all keys, with a second prefix, on a channel with room for one event. A change finds
the channel full before the receiver makes room, and another comes when the receiver has closed. -/
def narrow : SoleWatch where
  earlier := [.openChannel .changes "narrow" 1, .openChannel .resyncs "state" 1,
    .publish "main" "key" (some [1])]
  watch := .watch "main" "first" "watcher" "narrow" "state" ["", "k"]
  later := [.publish "main" "key" (some [2]), .publish "main" "other" (some [3]),
    .receive "narrow" none, .publish "main" "key" none, .closeReceiver "narrow",
    .receive "narrow" none, .publish "main" "key" (some [4])]
  transport := 0
  subscription := ⟨0, "watcher", ["", "k"], 0⟩
  started := by decide
  sole := by decide

theorem events_exact_narrow :
    narrow.events = [⟨"key", .put, some [2], some [1], 2⟩, ⟨"key", .delete, none, some [2], 4⟩] ∧
      ((narrow.moments.filterMap fun moment =>
          moment.lost? narrow.transport narrow.subscription).map ChangeEvent.revision).filter
        (fun revision => 2 < revision ∧ revision < 4) = [3] := by
  obtain ⟨events, -, missing⟩ := events_exact narrow
  have queued : narrow.events =
      [⟨"key", .put, some [2], some [1], 2⟩, ⟨"key", .delete, none, some [2], 4⟩] := by
    rw [events]
    decide
  exact ⟨queued, missing (by decide) [] _ _ [] queued⟩

end SoleWatch

end PluginSupport
