import Mathlib.Algebra.Order.BigOperators.Group.Finset
import Mathlib.Algebra.Order.Group.Nat
import PluginSupport.Proofs.Sync.Lifecycle

/-!
# Who holds the sending ends of a channel

A change channel has a sending end for its maker, as long as that one holds it, and one for each
live subscription on it, on whatever transport. A resync channel has none but its maker's. This is
`Hub.Balanced`, and no action breaks it:

* where subscriptions end, as many sending ends are given up (`Balanced.leave`);
* where one starts, there is one more (`Balanced.start`);
* the maker's own is dropped, or goes with the channel when another one takes its name
  (`Balanced.dropSender`, `Balanced.openChannel`);
* nothing else touches sending ends (`Balanced.of_givesUp`).

A transport without handles has no subscriptions (`Hub.Deserted`), whatever registrations there are.
So a receiver learns that nothing more will come exactly when nobody is left who could send
(`senders_exact`).
-/
namespace PluginSupport

/-! ## Sending ends -/

theorem ReceiverState.ne_open_iff {state : ReceiverState} (kept : state ≠ .dropped) :
    state ≠ .open ↔ state = .closed := by
  cases state <;> simp_all

theorem Channel.senders_offer {α : Type} (channel : Channel α) (event : α) :
    (channel.offer event).senders = channel.senders := by
  unfold offer
  split <;> rfl

theorem Channels.senders_set {α : Type} {channels : Channels α} {number : Nat} {channel : Channel α}
    (same : channel.senders = (channels number).senders) (other : Nat) :
    (channels.set number channel other).senders = (channels other).senders := by
  unfold set
  split
  · rename_i here
    rw [here, same]
  · rfl

theorem Channels.senders_addSender {α : Type} (channels : Channels α) (number other : Nat) :
    (channels.update number Channel.addSender other).senders =
      (channels other).senders + if number = other then 1 else 0 := by
  by_cases here : number = other
  · subst here
    simp [update, set_self, Channel.addSender]
  · simp [update, set_other _ _ (Ne.symm here), here]

theorem Channels.senders_dropSender {α : Type} (channels : Channels α) (number other : Nat) :
    (channels.update number Channel.dropSender other).senders =
      (channels other).senders - if number = other then 1 else 0 := by
  by_cases here : number = other
  · subst here
    simp [update, set_self, Channel.dropSender]
  · simp [update, set_other _ _ (Ne.symm here), here]

theorem Channel.supply_eq_disconnected_iff {α : Type} (channel : Channel α) (limit : Option Nat) :
    channel.supply limit = .disconnected ↔
      (∀ most ∈ limit, channel.queue.length < most) ∧
        (channel.receiver ≠ .open ∨ channel.senders = 0) := by
  have closed : channel.isClosed = true ↔ channel.receiver ≠ .open := decide_eq_true_iff
  have connected : channel.isConnected = true ↔ channel.senders ≠ 0 := by
    simp [isConnected, Nat.pos_iff_ne_zero]
  have served : limit.any (fun most => most ≤ channel.queue.length) = true ↔
      ¬ ∀ most ∈ limit, channel.queue.length < most := by
    cases limit <;> simp
  unfold supply
  grind

/-! ## Definitions -/

/-- How many sending ends the maker of a channel holds. -/
def ChannelEnds.held (ends : ChannelEnds) : Nat :=
  if ends.holdsSender then 1 else 0

/-- How many sending ends of the channel of a kind and number the holder of `ends` holds through
them. -/
def ChannelEnds.own (ends : ChannelEnds) (kind : ChannelKind) (number : Nat) : Nat :=
  if ends.kind = kind ∧ ends.number = number then ends.held else 0

/-- How many live subscriptions of a transport there are on a change channel. -/
def Transport.subscribers (transport : Transport) (sink : Nat) : Nat :=
  transport.subscriptions.countP fun subscription => subscription.sink = sink

/-- What an answer to a receive says of the supply. -/
def Answer.supply? : Answer → Option Supply
  | .changes _ supply => some supply
  | .resyncs _ supply => some supply
  | _ => none

namespace Hub

/-- How many live subscriptions there are on a change channel, on all transports together. -/
def subscribers (hub : Hub) (sink : Nat) : Nat :=
  ∑ number ∈ Finset.range hub.nextTransport, (hub.transports number).subscribers sink

/-- Whether a transport that has a handle holds a live subscription on a change channel. -/
def Watched (hub : Hub) (sink : Nat) : Prop :=
  ∃ entry ∈ hub.handles, ∃ subscription ∈ (hub.transports entry.2).subscriptions,
    subscription.sink = sink

instance (hub : Hub) (sink : Nat) : Decidable (hub.Watched sink) :=
  inferInstanceAs (Decidable (∃ entry ∈ hub.handles, _))

/-- Each sending end is held by somebody. -/
structure Balanced (hub : Hub) : Prop where
  /-- Names of channels stand for channels of their own. -/
  apart : ∀ {first second ends others}, hub.ends.lookup first = some ends →
    hub.ends.lookup second = some others → ends.number = others.number → first = second
  /-- Subscriptions are on channels that there are. -/
  placed : ∀ number, ∀ subscription ∈ (hub.transports number).subscriptions,
    subscription.sink < hub.nextChannel
  changes : ∀ {channel ends}, hub.ends.lookup channel = some ends → ends.kind = .changes →
    (hub.changes ends.number).senders = ends.held + hub.subscribers ends.number
  resyncs : ∀ {channel ends}, hub.ends.lookup channel = some ends → ends.kind = .resyncs →
    (hub.resyncs ends.number).senders = ends.held

/-- Transports without handles have no subscriptions. -/
def Deserted (hub : Hub) : Prop :=
  ∀ number, hub.isAlive number = false → (hub.transports number).subscriptions = []

variable {hub after : Hub} {number : Nat} {channel : String} {ends : ChannelEnds}

/-! ## Subscribers -/

theorem subscribers_subscribe (transport : Transport) (name : String) (stems : List String)
    (sink other : Nat) :
    (transport.subscribe name stems sink).subscribers other =
      transport.subscribers other + if sink = other then 1 else 0 := by
  simp [Transport.subscribers, Transport.subscribe, List.countP_append, List.countP_singleton]

/-- When a transport becomes another, the subscribers of a channel change by those on it. -/
theorem subscribers_commit (known : number < hub.nextTransport)
    (result : Transport × Channels ChangeEvent) (sink : Nat) :
    (hub.commit number result).subscribers sink + (hub.transports number).subscribers sink =
      hub.subscribers sink + result.1.subscribers sink := by
  have member : number ∈ Finset.range hub.nextTransport := Finset.mem_range.mpr known
  have others : ∀ other ∈ (Finset.range hub.nextTransport).erase number,
      ((hub.commit number result).transports other).subscribers sink =
        (hub.transports other).subscribers sink := by
    intro other isOther
    rw [transports_commit, if_neg (Finset.ne_of_mem_erase isOther)]
  have here : (hub.commit number result).transports number = result.1 := if_pos rfl
  have before : hub.subscribers sink = (hub.transports number).subscribers sink + _ :=
    (Finset.add_sum_erase _ _ member).symm
  have committed : (hub.commit number result).subscribers sink = result.1.subscribers sink +
      ∑ other ∈ (Finset.range hub.nextTransport).erase number,
        (hub.transports other).subscribers sink := by
    rw [← Finset.sum_congr rfl others, ← here]
    exact (Finset.add_sum_erase _ _ member).symm
  omega

theorem subscribers_le (known : number < hub.nextTransport) (sink : Nat) :
    (hub.transports number).subscribers sink ≤ hub.subscribers sink :=
  Finset.single_le_sum (f := fun number => (hub.transports number).subscribers sink)
    (fun _ _ => Nat.zero_le _) (Finset.mem_range.mpr known)

/-- Subscribers are those that a test picks and the others. -/
theorem countP_sink_eq_add (subscriptions : List Subscription) (picked : Subscription → Prop)
    [DecidablePred picked] (sink : Nat) :
    subscriptions.countP (fun subscription => subscription.sink = sink) =
      subscriptions.countP (fun subscription => picked subscription ∧ subscription.sink = sink) +
        (subscriptions.filter fun subscription => ¬ picked subscription).countP fun subscription =>
          subscription.sink = sink := by
  rw [List.countP_eq_countP_filter_add _ _ fun subscription => picked subscription]
  simp [List.countP_filter, Bool.and_comm]

/-! ## Moves -/

theorem balanced_start : start.Balanced where
  apart named := by cases named
  placed := by simp [start, Transport.new]
  changes named := by cases named
  resyncs named := by cases named

/-- What has the same transports, ends and sending ends is as balanced. -/
theorem Balanced.congr (balanced : hub.Balanced) (nextChannel : after.nextChannel = hub.nextChannel)
    (named : after.ends = hub.ends)
    (subscriptions : ∀ number, (after.transports number).subscriptions =
      (hub.transports number).subscriptions)
    (subscribers : ∀ sink, after.subscribers sink = hub.subscribers sink)
    (changes : ∀ sink, (after.changes sink).senders = (hub.changes sink).senders)
    (resyncs : ∀ sink, (after.resyncs sink).senders = (hub.resyncs sink).senders) :
    after.Balanced where
  apart := named ▸ balanced.apart
  placed number := by
    rw [subscriptions, nextChannel]
    exact balanced.placed number
  changes found kind := by
    rw [named] at found
    rw [changes, subscribers]
    exact balanced.changes found kind
  resyncs found kind := by
    rw [named] at found
    rw [resyncs]
    exact balanced.resyncs found kind

/-- Subscriptions end, and give up as many sending ends. -/
theorem Balanced.leave (balanced : hub.Balanced) (known : number < hub.nextTransport)
    (picked : Subscription → Prop) [DecidablePred picked]
    {result : Transport × Channels ChangeEvent}
    (subscriptions : result.1.subscriptions =
      (hub.transports number).subscriptions.filter fun subscription => ¬ picked subscription)
    (senders : ∀ sink, (result.2 sink).senders = (hub.changes sink).senders -
      (hub.transports number).subscriptions.countP fun subscription =>
        picked subscription ∧ subscription.sink = sink) :
    (hub.commit number result).Balanced where
  apart := balanced.apart
  placed other := by
    rw [transports_commit]
    split
    · intro subscription member
      rw [subscriptions] at member
      exact balanced.placed number subscription (List.mem_filter.mp member).1
    · exact balanced.placed other
  changes {channel ends} found kind := by
    have before := balanced.changes found kind
    have total := subscribers_commit known result ends.number
    have part := subscribers_le known ends.number
    have split := countP_sink_eq_add (hub.transports number).subscriptions picked ends.number
    have here : ((hub.commit number result).changes ends.number).senders = _ :=
      senders ends.number
    simp only [Transport.subscribers, subscriptions] at total part
    omega
  resyncs := balanced.resyncs

/-- A transport ends subscriptions, and is otherwise the same or another. -/
theorem Balanced.endWhere (balanced : hub.Balanced) (known : number < hub.nextTransport)
    (transport : Transport)
    (same : transport.subscriptions = (hub.transports number).subscriptions)
    (picked : Subscription → Bool) :
    (hub.commit number (transport.endWhere picked hub.changes)).Balanced := by
  refine balanced.leave known (fun subscription => picked subscription = true) ?_ fun sink => ?_
  · simp [Transport.endWhere, same]
  · simp only [Transport.endWhere, Channels.dropSenders_apply, same, List.count, List.countP_map,
      List.countP_filter]
    congr 1
    refine List.countP_congr fun subscription _ => ?_
    simp [and_comm]

/-- Handles come and go; a transport that loses its last ends all its subscriptions. -/
theorem Balanced.setHandle (balanced : hub.Balanced) (sound : hub.Sound) (handle : String)
    (number? : Option Nat) : (hub.setHandle handle number?).Balanced := by
  have renamed : ({ hub with handles := hub.handles.assign handle number? } : Hub).Balanced :=
    { balanced with }
  rcases setHandle_cases hub handle number? with ⟨same, -⟩ | ⟨old, found, -, same⟩
  · rw [same]
    exact renamed
  · rw [same]
    exact renamed.endWhere (sound.transport_lt found) _ rfl fun _ => true

/-- A subscription starts, with a sending end of its own. -/
theorem Balanced.start (balanced : hub.Balanced) (sound : hub.Sound) {action : Action}
    {subscription : Subscription}
    (started : hub.started? action = some (number, subscription)) :
    (hub.step action).1.Balanced := by
  obtain ⟨known, placed⟩ := known_of_start sound started
  obtain ⟨_, _, _, _, -, -, -, -, numbered⟩ := watch_of_start started
  obtain ⟨resync, registrations, same⟩ := step_of_start started
  rw [same]
  refine ⟨balanced.apart, ?_, ?_, ?_⟩
  · intro other
    rw [transports_commit]
    split
    · intro live member
      rcases List.mem_append.mp member with old | new
      · exact balanced.placed number live old
      · rw [List.mem_singleton.mp new]
        exact placed
    · exact balanced.placed other
  · intro channel ends found kind
    have before := balanced.changes found kind
    have total := subscribers_commit known
      ((hub.transports number).subscribe subscription.name subscription.stems subscription.sink,
        hub.changes.update subscription.sink Channel.addSender) ends.number
    have senders := hub.changes.senders_addSender subscription.sink ends.number
    rw [subscribers_subscribe] at total
    show (hub.changes.update subscription.sink Channel.addSender ends.number).senders =
      ends.held + (hub.commit number _).subscribers ends.number
    omega
  · intro channel ends found kind
    rw [← balanced.resyncs found kind]
    exact Channels.senders_set (Channel.senders_offer _ _) _

/-! ## Channels -/

/-- Hubs that differ in their channels only, of which sending ends were given up. -/
structure GivesUp (hub : Hub) (given : ChannelKind → Nat → Nat) (after : Hub) : Prop where
  alike : Alike hub after
  nextChannel : after.nextChannel = hub.nextChannel
  ends : after.ends = hub.ends
  changes : ∀ sink, (after.changes sink).senders =
    (hub.changes sink).senders - given .changes sink
  resyncs : ∀ sink, (after.resyncs sink).senders =
    (hub.resyncs sink).senders - given .resyncs sink

theorem GivesUp.refl (hub : Hub) : GivesUp hub (fun _ _ => 0) hub :=
  ⟨.refl hub, rfl, rfl, fun _ => rfl, fun _ => rfl⟩

theorem givesUp_changeChannel (hub : Hub) (ends : ChannelEnds)
    (change : {α : Type} → Channel α → Channel α)
    (keeps : ∀ {α : Type} (channel : Channel α), (change channel).senders = channel.senders) :
    GivesUp hub (fun _ _ => 0) (hub.changeChannel ends change) := by
  refine ⟨alike_changeChannel hub ends change, ?_, ?_, ?_, ?_⟩ <;> unfold changeChannel <;> split
  · rfl
  · rfl
  · rfl
  · rfl
  · exact Channels.senders_set (keeps _)
  · exact fun _ => rfl
  · exact fun _ => rfl
  · exact Channels.senders_set (keeps _)

/-- The maker of a channel gives up the sending end that it holds. -/
theorem givesUp_dropSender (hub : Hub) (ends : ChannelEnds) :
    GivesUp hub ends.own (hub.dropSender ends) := by
  obtain ⟨kind, number, holdsSender⟩ := ends
  cases holdsSender with
  | false =>
    refine ⟨alike_dropSender hub _, rfl, rfl, fun sink => ?_, fun sink => ?_⟩
    · simp [dropSender, ChannelEnds.own, ChannelEnds.held]
    · simp [dropSender, ChannelEnds.own, ChannelEnds.held]
  | true =>
    cases kind with
    | changes =>
      refine ⟨alike_dropSender hub _, rfl, rfl, fun sink => ?_, fun sink => ?_⟩
      · simp [dropSender, changeChannel, ChannelEnds.own, ChannelEnds.held,
          Channels.senders_dropSender]
      · rfl
    | resyncs =>
      refine ⟨alike_dropSender hub _, rfl, rfl, fun sink => ?_, fun sink => ?_⟩
      · rfl
      · simp [dropSender, changeChannel, ChannelEnds.own, ChannelEnds.held,
          Channels.senders_dropSender]

theorem givesUp_dropEnds (hub : Hub) (ends : ChannelEnds) :
    GivesUp hub ends.own (hub.dropEnds ends) := by
  have dropped := givesUp_dropSender hub ends
  have receiver := givesUp_changeChannel (hub.dropSender ends) ends Channel.dropReceiver
    fun _ => rfl
  refine ⟨dropped.alike.trans receiver.alike, receiver.nextChannel.trans dropped.nextChannel,
    receiver.ends.trans dropped.ends, fun sink => ?_, fun sink => ?_⟩
  · exact (receiver.changes sink).trans (dropped.changes sink)
  · exact (receiver.resyncs sink).trans (dropped.resyncs sink)

theorem givesUp_receive (hub : Hub) (ends : ChannelEnds) (limit : Option Nat) :
    GivesUp hub (fun _ _ => 0) (hub.receive ends limit).1 := by
  simp only [receive]
  split <;> split
  · exact .refl hub
  · exact ⟨⟨rfl, rfl, rfl, rfl⟩, rfl, rfl, Channels.senders_set rfl, fun _ => rfl⟩
  · exact .refl hub
  · exact ⟨⟨rfl, rfl, rfl, rfl⟩, rfl, rfl, fun _ => rfl, Channels.senders_set rfl⟩

theorem subscribers_congr (nextTransport : after.nextTransport = hub.nextTransport)
    (subscriptions : ∀ number, (after.transports number).subscriptions =
      (hub.transports number).subscriptions) (sink : Nat) :
    after.subscribers sink = hub.subscribers sink := by
  simp only [subscribers, Transport.subscribers, nextTransport, subscriptions]

theorem Balanced.of_givesUp (balanced : hub.Balanced) (givesUp : GivesUp hub (fun _ _ => 0) after) :
    after.Balanced := by
  have same : ∀ number, (after.transports number).subscriptions =
      (hub.transports number).subscriptions := by
    intro number
    rw [givesUp.alike.transports]
  exact balanced.congr givesUp.nextChannel givesUp.ends same
    (subscribers_congr givesUp.alike.nextTransport same) givesUp.changes givesUp.resyncs

/-- A name comes to stand for other ends, whose sending ends are accounted for. -/
theorem Balanced.rename (balanced : hub.Balanced) (alike : Alike hub after)
    (nextChannel : hub.nextChannel ≤ after.nextChannel)
    (named : after.ends = hub.ends.insert channel ends)
    (only : ∀ {other others}, hub.ends.lookup other = some others →
      others.number = ends.number → other = channel)
    (changes : ends.kind = .changes →
      (after.changes ends.number).senders = ends.held + hub.subscribers ends.number)
    (resyncs : ends.kind = .resyncs → (after.resyncs ends.number).senders = ends.held)
    (others : ∀ {other others}, other ≠ channel → hub.ends.lookup other = some others →
      (after.changes others.number).senders = (hub.changes others.number).senders ∧
        (after.resyncs others.number).senders = (hub.resyncs others.number).senders) :
    after.Balanced := by
  have subscribers := subscribers_congr alike.nextTransport fun number => by rw [alike.transports]
  refine ⟨?_, ?_, ?_, ?_⟩
  · intro first second firstEnds secondEnds firstFound secondFound same
    rw [named, Names.lookup_insert] at firstFound secondFound
    split at firstFound
    · rename_i isFirst
      obtain rfl := Option.some.inj firstFound
      split at secondFound
      · rename_i isSecond
        rw [isFirst, isSecond]
      · rw [isFirst, only secondFound same.symm]
    · split at secondFound
      · rename_i isSecond
        obtain rfl := Option.some.inj secondFound
        rw [isSecond, only firstFound same]
      · exact balanced.apart firstFound secondFound same
  · intro number subscription member
    rw [alike.transports] at member
    exact Nat.lt_of_lt_of_le (balanced.placed number subscription member) nextChannel
  · intro other otherEnds found kind
    rw [named, Names.lookup_insert] at found
    rw [subscribers]
    split at found
    · obtain rfl := Option.some.inj found
      exact changes kind
    · rename_i different
      rw [(others different found).1]
      exact balanced.changes found kind
  · intro other otherEnds found kind
    rw [named, Names.lookup_insert] at found
    split at found
    · obtain rfl := Option.some.inj found
      exact resyncs kind
    · rename_i different
      rw [(others different found).2]
      exact balanced.resyncs found kind

/-- The maker of a channel drops its sending end. -/
theorem Balanced.dropSender (balanced : hub.Balanced)
    (named : hub.ends.lookup channel = some ends) :
    ((hub.dropSender ends).setEnds channel { ends with holdsSender := false }).Balanced := by
  have dropped := givesUp_dropSender hub ends
  refine balanced.rename { dropped.alike with } (Nat.le_of_eq dropped.nextChannel.symm)
    (congrArg (fun names => Names.insert names channel _) dropped.ends) ?_ ?_ ?_ ?_
  · exact fun found same => balanced.apart found named same
  · intro kind
    refine (dropped.changes ends.number).trans ?_
    rw [balanced.changes named kind, ChannelEnds.own, if_pos ⟨kind, rfl⟩]
    simp [ChannelEnds.held]
  · intro kind
    refine (dropped.resyncs ends.number).trans ?_
    rw [balanced.resyncs named kind, ChannelEnds.own, if_pos ⟨kind, rfl⟩]
    simp [ChannelEnds.held]
  · intro other others different found
    have elsewhere : ends.number ≠ others.number :=
      fun same => different (balanced.apart named found same).symm
    refine ⟨(dropped.changes others.number).trans ?_, (dropped.resyncs others.number).trans ?_⟩
    · simp [ChannelEnds.own, elsewhere]
    · simp [ChannelEnds.own, elsewhere]

/-- No channel but the one of a name gives up sending ends when both ends of it are dropped. -/
theorem Balanced.givesUp_cleared (balanced : hub.Balanced) (channel : String) :
    ∃ given, GivesUp hub given ((hub.ends.lookup channel).elim hub hub.dropEnds) ∧
      ∀ {other others}, other ≠ channel → hub.ends.lookup other = some others →
        ∀ kind, given kind others.number = 0 := by
  cases named : hub.ends.lookup channel with
  | none => exact ⟨_, .refl hub, fun _ _ _ => rfl⟩
  | some ends =>
    refine ⟨_, givesUp_dropEnds hub ends, fun different found kind => if_neg ?_⟩
    rintro ⟨-, same⟩
    exact different (balanced.apart named found same).symm

theorem Balanced.subscribers_fresh (balanced : hub.Balanced) :
    hub.subscribers hub.nextChannel = 0 := by
  refine Finset.sum_eq_zero fun number _ => List.countP_eq_zero.mpr fun subscription member => ?_
  simpa using Nat.ne_of_lt (balanced.placed number subscription member)

/-- A fresh channel comes under a name, with a sending end of its maker. -/
theorem Balanced.openChannel (balanced : hub.Balanced) (sound : hub.Sound) (kind : ChannelKind)
    (channel : String) (capacity : Capacity) :
    (hub.openChannel kind channel capacity).Balanced := by
  obtain ⟨given, cleared, spared⟩ := balanced.givesUp_cleared channel
  have alike := alike_openChannel hub kind channel capacity
  have fresh := balanced.subscribers_fresh
  have older : ∀ {other others}, hub.ends.lookup other = some others →
      others.number < hub.nextChannel :=
    fun found => sound.ends _ (Names.mem_of_lookup found)
  unfold Hub.openChannel at alike ⊢
  -- What the name stood for before is dropped; other names stand for other channels.
  generalize (hub.ends.lookup channel).elim hub hub.dropEnds = middle at cleared alike ⊢
  have others : ∀ {other others}, other ≠ channel → hub.ends.lookup other = some others →
      others.number ≠ middle.nextChannel ∧
        (middle.changes others.number).senders = (hub.changes others.number).senders ∧
        (middle.resyncs others.number).senders = (hub.resyncs others.number).senders := by
    intro other others different found
    rw [cleared.nextChannel, cleared.changes, cleared.resyncs, spared different found,
      spared different found]
    exact ⟨Nat.ne_of_lt (older found), rfl, rfl⟩
  have further : hub.nextChannel ≤ middle.nextChannel + 1 :=
    cleared.nextChannel ▸ Nat.le_succ hub.nextChannel
  have named : middle.ends.insert channel ⟨kind, middle.nextChannel, true⟩ =
      hub.ends.insert channel ⟨kind, middle.nextChannel, true⟩ := by rw [cleared.ends]
  rw [← cleared.nextChannel] at fresh older
  have only : ∀ {other others}, hub.ends.lookup other = some others →
      others.number = middle.nextChannel → other = channel :=
    fun found same => absurd same (Nat.ne_of_lt (older found))
  cases kind with
  | changes =>
    refine balanced.rename alike further named only ?_ nofun ?_
    · intro _
      show (middle.changes.set _ _ _).senders = 1 + hub.subscribers middle.nextChannel
      rw [Channels.set_self, fresh]
      rfl
    · intro other otherEnds different found
      obtain ⟨elsewhere, changes, resyncs⟩ := others different found
      refine ⟨?_, resyncs⟩
      show (middle.changes.set _ _ _).senders = _
      rw [Channels.set_other _ _ elsewhere, changes]
  | resyncs =>
    refine balanced.rename alike further named only nofun ?_ ?_
    · intro _
      show (middle.resyncs.set _ _ _).senders = 1
      rw [Channels.set_self]
      rfl
    · intro other otherEnds different found
      obtain ⟨elsewhere, changes, resyncs⟩ := others different found
      refine ⟨changes, ?_⟩
      show (middle.resyncs.set _ _ _).senders = _
      rw [Channels.set_other _ _ elsewhere, resyncs]

/-! ## Actions -/

/-- A fresh transport has no subscriptions. -/
theorem Balanced.create (balanced : hub.Balanced) (tidy : hub.Tidy) :
    ({ hub with nextTransport := hub.nextTransport + 1 } : Hub).Balanced := by
  refine balanced.congr rfl rfl (fun _ => rfl) (fun sink => ?_) (fun _ => rfl) fun _ => rfl
  simp only [Hub.subscribers]
  rw [Finset.sum_range_succ, tidy.fresh _ (Nat.le_refl _)]
  rfl

/-- A registration is of a transport that there is. -/
theorem Tidy.transport_lt_of_held (tidy : hub.Tidy) {name : String} {held : Registration}
    (found : hub.registrations.lookup name = some held) : held.transport < hub.nextTransport := by
  by_contra beyond
  have issued := tidy.issued name held found
  rw [tidy.fresh _ (Nat.not_lt.mp beyond)] at issued
  exact Nat.not_lt_zero _ issued

theorem Balanced.step (balanced : hub.Balanced) (tidy : hub.Tidy) (action : Action) :
    (hub.step action).1.Balanced := by
  cases action with
  | create handle =>
    have created : hub.setTransport hub.nextTransport .new = hub := by
      rw [← tidy.fresh _ (Nat.le_refl _)]
      exact commit_self hub _
    have sound : ({ hub with nextTransport := hub.nextTransport + 1 } : Hub).Sound :=
      { tidy.sound with
        handles := fun entry member => Nat.lt_succ_of_lt (tidy.sound.handles entry member) }
    simp only [Hub.step, created]
    exact (balanced.create tidy).setHandle sound handle (some hub.nextTransport)
  | share handle source =>
    simp only [Hub.step]
    split
    · rename_i number found
      exact balanced.setHandle tidy.sound handle (some number)
    · exact balanced
  | dropHandle handle => exact balanced.setHandle tidy.sound handle none
  | describe handle =>
    simp only [Hub.step, withTransport]
    split <;> exact balanced
  | init handle =>
    simp only [Hub.step, runHook, withTransport, Transport.plugin]
    split
    · rename_i number found
      -- The transport is another one, but no subscription ends.
      refine balanced.leave (tidy.sound.transport_lt found) (fun _ => False) ?_ fun sink => ?_
      · simp [Transport.reopen]
      · simp
    · exact balanced
  | close handle =>
    simp only [Hub.step, runHook, withTransport, Transport.plugin]
    split
    · rename_i number found
      exact balanced.endWhere (tidy.sound.transport_lt found)
        { hub.transports number with closed := true } rfl fun _ => true
    · exact balanced
  | publish handle key value =>
    cases change : hub.change? (.publish handle key value) with
    | some found =>
      obtain ⟨number, event⟩ := found
      rw [commit_of_change tidy.sound change]
      exact balanced.leave (known_of_change tidy.sound change)
        (Transport.Severed hub.changes event.key) rfl fun sink => rfl
    | none =>
      rw [step_publish_of_no_change change]
      exact balanced
  | get handle key =>
    simp only [Hub.step, withTransport]
    split <;> exact balanced
  | openChannel kind channel room =>
    simp only [Hub.step]
    split
    · exact balanced.openChannel tidy.sound kind channel _
    · exact balanced
  | watch handle registration name changes resyncs stems =>
    cases started : hub.started? (.watch handle registration name changes resyncs stems) with
    | some found => exact balanced.start tidy.sound started
    | none =>
      rw [step_watch_of_no_start started]
      exact balanced
  | release name =>
    simp only [Hub.step]
    split
    · rename_i held found
      have released : (hub.release held).Balanced :=
        balanced.endWhere (tidy.transport_lt_of_held found) _ rfl _
      exact { released with }
    · exact balanced
  | dropRegistration name => exact { balanced with }
  | receive channel limit =>
    simp only [Hub.step]
    split
    · exact balanced.of_givesUp (givesUp_receive hub _ limit)
    · exact balanced
  | dropSender channel =>
    simp only [Hub.step]
    split
    · rename_i ends named
      exact balanced.dropSender named
    · exact balanced
  | dropReceiver channel =>
    simp only [Hub.step]
    split
    · exact balanced.of_givesUp (givesUp_changeChannel hub _ _ fun _ => rfl)
    · exact balanced
  | closeReceiver channel =>
    simp only [Hub.step]
    split
    · exact balanced.of_givesUp (givesUp_changeChannel hub _ _ fun _ => rfl)
    · exact balanced

theorem alive_of_start {action : Action} {subscription : Subscription}
    (started : hub.started? action = some (number, subscription)) :
    (hub.step action).1.isAlive number = true := by
  obtain ⟨handle, _, _, _, -, -, found, -, -⟩ := watch_of_start started
  obtain ⟨resync, registrations, same⟩ := step_of_start started
  rw [same]
  exact List.any_eq_true.mpr ⟨(handle, number), Names.mem_of_lookup found, decide_eq_true rfl⟩

/-- A transport loses its subscriptions with its last handle, and gets none without one. -/
theorem Deserted.step (deserted : hub.Deserted) (tidy : hub.Tidy) (action : Action) :
    (hub.step action).1.Deserted := by
  intro number dead
  have noStart : (⟨hub, action⟩ : Moment).started? number = none := by
    refine Option.eq_none_iff_forall_ne_some.mpr fun subscription started => ?_
    rw [alive_of_start (Moment.started?_eq_some_iff.mp started)] at dead
    cases dead
  rw [transport_step tidy, Moment.result, noStart, Option.toList_none, List.append_nil]
  refine List.filter_eq_nil_iff.mpr fun subscription live => ?_
  cases alive : hub.isAlive number with
  | false =>
    rw [deserted number alive] at live
    cases live
  | true =>
    -- It had a handle, so the action took the last one away.
    have abandons : (⟨hub, action⟩ : Moment).Abandons number := ⟨alive, dead⟩
    simp [Moment.Ends, abandons]

theorem deserted_start : start.Deserted :=
  fun _ _ => rfl

theorem balanced_after (actions : List Action) :
    (start.after actions).Balanced ∧ (start.after actions).Deserted := by
  have kept : (start.after actions).Tidy ∧ (start.after actions).Balanced ∧
      (start.after actions).Deserted :=
    @holds_after (fun hub => hub.Tidy ∧ hub.Balanced ∧ hub.Deserted) (fun _ => True)
      (fun _ action ⟨tidy, balanced, deserted⟩ _ =>
        ⟨tidy.step action, balanced.step tidy action, deserted.step tidy action⟩)
      start ⟨tidy_start, balanced_start, deserted_start⟩ actions fun _ _ => trivial
  exact kept.2

/-! ## Receiving -/

/-- All subscribers are on transports that have handles. -/
theorem subscribers_eq_zero_iff (sound : hub.Sound) (deserted : hub.Deserted) (sink : Nat) :
    hub.subscribers sink = 0 ↔ ¬ hub.Watched sink := by
  simp only [subscribers, Finset.sum_eq_zero_iff, Finset.mem_range, Transport.subscribers,
    List.countP_eq_zero, decide_eq_true_eq]
  constructor
  · rintro vacant ⟨entry, member, subscription, live, here⟩
    exact vacant entry.2 (sound.handles entry member) subscription live here
  · intro unwatched number _ subscription live here
    cases alive : hub.isAlive number with
    | false =>
      rw [deserted number alive] at live
      cases live
    | true =>
      obtain ⟨entry, member, same⟩ := List.any_eq_true.mp alive
      obtain rfl := of_decide_eq_true same
      exact unwatched ⟨entry, member, subscription, live, here⟩

/-- The supply that a receive tells of is that of the channel, unless the receiver is gone. -/
theorem supply?_receive (hub : Hub) (ends : ChannelEnds) (limit : Option Nat)
    (kept : hub.receiverOf ends ≠ .dropped) :
    (hub.receive ends limit).2.supply? = some (match ends.kind with
      | .changes => (hub.changes ends.number).supply limit
      | .resyncs => (hub.resyncs ends.number).supply limit) := by
  obtain ⟨kind, number, holdsSender⟩ := ends
  cases kind with
  | changes =>
    simp only [receive, if_neg kept]
    rfl
  | resyncs =>
    simp only [receive, if_neg kept]
    rfl

variable {limit : Option Nat}

/-- A change channel whose maker has dropped its sending end runs dry for good when it is closed or
nobody watches it any more. -/
theorem Balanced.changes_disconnected_iff (balanced : hub.Balanced) (deserted : hub.Deserted)
    (sound : hub.Sound) (named : hub.ends.lookup channel = some ends) (kind : ends.kind = .changes)
    (given : ends.holdsSender = false) (kept : hub.receiverOf ends ≠ .dropped) :
    (hub.step (.receive channel limit)).2.supply? = some .disconnected ↔
      (∀ most ∈ limit, (hub.changes ends.number).queue.length < most) ∧
        (hub.receiverOf ends = .closed ∨ ¬ hub.Watched ends.number) := by
  have receiver : hub.receiverOf ends = (hub.changes ends.number).receiver := by
    simp only [receiverOf, kind]
  have senders : (hub.changes ends.number).senders = hub.subscribers ends.number := by
    simpa [ChannelEnds.held, given] using balanced.changes named kind
  simp only [Hub.step, named]
  rw [supply?_receive hub ends limit kept, Option.some_inj, kind,
    Channel.supply_eq_disconnected_iff, senders, subscribers_eq_zero_iff sound deserted,
    ← ReceiverState.ne_open_iff kept, receiver]

/-- A resync channel whose maker has dropped its sending end has no other. -/
theorem Balanced.resyncs_disconnected_iff (balanced : hub.Balanced)
    (named : hub.ends.lookup channel = some ends) (kind : ends.kind = .resyncs)
    (given : ends.holdsSender = false) (kept : hub.receiverOf ends ≠ .dropped) :
    (hub.step (.receive channel limit)).2.supply? = some .disconnected ↔
      ∀ most ∈ limit, (hub.resyncs ends.number).queue.length < most := by
  have senders : (hub.resyncs ends.number).senders = 0 := by
    simpa [ChannelEnds.held, given] using balanced.resyncs named kind
  simp only [Hub.step, named]
  rw [supply?_receive hub ends limit kept, Option.some_inj, kind,
    Channel.supply_eq_disconnected_iff, senders, and_iff_left (.inr rfl)]

/-- A receive does not tell whether a registration was dropped. -/
theorem receive_of_dropped_registration (hub : Hub) (registration channel : String)
    (limit : Option Nat) :
    ((hub.step (.dropRegistration registration)).1.step (.receive channel limit)).2 =
      (hub.step (.receive channel limit)).2 := by
  simp only [Hub.step]
  cases hub.ends.lookup channel with
  | none => rfl
  | some ends =>
    obtain ⟨kind, number, holdsSender⟩ := ends
    let forgotten : Hub := { hub with registrations := hub.registrations.erase registration }
    have same : forgotten.receiverOf ⟨kind, number, holdsSender⟩ =
        hub.receiverOf ⟨kind, number, holdsSender⟩ := rfl
    show (forgotten.receive ⟨kind, number, holdsSender⟩ limit).2 =
      (hub.receive ⟨kind, number, holdsSender⟩ limit).2
    cases kind <;> simp only [receive, same] <;> split <;> rfl

end Hub

/-- Who holds the sending ends of channels, at the end of any run:

* a change channel has the sending end of its maker, if that one still holds it, and one for each
  live subscription on it, and a resync channel has none but its maker's;
* once the maker has dropped its own, a receive from a change channel tells that nothing more will
  come exactly if the queue is empty and either the receiver is closed or no transport with a handle
  has a subscription on the channel; and from a resync channel exactly if the queue is empty (a
  receive of several events, or of all, comes to the end of the queue in the same way);
* a transport without handles has no subscriptions, whatever registrations there are;
* subscriptions end with a release, with their transport's closing, with its last handle and with a
  change that finds their channel closed (`Moment.Ends`), and start with a watch that succeeds;
* a watch that does not succeed changes nothing;
* dropping a registration ends nothing, and no receive tells of it. -/
theorem senders_exact (actions : List Action) :
    let hub := Hub.start.after actions
    (∀ channel ends, hub.ends.lookup channel = some ends → ends.kind = .changes →
        (hub.changes ends.number).senders = ends.held + hub.subscribers ends.number ∧
          (ends.holdsSender = false → hub.receiverOf ends ≠ .dropped →
            ((hub.step (.receive channel (some 1))).2.supply? = some .disconnected ↔
              (hub.changes ends.number).queue = [] ∧
                (hub.receiverOf ends = .closed ∨ ¬ hub.Watched ends.number)) ∧
            ∀ limit, (hub.step (.receive channel limit)).2.supply? = some .disconnected ↔
              (∀ most ∈ limit, (hub.changes ends.number).queue.length < most) ∧
                (hub.receiverOf ends = .closed ∨ ¬ hub.Watched ends.number))) ∧
      (∀ channel ends, hub.ends.lookup channel = some ends → ends.kind = .resyncs →
        (hub.resyncs ends.number).senders = ends.held ∧
          (ends.holdsSender = false → hub.receiverOf ends ≠ .dropped →
            ((hub.step (.receive channel (some 1))).2.supply? = some .disconnected ↔
              (hub.resyncs ends.number).queue = []) ∧
            ∀ limit, (hub.step (.receive channel limit)).2.supply? = some .disconnected ↔
              ∀ most ∈ limit, (hub.resyncs ends.number).queue.length < most)) ∧
      (∀ number, hub.isAlive number = false → (hub.transports number).subscriptions = []) ∧
      (∀ action number,
        ((hub.step action).1.transports number).subscriptions =
          ((hub.transports number).subscriptions.filter fun subscription =>
              ¬ (⟨hub, action⟩ : Moment).Ends number subscription) ++
            ((⟨hub, action⟩ : Moment).started? number).toList) ∧
      (∀ handle registration name changes resyncs stems,
        let watch : Action := .watch handle registration name changes resyncs stems
        (hub.step watch).2 ≠ .done true → (hub.step watch).1 = hub) ∧
      (∀ registration,
        let forgotten := (hub.step (.dropRegistration registration)).1
        (∀ sink, forgotten.Watched sink ↔ hub.Watched sink) ∧
          ∀ channel limit, (forgotten.step (.receive channel limit)).2 =
            (hub.step (.receive channel limit)).2) := by
  intro hub
  obtain ⟨balanced, deserted⟩ := Hub.balanced_after actions
  have tidy : hub.Tidy := Hub.tidy_after actions
  have empty_iff : ∀ {α : Type} (queue : List α),
      (∀ most ∈ some 1, queue.length < most) ↔ queue = [] := by
    simp
  refine ⟨?_, ?_, deserted, ?_, ?_, fun registration => ⟨fun _ => .rfl, fun channel limit => ?_⟩⟩
  · intro channel ends named kind
    refine ⟨balanced.changes named kind, fun given kept => ?_⟩
    have disconnected := fun limit =>
      @Hub.Balanced.changes_disconnected_iff hub channel ends limit balanced deserted tidy.sound
        named kind given kept
    exact ⟨(disconnected (some 1)).trans (and_congr_left' (empty_iff _)), disconnected⟩
  · intro channel ends named kind
    refine ⟨balanced.resyncs named kind, fun given kept => ?_⟩
    have disconnected := fun limit =>
      @Hub.Balanced.resyncs_disconnected_iff hub channel ends limit balanced named kind given kept
    exact ⟨(disconnected (some 1)).trans (empty_iff _), disconnected⟩
  · intro action number
    exact congrArg Transport.subscriptions (Hub.transport_step tidy action number)
  · intro handle registration name changes resyncs stems watch failed
    exact Hub.step_watch_of_no_start (if_neg failed)
  · exact Hub.receive_of_dropped_registration hub registration channel limit

/-- Two transports on one channel, of which one is watched through a second handle. The first
registration is dropped, and the second one released. -/
def sharedFeed : List Action :=
  [.openChannel .changes "feed" 2, .openChannel .resyncs "state" 1, .create "other",
    .share "clone" "main", .watch "clone" "first" "watcher" "feed" "state" ["k"],
    .watch "other" "second" "watcher" "feed" "state" [""], .dropSender "feed", .dropSender "state",
    .publish "main" "k" (some [1]), .dropRegistration "first", .release "second",
    .dropHandle "main", .receive "feed" (some 1), .receive "state" (some 1)]

/-- The queues are empty, and only the last handle of the first transport keeps its channel
connected. -/
theorem senders_exact_shared :
    let before := Hub.start.after sharedFeed
    let after := Hub.start.after (sharedFeed ++ [.dropHandle "clone"])
    (before.changes 0).senders = 1 ∧
      (before.step (.receive "feed" (some 1))).2.supply? ≠ some .disconnected ∧
      (before.step (.receive "state" (some 1))).2.supply? = some .disconnected ∧
      (after.changes 0).senders = 0 ∧
      (after.step (.receive "feed" (some 1))).2.supply? = some .disconnected ∧
      (after.transports 0).subscriptions = [] ∧
      (after.step (.watch "other" "third" "watcher" "feed" "state" [])).1 = after := by
  intro before after
  obtain ⟨feedBefore, stateBefore, -⟩ := senders_exact sharedFeed
  obtain ⟨feedAfter, -, deserted, -, failed, -⟩ :=
    senders_exact (sharedFeed ++ [.dropHandle "clone"])
  obtain ⟨countBefore, runBefore⟩ := feedBefore "feed" ⟨.changes, 0, false⟩ (by decide) rfl
  obtain ⟨-, runState⟩ := stateBefore "state" ⟨.resyncs, 1, false⟩ (by decide) rfl
  obtain ⟨countAfter, runAfter⟩ := feedAfter "feed" ⟨.changes, 0, false⟩ (by decide) rfl
  refine ⟨countBefore.trans (by decide), ?_, ?_, countAfter.trans (by decide), ?_, ?_, ?_⟩
  · exact fun told => absurd ((runBefore rfl (by decide)).1.mp told) (by decide)
  · exact (runState rfl (by decide)).1.mpr (by decide)
  · exact (runAfter rfl (by decide)).1.mpr (by decide)
  · exact deserted 0 (by decide)
  · exact failed _ _ _ _ _ _ (by decide)

end PluginSupport
