import PluginSupport.Proofs.Sync.Run

/-!
# What a step can do

An action on a hub tells of a change, or starts a subscription, or is quiet. `Quiet` lists the
moves that quiet actions are made of; whatever each of these keeps, quiet actions keep.

Results:
1. `step_of_change`, `step_of_start`: the hub after an action of the first two kinds.
2. `quiet_step`: any other action is quiet.
3. `stepped`: the three kinds together, for case analysis.
4. `sound_after`: in every hub that a run leads to, names stand for things that there are, and
   subscription numbers are distinct.
-/
namespace PluginSupport

open Utf8 (Bytes)

namespace Names

variable {α : Type} {names : Names α} {name : String}

theorem mem_of_lookup {a : α} (found : names.lookup name = some a) : (name, a) ∈ names := by
  obtain ⟨front, back, rfl, -⟩ := List.lookup_eq_some_iff.mp found
  exact List.mem_append_right _ List.mem_cons_self

theorem mem_of_mem_erase {entry : String × α} (member : entry ∈ names.erase name) :
    entry ∈ names :=
  (List.mem_filter.mp member).1

theorem mem_insert {a : α} {entry : String × α} (member : entry ∈ names.insert name a) :
    entry = (name, a) ∨ entry ∈ names :=
  (List.mem_cons.mp member).imp_right mem_of_mem_erase

end Names

/-! ## Channels that take in nothing -/

/-- A channel changed, but took in no event. -/
structure Channel.Idle {α : Type} (before after : Channel α) : Prop where
  accepted : after.accepted = before.accepted
  bounded : before.Bounded → after.Bounded

namespace Channel.Idle

variable {α : Type}

theorem refl (channel : Channel α) : channel.Idle channel := ⟨rfl, id⟩

theorem senders (channel : Channel α) (count : Nat) :
    channel.Idle { channel with senders := count } := ⟨rfl, id⟩

theorem receiver (channel : Channel α) (state : ReceiverState) :
    channel.Idle { channel with receiver := state } := ⟨rfl, id⟩

/-- Taking events out takes no more than the queue holds. -/
theorem advance (channel : Channel α) (limit : Option Nat) :
    channel.Idle (channel.advance (channel.takeCount limit)) := by
  refine ⟨rfl, fun bounded => ?_⟩
  have := channel.length_queue
  unfold Channel.Bounded Channel.advance Channel.takeCount at *
  cases limit with
  | none => grind
  | some most => grind

end Channel.Idle

namespace Hub

/-! ## Quiet moves -/

/-- Moves that neither tell of a change nor start a subscription. -/
inductive Quiet : Hub → Hub → Prop
  | rest (hub : Hub) : Quiet hub hub
  | trans {hub middle after : Hub} : Quiet hub middle → Quiet middle after → Quiet hub after
  /-- A fresh transport. -/
  | create (hub : Hub) :
      Quiet hub { hub.setTransport hub.nextTransport .new with
        nextTransport := hub.nextTransport + 1 }
  /-- Handles come to stand for other transports, or for none. -/
  | handles (hub : Hub) {handles : Names Nat}
      (known : ∀ entry ∈ handles, entry.2 < hub.nextTransport) : Quiet hub { hub with handles }
  | registrations (hub : Hub) (registrations : Names Registration) :
      Quiet hub { hub with registrations }
  /-- Subscriptions end. -/
  | endWhere (hub : Hub) (number : Nat) (picked : Subscription → Bool) :
      Quiet hub (hub.commit number ((hub.transports number).endWhere picked hub.changes))
  | reopen (hub : Hub) (number : Nat) :
      Quiet hub (hub.commit number ((hub.transports number).reopen, hub.changes))
  | shut (hub : Hub) (number : Nat) :
      Quiet hub (hub.commit number ((hub.transports number).shut hub.changes))
  /-- Channels change, but take in nothing. -/
  | idle (hub : Hub) {changes : Channels ChangeEvent} {resyncs : Channels ResyncEvent}
      (changesIdle : ∀ sink, (hub.changes sink).Idle (changes sink))
      (resyncsIdle : ∀ sink, (hub.resyncs sink).Idle (resyncs sink)) :
      Quiet hub { hub with changes, resyncs }
  /-- A fresh channel. -/
  | openChanges (hub : Hub) (capacity : Capacity) :
      Quiet hub { hub with
        changes := hub.changes.set hub.nextChannel (.make capacity)
        nextChannel := hub.nextChannel + 1 }
  | openResyncs (hub : Hub) (capacity : Capacity) :
      Quiet hub { hub with
        resyncs := hub.resyncs.set hub.nextChannel (.make capacity)
        nextChannel := hub.nextChannel + 1 }
  /-- Names come to stand for the ends of other channels. -/
  | ends (hub : Hub) {ends : Names ChannelEnds}
      (known : ∀ entry ∈ ends, entry.2.number < hub.nextChannel) : Quiet hub { hub with ends }

/-- What holds of a hub throughout every run. -/
structure Sound (hub : Hub) : Prop where
  handles : ∀ entry ∈ hub.handles, entry.2 < hub.nextTransport
  ends : ∀ entry ∈ hub.ends, entry.2.number < hub.nextChannel
  bounded : ∀ sink, (hub.changes sink).Bounded
  ascending : ∀ number,
    ((hub.transports number).subscriptions.map Subscription.number).Pairwise (· < ·)
  below : ∀ number, ∀ subscription ∈ (hub.transports number).subscriptions,
    subscription.number < (hub.transports number).nextNumber

theorem sound_start : start.Sound where
  handles := by simp [start]
  ends := by simp [start]
  bounded := by simp [start, Channel.make, Channel.Bounded]
  ascending := by simp [start, Transport.new]
  below := by simp [start, Transport.new]

theorem Sound.distinct {hub : Hub} (sound : hub.Sound) (number : Nat) :
    ((hub.transports number).subscriptions.map Subscription.number).Nodup :=
  (sound.ascending number).imp Nat.ne_of_lt

theorem Sound.transport_lt {hub : Hub} (sound : hub.Sound) {handle : String} {number : Nat}
    (found : hub.transport? handle = some number) : number < hub.nextTransport :=
  sound.handles _ (Names.mem_of_lookup found)

theorem transports_setTransport (hub : Hub) (number other : Nat) (transport : Transport) :
    (hub.setTransport number transport).transports other =
      if other = number then transport else hub.transports other := rfl

theorem commit_self (hub : Hub) (number : Nat) :
    hub.commit number (hub.transports number, hub.changes) = hub := by
  simp only [commit, setTransport]
  congr 1
  funext other
  split
  · rename_i same
    rw [same]
  · rfl

theorem transports_commit (hub : Hub) (number other : Nat)
    (result : Transport × Channels ChangeEvent) :
    (hub.commit number result).transports other =
      if other = number then result.1 else hub.transports other := rfl

theorem idle_dropSenders (channels : Channels ChangeEvent) (numbers : List Nat) (sink : Nat) :
    (channels sink).Idle (channels.dropSenders numbers sink) := by
  rw [Channels.dropSenders_apply]
  exact .senders _ _

theorem idle_addSender (channels : Channels ChangeEvent) (number sink : Nat) :
    (channels sink).Idle (channels.update number Channel.addSender sink) := by
  simp only [Channels.update, Channels.set]
  split
  · rename_i here
    exact here ▸ .senders _ _
  · exact .refl _

/-- Soundness outlasts a change of one transport that keeps its subscriptions in order, and of the
channels that keeps them bounded. -/
theorem Sound.commit {hub : Hub} (sound : hub.Sound) {number : Nat}
    {result : Transport × Channels ChangeEvent}
    (ascending : (result.1.subscriptions.map Subscription.number).Pairwise (· < ·))
    (below : ∀ subscription ∈ result.1.subscriptions, subscription.number < result.1.nextNumber)
    (bounded : ∀ sink, (result.2 sink).Bounded) : (hub.commit number result).Sound where
  handles := sound.handles
  ends := sound.ends
  bounded := bounded
  ascending := by
    intro other
    rw [transports_commit]
    split
    · exact ascending
    · exact sound.ascending other
  below := by
    intro other
    rw [transports_commit]
    split
    · exact below
    · exact sound.below other

/-- Subscriptions may end at any time. -/
theorem Sound.endWhere {hub : Hub} (sound : hub.Sound) (number : Nat) (transport : Transport)
    (sameSubscriptions : transport.subscriptions = (hub.transports number).subscriptions)
    (sameNumber : transport.nextNumber = (hub.transports number).nextNumber)
    (picked : Subscription → Bool) :
    (hub.commit number (transport.endWhere picked hub.changes)).Sound := by
  refine sound.commit ?_ ?_ fun sink =>
    (idle_dropSenders hub.changes _ sink).bounded (sound.bounded sink)
  · simp only [Transport.endWhere, sameSubscriptions]
    exact (sound.ascending number).sublist (List.filter_sublist.map _)
  · intro subscription member
    simp only [Transport.endWhere, sameSubscriptions, sameNumber] at member ⊢
    exact sound.below number subscription (List.mem_filter.mp member).1

theorem Quiet.sound {hub after : Hub} (quiet : Quiet hub after) (sound : hub.Sound) :
    after.Sound := by
  induction quiet with
  | rest => exact sound
  | trans _ _ first second => exact second (first sound)
  | create hub =>
    refine { sound with handles := ?_, ascending := ?_, below := ?_ }
    · exact fun entry member => Nat.lt_succ_of_lt (sound.handles entry member)
    · intro number
      simp only [transports_setTransport]
      split
      · exact .nil
      · exact sound.ascending number
    · intro number
      simp only [transports_setTransport]
      split
      · exact nofun
      · exact sound.below number
  | handles hub known => exact { sound with handles := known }
  | registrations => exact { sound with }
  | endWhere hub number picked => exact sound.endWhere number _ rfl rfl picked
  | reopen hub number =>
    exact sound.commit (sound.ascending number) (sound.below number) sound.bounded
  | shut hub number =>
    exact sound.endWhere number { hub.transports number with closed := true } rfl rfl fun _ => true
  | idle hub changesIdle _ =>
    exact { sound with bounded := fun sink => (changesIdle sink).bounded (sound.bounded sink) }
  | openChanges hub capacity =>
    refine { sound with ends := ?_, bounded := ?_ }
    · exact fun entry member => Nat.lt_succ_of_lt (sound.ends entry member)
    · intro sink
      simp only [Channels.set]
      split
      · exact Nat.le_refl 0
      · exact sound.bounded sink
  | openResyncs hub capacity =>
    exact { sound with ends := fun entry member => Nat.lt_succ_of_lt (sound.ends entry member) }
  | ends hub known => exact { sound with ends := known }

/-- What quiet moves leave alone. -/
structure Undisturbed (hub after : Hub) : Prop where
  nextTransport_le : hub.nextTransport ≤ after.nextTransport
  nextChannel_le : hub.nextChannel ≤ after.nextChannel
  store : ∀ number < hub.nextTransport,
    (after.transports number).store = (hub.transports number).store
  revision : ∀ number < hub.nextTransport,
    (after.transports number).revision = (hub.transports number).revision
  /-- Subscriptions may end, but none starts. -/
  subscriptions : ∀ number,
    (after.transports number).subscriptions.Sublist (hub.transports number).subscriptions
  /-- A channel that is opened starts without events. -/
  accepted : ∀ sink, (after.changes sink).accepted = (hub.changes sink).accepted ∨
    hub.nextChannel ≤ sink ∧ (after.changes sink).accepted = []

theorem Undisturbed.refl (hub : Hub) : Undisturbed hub hub where
  nextTransport_le := Nat.le_refl _
  nextChannel_le := Nat.le_refl _
  store _ _ := rfl
  revision _ _ := rfl
  subscriptions _ := .refl _
  accepted _ := .inl rfl

theorem Undisturbed.trans {hub middle after : Hub} (first : Undisturbed hub middle)
    (second : Undisturbed middle after) : Undisturbed hub after where
  nextTransport_le := Nat.le_trans first.nextTransport_le second.nextTransport_le
  nextChannel_le := Nat.le_trans first.nextChannel_le second.nextChannel_le
  store number known := by
    rw [second.store number (Nat.lt_of_lt_of_le known first.nextTransport_le),
      first.store number known]
  revision number known := by
    rw [second.revision number (Nat.lt_of_lt_of_le known first.nextTransport_le),
      first.revision number known]
  subscriptions number := (second.subscriptions number).trans (first.subscriptions number)
  accepted sink := by
    rcases second.accepted sink with same | ⟨fresh, empty⟩
    · rw [same]
      exact first.accepted sink
    · exact .inr ⟨Nat.le_trans first.nextChannel_le fresh, empty⟩

/-- A transport that keeps its store and starts no subscription leaves the rest alone. -/
theorem Undisturbed.commit (hub : Hub) {number : Nat} {result : Transport × Channels ChangeEvent}
    (store : result.1.store = (hub.transports number).store)
    (revision : result.1.revision = (hub.transports number).revision)
    (subscriptions : result.1.subscriptions.Sublist (hub.transports number).subscriptions)
    (accepted : ∀ sink, (result.2 sink).accepted = (hub.changes sink).accepted) :
    Undisturbed hub (hub.commit number result) := by
  refine ⟨Nat.le_refl _, Nat.le_refl _, ?_, ?_, ?_, fun sink => .inl (accepted sink)⟩
  · intro other _
    rw [transports_commit]
    split <;> simp_all
  · intro other _
    rw [transports_commit]
    split <;> simp_all
  · intro other
    rw [transports_commit]
    split
    · rename_i same
      exact same ▸ subscriptions
    · exact .refl _

theorem Quiet.undisturbed {hub after : Hub} (quiet : Quiet hub after) : Undisturbed hub after := by
  induction quiet with
  | rest hub => exact .refl hub
  | trans _ _ first second => exact first.trans second
  | create hub =>
    refine { Undisturbed.refl hub with
      nextTransport_le := Nat.le_succ _, store := ?_, revision := ?_, subscriptions := ?_ }
    · intro number known
      rw [transports_setTransport, if_neg (Nat.ne_of_lt known)]
    · intro number known
      rw [transports_setTransport, if_neg (Nat.ne_of_lt known)]
    · intro number
      rw [transports_setTransport]
      split
      · exact List.nil_sublist _
      · exact .refl _
  | handles hub _ => exact { Undisturbed.refl hub with }
  | registrations hub _ => exact { Undisturbed.refl hub with }
  | endWhere hub number picked =>
    exact .commit hub rfl rfl List.filter_sublist fun sink =>
      (idle_dropSenders hub.changes _ sink).accepted
  | reopen hub number => exact .commit hub rfl rfl (.refl _) fun _ => rfl
  | shut hub number =>
    exact .commit hub rfl rfl List.filter_sublist fun sink =>
      (idle_dropSenders hub.changes _ sink).accepted
  | idle hub changesIdle _ =>
    exact { Undisturbed.refl hub with accepted := fun sink => .inl (changesIdle sink).accepted }
  | openChanges hub capacity =>
    refine { Undisturbed.refl hub with nextChannel_le := Nat.le_succ _, accepted := ?_ }
    intro sink
    by_cases opened : sink = hub.nextChannel
    · subst opened
      exact .inr ⟨Nat.le_refl _, congrArg Channel.accepted (Channels.set_self _ _ _)⟩
    · exact .inl (congrArg Channel.accepted (Channels.set_other _ _ opened))
  | openResyncs hub capacity => exact { Undisturbed.refl hub with nextChannel_le := Nat.le_succ _ }
  | ends hub _ => exact { Undisturbed.refl hub with }

/-! ## Quiet actions -/

/-- The transport that a handle leaves may end its subscriptions. -/
theorem quiet_leave {hub : Hub} {handles : Names Nat} (renamed : Quiet hub { hub with handles })
    (old : Nat) :
    Quiet hub (if ({ hub with handles } : Hub).isAlive old then { hub with handles }
      else ({ hub with handles } : Hub).commit old ((hub.transports old).endAll hub.changes)) := by
  split
  · exact renamed
  · exact renamed.trans (.endWhere { hub with handles } _ fun _ => true)

theorem quiet_setHandle {hub : Hub} (sound : hub.Sound) (handle : String) (number? : Option Nat)
    (known : ∀ number, number? = some number → number < hub.nextTransport) :
    Quiet hub (hub.setHandle handle number?) := by
  have renamed : ∀ handles : Names Nat,
      (∀ entry ∈ handles, entry ∈ hub.handles ∨ number? = some entry.2) →
      Quiet hub { hub with handles } := by
    intro handles origin
    refine .handles hub fun entry member => ?_
    rcases origin entry member with old | new
    · exact sound.handles entry old
    · exact known _ new
  cases number? with
  | none =>
    have erased := renamed (hub.handles.erase handle) fun entry member =>
      .inl (Names.mem_of_mem_erase member)
    simp only [setHandle]
    split
    · exact quiet_leave erased _
    · exact erased
  | some number =>
    have inserted := renamed (hub.handles.insert handle number) fun entry member => by
      rcases Names.mem_insert member with rfl | old
      · exact .inr rfl
      · exact .inl old
    simp only [setHandle]
    split
    · exact quiet_leave inserted _
    · exact inserted

theorem quiet_changeChannel (hub : Hub) (ends : ChannelEnds)
    (change : {α : Type} → Channel α → Channel α)
    (idle : ∀ {α : Type} (channel : Channel α), channel.Idle (change channel)) :
    Quiet hub (hub.changeChannel ends change) := by
  have updated : ∀ {α : Type} (channels : Channels α) (sink : Nat),
      (channels sink).Idle (channels.update ends.number change sink) := by
    intro α channels sink
    by_cases here : sink = ends.number
    · subst here
      simp only [Channels.update, Channels.set_self]
      exact idle _
    · simp only [Channels.update, Channels.set_other _ _ here]
      exact .refl _
  unfold changeChannel
  split
  · exact .idle hub (updated _) fun sink => .refl _
  · exact .idle hub (fun sink => .refl _) (updated _)

theorem quiet_dropSender (hub : Hub) (ends : ChannelEnds) : Quiet hub (hub.dropSender ends) := by
  unfold dropSender
  split
  · exact quiet_changeChannel hub ends _ fun channel => .senders channel _
  · exact .rest hub

theorem quiet_dropEnds (hub : Hub) (ends : ChannelEnds) : Quiet hub (hub.dropEnds ends) :=
  (quiet_dropSender hub ends).trans
    (quiet_changeChannel _ ends _ fun channel => .receiver channel _)

theorem quiet_setEnds {hub : Hub} (sound : hub.Sound) (channel : String) {ends : ChannelEnds}
    (known : ends.number < hub.nextChannel) : Quiet hub (hub.setEnds channel ends) := by
  refine .ends hub fun entry member => ?_
  rcases Names.mem_insert member with rfl | old
  · exact known
  · exact sound.ends entry old

theorem quiet_openChannel {hub : Hub} (sound : hub.Sound) (kind : ChannelKind) (channel : String)
    (capacity : Capacity) : Quiet hub (hub.openChannel kind channel capacity) := by
  have cleared : Quiet hub ((hub.ends.lookup channel).elim hub hub.dropEnds) := by
    cases hub.ends.lookup channel with
    | none => exact .rest hub
    | some ends => exact quiet_dropEnds hub ends
  unfold openChannel
  generalize (hub.ends.lookup channel).elim hub hub.dropEnds = middle at cleared ⊢
  cases kind with
  | changes =>
    have opened := Quiet.openChanges middle capacity
    exact (cleared.trans opened).trans
      (quiet_setEnds (opened.sound (cleared.sound sound)) channel (Nat.lt_succ_self _))
  | resyncs =>
    have opened := Quiet.openResyncs middle capacity
    exact (cleared.trans opened).trans
      (quiet_setEnds (opened.sound (cleared.sound sound)) channel (Nat.lt_succ_self _))

theorem quiet_receive (hub : Hub) (ends : ChannelEnds) (limit : Option Nat) :
    Quiet hub (hub.receive ends limit).1 := by
  have taken : ∀ {α : Type} (channels : Channels α) (sink : Nat),
      (channels sink).Idle (channels.set ends.number
        ((channels ends.number).advance ((channels ends.number).takeCount limit)) sink) := by
    intro α channels sink
    by_cases here : sink = ends.number
    · subst here
      rw [Channels.set_self]
      exact .advance _ limit
    · rw [Channels.set_other _ _ here]
      exact .refl _
  simp only [receive]
  split
  · split
    · exact .rest hub
    · exact .idle hub (taken _) fun sink => .refl _
  · split
    · exact .rest hub
    · exact .idle hub (fun sink => .refl _) (taken _)

theorem quiet_release (hub : Hub) (registration : Registration) :
    Quiet hub (hub.release registration) :=
  .endWhere hub registration.transport _

/-! ## Actions by kind -/

theorem step_of_change {hub : Hub} {action : Action} {number : Nat} {event : ChangeEvent}
    (change : hub.change? action = some (number, event)) :
    hub.step action =
      (hub.commit number (((hub.transports number).record event).notify event hub.changes),
        .done true) := by
  cases action with
  | publish handle key value =>
    simp only [change?, Option.bind_eq_some_iff, Option.map_eq_some_iff, Prod.mk.injEq] at change
    obtain ⟨number, found, event, change, rfl, rfl⟩ := change
    simp [step, withTransport, found, Transport.publish_of_change change]
  | _ => cases change

/-- A change is what a publication makes that is accepted and puts a value or deletes a stored
one. -/
theorem change?_isSome_iff {hub : Hub} {action : Action} :
    (hub.change? action).isSome ↔ ∃ handle key value number,
      action = .publish handle key value ∧ hub.transport? handle = some number ∧
        (hub.step action).2 = .done true ∧
        (value ≠ none ∨ (hub.transports number).get key ≠ none) := by
  constructor
  · intro changes
    obtain ⟨⟨number, event⟩, change⟩ := Option.isSome_iff_exists.mp changes
    have answer := congrArg Prod.snd (step_of_change change)
    cases action with
    | publish handle key value =>
      simp only [change?, Option.bind_eq_some_iff, Option.map_eq_some_iff] at change
      obtain ⟨other, found, event, change, -⟩ := change
      refine ⟨handle, key, value, other, rfl, found, answer, ?_⟩
      by_contra void
      obtain ⟨noValue, missing⟩ := not_or.mp void
      simp [Transport.change?, not_not.mp noValue, not_not.mp missing] at change
    | _ => cases change
  · rintro ⟨handle, key, value, number, rfl, found, answer, effective⟩
    cases closed : (hub.transports number).closed with
    | true => simp [step, withTransport, found, Transport.publish, closed] at answer
    | false => simp [change?, found, Transport.change?_of_effective closed effective]

/-- What a change tells: its kind goes with its value, it names the value that it replaces, and it
takes the next revision of its transport. -/
theorem event_of_change {hub : Hub} {action : Action} {number : Nat} {event : ChangeEvent}
    (change : (⟨hub, action⟩ : Moment).change? number = some event) :
    event.kind = (if event.value.isSome then .put else .delete) ∧
      event.previous = (hub.transports number).get event.key ∧
      event.revision = (hub.transports number).revision + 1 := by
  rw [Moment.change?_eq_some_iff] at change
  cases action with
  | publish handle key value =>
    simp only [change?, Option.bind_eq_some_iff, Option.map_eq_some_iff, Prod.mk.injEq] at change
    obtain ⟨number, found, event, change, rfl, rfl⟩ := change
    simp only [Transport.change?] at change
    split at change
    · cases change
    · cases change
      exact ⟨rfl, rfl, rfl⟩
  | _ => cases change

/-- A subscription starts with a watch that succeeds, and takes the transport's next number. -/
theorem watch_of_start {hub : Hub} {action : Action} {number : Nat} {subscription : Subscription}
    (started : hub.started? action = some (number, subscription)) :
    ∃ handle registration changes resyncs,
      action = .watch handle registration subscription.name changes resyncs subscription.stems ∧
      (hub.step action).2 = .done true ∧
      hub.transport? handle = some number ∧
      hub.sender? .changes changes = some subscription.sink ∧
      subscription.number = (hub.transports number).nextNumber := by
  cases action with
  | watch handle registration name changes resyncs stems =>
    simp only [started?] at started
    split at started
    · rename_i success
      simp only [Option.bind_eq_some_iff, Option.map_eq_some_iff, Prod.mk.injEq] at started
      obtain ⟨number, found, sink, held, rfl, rfl⟩ := started
      exact ⟨handle, registration, changes, resyncs, rfl, success, found, held, rfl⟩
    · cases started
  | _ => cases started

theorem change?_of_start {hub : Hub} {action : Action} {start : Nat × Subscription}
    (started : hub.started? action = some start) : hub.change? action = none := by
  obtain ⟨_, _, _, _, rfl, -⟩ := watch_of_start started
  rfl

/-- A watch that succeeds adds a sending end to the change channel, offers the current state to the
resync channel, and keeps its registration. -/
theorem step_of_watch {hub : Hub} {handle registration name changes resyncs : String}
    {stems : List String} {number : Nat} {subscription : Subscription}
    (started : hub.started? (.watch handle registration name changes resyncs stems) =
      some (number, subscription)) :
    ∃ resync,
      (hub.step (.watch handle registration name changes resyncs stems)).1 =
        { hub.commit number
            ((hub.transports number).subscribe subscription.name subscription.stems
              subscription.sink,
            hub.changes.update subscription.sink Channel.addSender) with
          resyncs := hub.resyncs.set resync ((hub.resyncs resync).offer
            ((hub.transports number).store.resync subscription.stems))
          registrations := hub.registrations.insert registration
            ⟨number, subscription.number⟩ } := by
  obtain ⟨_, _, _, _, same, success, found, held, numbered⟩ := watch_of_start started
  cases same
  rw [numbered]
  simp only [step, held] at success ⊢
  cases resyncHeld : hub.sender? .resyncs resyncs with
  | none => simp [resyncHeld] at success
  | some resync =>
    simp only [resyncHeld, watch, withTransport, found, Transport.watch] at success ⊢
    split at success
    · cases success
    · rename_i accepted
      split at accepted
      · cases accepted
      · split at accepted
        · cases accepted
        · cases accepted
          exact ⟨resync, rfl⟩

theorem step_of_start {hub : Hub} {action : Action} {number : Nat} {subscription : Subscription}
    (started : hub.started? action = some (number, subscription)) :
    ∃ resync registrations,
      (hub.step action).1 =
        { hub.commit number
            ((hub.transports number).subscribe subscription.name subscription.stems
              subscription.sink,
            hub.changes.update subscription.sink Channel.addSender) with
          resyncs := hub.resyncs.set resync ((hub.resyncs resync).offer
            ((hub.transports number).store.resync subscription.stems))
          registrations } := by
  obtain ⟨_, _, _, _, rfl, -⟩ := watch_of_start started
  obtain ⟨resync, same⟩ := step_of_watch started
  exact ⟨resync, _, same⟩

/-- A watch goes to a transport and to a channel that there are. -/
theorem known_of_start {hub : Hub} (sound : hub.Sound) {action : Action} {number : Nat}
    {subscription : Subscription} (started : hub.started? action = some (number, subscription)) :
    number < hub.nextTransport ∧ subscription.sink < hub.nextChannel := by
  obtain ⟨_, _, changes, _, rfl, -, found, held, -⟩ := watch_of_start started
  refine ⟨sound.transport_lt found, ?_⟩
  simp only [sender?] at held
  split at held
  · rename_i ends named
    split at held
    · rw [← Option.some.inj held]
      exact sound.ends _ (Names.mem_of_lookup named)
    · cases held
  · cases held

/-- A publication that changes nothing leaves everything as it is. -/
theorem step_publish_of_no_change {hub : Hub} {handle key : String} {value : Option Bytes}
    (noChange : hub.change? (.publish handle key value) = none) :
    (hub.step (.publish handle key value)).1 = hub := by
  simp only [step, withTransport]
  split
  · rename_i number found
    have unchanged : (hub.transports number).change? key value = none := by
      simpa [change?, found] using noChange
    rw [Transport.publish_of_no_change unchanged]
    cases (hub.transports number).closed with
    | true => rfl
    | false => exact commit_self hub number
  · rfl

/-- A watch that starts nothing leaves everything as it is. -/
theorem step_watch_of_no_start {hub : Hub} {handle registration name changes resyncs : String}
    {stems : List String}
    (noStart : hub.started? (.watch handle registration name changes resyncs stems) = none) :
    (hub.step (.watch handle registration name changes resyncs stems)).1 = hub := by
  cases held : hub.sender? .changes changes with
  | none => simp only [step, held]
  | some sink =>
    cases resyncHeld : hub.sender? .resyncs resyncs with
    | none => simp only [step, held, resyncHeld]
    | some resync =>
      cases found : hub.transport? handle with
      | none => simp only [step, held, resyncHeld, watch, withTransport, found]
      | some number =>
        simp only [started?, step, held, resyncHeld, watch, withTransport, found] at noStart ⊢
        split
        · rfl
        · rename_i accepted
          simp [accepted] at noStart

theorem quiet_step {hub : Hub} (sound : hub.Sound) {action : Action}
    (noChange : hub.change? action = none) (noStart : hub.started? action = none) :
    Quiet hub (hub.step action).1 := by
  cases action with
  | create handle =>
    have created := Quiet.create hub
    refine created.trans (quiet_setHandle (created.sound sound) handle (some hub.nextTransport) ?_)
    intro number same
    cases same
    exact Nat.lt_succ_self _
  | share handle source =>
    simp only [step]
    split
    · rename_i number found
      refine quiet_setHandle sound handle (some number) fun other same => ?_
      cases same
      exact sound.transport_lt found
    · exact .rest hub
  | dropHandle handle => exact quiet_setHandle sound handle none nofun
  | describe handle =>
    simp only [step, withTransport]
    split <;> exact .rest hub
  | init handle =>
    simp only [step, runHook, withTransport]
    split
    · exact .reopen hub _
    · exact .rest hub
  | close handle =>
    simp only [step, runHook, withTransport]
    split
    · exact .shut hub _
    · exact .rest hub
  | publish handle key value =>
    rw [step_publish_of_no_change noChange]
    exact .rest hub
  | get handle key =>
    simp only [step, withTransport]
    split <;> exact .rest hub
  | openChannel kind channel room =>
    simp only [step]
    split
    · exact quiet_openChannel sound kind channel _
    · exact .rest hub
  | watch handle registration name changes resyncs stems =>
    rw [step_watch_of_no_start noStart]
    exact .rest hub
  | release registration =>
    simp only [step]
    split
    · exact (quiet_release hub _).trans (.registrations _ _)
    · exact .rest hub
  | dropRegistration registration => exact .registrations hub _
  | receive channel limit =>
    simp only [step]
    split
    · exact quiet_receive hub _ limit
    · exact .rest hub
  | dropSender channel =>
    simp only [step]
    split
    · rename_i ends named
      have dropped := quiet_dropSender hub ends
      refine dropped.trans (quiet_setEnds (dropped.sound sound) channel ?_)
      exact Nat.lt_of_lt_of_le (sound.ends _ (Names.mem_of_lookup named))
        dropped.undisturbed.nextChannel_le
    · exact .rest hub
  | dropReceiver channel =>
    simp only [step]
    split
    · exact quiet_changeChannel hub _ _ fun channel => .receiver channel _
    · exact .rest hub
  | closeReceiver channel =>
    simp only [step]
    split
    · exact quiet_changeChannel hub _ _ fun channel => .receiver channel _
    · exact .rest hub

/-! ## Sound runs -/

theorem bounded_told {channels : Channels ChangeEvent} (bounded : ∀ sink, (channels sink).Bounded)
    (event : ChangeEvent) (subscriptions : List Subscription) (sink : Nat) :
    (Transport.told event subscriptions channels sink).Bounded :=
  Channel.bounded_offered (bounded sink) event _

/-- The hub after a change, with what became of its transport and its channels spelled out. -/
theorem commit_of_change {hub : Hub} (sound : hub.Sound) {action : Action} {number : Nat}
    {event : ChangeEvent} (change : hub.change? action = some (number, event)) :
    (hub.step action).1 =
      hub.commit number
        ({ (hub.transports number).record event with
            subscriptions := (hub.transports number).subscriptions.filter fun subscription =>
              ¬ Transport.Severed hub.changes event.key subscription },
          Transport.told event (hub.transports number).subscriptions hub.changes) := by
  have distinct :
      (((hub.transports number).record event).subscriptions.map Subscription.number).Nodup :=
    sound.distinct number
  rw [step_of_change change, Transport.notify_eq sound.bounded distinct]
  rfl

/-- What an action leads to, by its kind. -/
inductive Stepped (hub : Hub) (action : Action) : Hub → Prop
  | change {number : Nat} {event : ChangeEvent}
      (change : hub.change? action = some (number, event)) :
      Stepped hub action (hub.commit number
        ({ (hub.transports number).record event with
            subscriptions := (hub.transports number).subscriptions.filter fun subscription =>
              ¬ Transport.Severed hub.changes event.key subscription },
          Transport.told event (hub.transports number).subscriptions hub.changes))
  | start {number : Nat} {subscription : Subscription}
      (started : hub.started? action = some (number, subscription))
      (resyncs : Channels ResyncEvent) (registrations : Names Registration) :
      Stepped hub action
        { hub.commit number
            ((hub.transports number).subscribe subscription.name subscription.stems
              subscription.sink,
            hub.changes.update subscription.sink Channel.addSender) with
          resyncs
          registrations }
  | quiet {after : Hub} (noChange : hub.change? action = none)
      (noStart : hub.started? action = none) (quiet : Quiet hub after) : Stepped hub action after

theorem stepped {hub : Hub} (sound : hub.Sound) (action : Action) :
    Stepped hub action (hub.step action).1 := by
  cases change : hub.change? action with
  | some found =>
    rw [commit_of_change sound change]
    exact .change change
  | none =>
    cases started : hub.started? action with
    | some found =>
      obtain ⟨resync, registrations, same⟩ := step_of_start started
      rw [same]
      exact .start started _ _
    | none => exact .quiet change started (quiet_step sound change started)

theorem Stepped.sound {hub after : Hub} {action : Action} (stepped : Stepped hub action after)
    (sound : hub.Sound) : after.Sound := by
  cases stepped with
  | quiet _ _ quiet => exact quiet.sound sound
  | @change number event _ =>
    refine sound.commit ?_ ?_ (bounded_told sound.bounded event _)
    · exact (sound.ascending number).sublist (List.filter_sublist.map _)
    · exact fun subscription member => sound.below number _ (List.mem_filter.mp member).1
  | @start number subscription _ resyncs registrations =>
    have committed : (hub.commit number
        ((hub.transports number).subscribe subscription.name subscription.stems subscription.sink,
          hub.changes.update subscription.sink Channel.addSender)).Sound := by
      refine sound.commit ?_ ?_ fun sink =>
        (idle_addSender hub.changes _ sink).bounded (sound.bounded sink)
      · simp only [Transport.subscribe, List.map_append, List.pairwise_append]
        refine ⟨sound.ascending number, List.pairwise_singleton _ _, ?_⟩
        intro older member newer isNew
        obtain ⟨subscription, isOld, rfl⟩ := List.mem_map.mp member
        simp only [List.map_cons, List.map_nil, List.mem_singleton] at isNew
        exact isNew ▸ sound.below number subscription isOld
      · intro subscription member
        rcases List.mem_append.mp member with isOld | isNew
        · exact Nat.lt_succ_of_lt (sound.below number subscription isOld)
        · rw [List.mem_singleton.mp isNew]
          exact Nat.lt_succ_self _
    exact { committed with }

theorem Sound.step {hub : Hub} (sound : hub.Sound) (action : Action) :
    (hub.step action).1.Sound :=
  (stepped sound action).sound sound

theorem Sound.after {hub : Hub} (sound : hub.Sound) (actions : List Action) :
    (hub.after actions).Sound :=
  holds_after (fun _ action sound _ => sound.step action) sound fun _ _ => trivial

theorem sound_after (actions : List Action) : (start.after actions).Sound :=
  sound_start.after actions

/-! ## What a step keeps -/

theorem nextTransport_le_step {hub : Hub} (sound : hub.Sound) (action : Action) :
    hub.nextTransport ≤ (hub.step action).1.nextTransport := by
  have stepped := stepped sound action
  generalize (hub.step action).1 = after at stepped
  cases stepped with
  | change | start => exact Nat.le_refl _
  | quiet _ _ quiet => exact quiet.undisturbed.nextTransport_le

theorem nextChannel_le_step {hub : Hub} (sound : hub.Sound) (action : Action) :
    hub.nextChannel ≤ (hub.step action).1.nextChannel := by
  have stepped := stepped sound action
  generalize (hub.step action).1 = after at stepped
  cases stepped with
  | change | start => exact Nat.le_refl _
  | quiet _ _ quiet => exact quiet.undisturbed.nextChannel_le

/-- A change ends the subscriptions that it concerns and whose channel is closed. -/
theorem not_mem_of_severed {hub : Hub} (sound : hub.Sound) {action : Action} {number : Nat}
    {event : ChangeEvent} (change : hub.change? action = some (number, event))
    {subscription : Subscription}
    (severed : Transport.Severed hub.changes event.key subscription) :
    subscription ∉ ((hub.step action).1.transports number).subscriptions := by
  rw [commit_of_change sound change, transports_commit, if_pos rfl]
  simp [severed]

/-- A change is recorded by its transport, and there is no other way to change a store. -/
theorem record_step {hub : Hub} (sound : hub.Sound) {number : Nat}
    (known : number < hub.nextTransport) (action : Action) :
    let recorded := ((⟨hub, action⟩ : Moment).change? number).elim (hub.transports number)
      (hub.transports number).record
    ((hub.step action).1.transports number).store = recorded.store ∧
      ((hub.step action).1.transports number).revision = recorded.revision := by
  have stepped := stepped sound action
  generalize (hub.step action).1 = after at stepped
  cases stepped with
  | @change other event change =>
    by_cases here : other = number
    · subst here
      simp [Moment.change?, change, transports_commit]
    · simp [Moment.change?, change, transports_commit, here, Ne.symm here]
  | @start other subscription started =>
    simp only [Moment.change?, change?_of_start started, transports_commit]
    split
    · rename_i here
      subst here
      exact ⟨rfl, rfl⟩
    · exact ⟨rfl, rfl⟩
  | quiet noChange _ quiet =>
    simp only [Moment.change?, noChange]
    exact ⟨quiet.undisturbed.store number known, quiet.undisturbed.revision number known⟩

end Hub

end PluginSupport
