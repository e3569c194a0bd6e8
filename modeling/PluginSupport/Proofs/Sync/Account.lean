import PluginSupport.Proofs.Sync.Step

/-!
# What an action does to each transport

`Quiet` bounds what quiet actions can do. Here is what every action does, to the letter, but for the
channels: `Hub.Carried` has one case for each way in which an action touches transports, handles and
registrations, and `Hub.carried` sorts all actions into these cases.

Results, for hubs that runs lead to (`Hub.tidy_after`):
1. `Hub.transport_step`: each transport after an action, with its store, its revision, the
   subscriptions that ended (`Moment.Ends`) and started, and whether it is closed.
2. `Hub.lookup_registrations_step`: the registrations after an action.
-/
namespace PluginSupport

open Utf8 (Bytes)

/-! ## Tables of names -/

namespace Names

variable {α : Type} {names : Names α}

theorem lookup_erase (names : Names α) (name other : String) :
    (names.erase name).lookup other = if other = name then none else names.lookup other := by
  induction names with
  | nil => simp [erase]
  | cons entry names ih =>
    obtain ⟨first, a⟩ := entry
    unfold erase at ih ⊢
    by_cases gone : first = name
    · subst gone
      rw [List.filter_cons_of_neg (by simp), ih, List.lookup_cons]
      by_cases here : other = first
      · simp [here]
      · simp [here, beq_false_of_ne here]
    · rw [List.filter_cons_of_pos (by simpa using gone), List.lookup_cons, List.lookup_cons, ih]
      by_cases here : other = first
      · simp [here, gone]
      · simp [beq_false_of_ne here]

theorem lookup_insert (names : Names α) (name other : String) (a : α) :
    (names.insert name a).lookup other = if other = name then some a else names.lookup other := by
  rw [insert, List.lookup_cons, lookup_erase]
  by_cases here : other = name
  · simp [here]
  · simp [here, beq_false_of_ne here]

theorem erase_of_lookup_eq_none {name : String} (absent : names.lookup name = none) :
    names.erase name = names := by
  refine List.filter_eq_self.mpr fun entry member => ?_
  have different : (name == entry.1) = false := by
    simpa using List.lookup_eq_none_iff.mp absent entry member
  simpa using Ne.symm (ne_of_beq_false different)

/-- The table with a name standing for a value, or for none. -/
def assign (names : Names α) (name : String) : Option α → Names α
  | some a => names.insert name a
  | none => names.erase name

theorem lookup_assign (names : Names α) (name other : String) (a? : Option α) :
    (names.assign name a?).lookup other = if other = name then a? else names.lookup other := by
  cases a? with
  | some a => exact lookup_insert names name other a
  | none => exact lookup_erase names name other

/-- Whether each name stands once. -/
def Unique (names : Names α) : Prop :=
  ∀ entry ∈ names, names.lookup entry.1 = some entry.2

theorem Unique.assign (unique : names.Unique) (name : String) (a? : Option α) :
    (names.assign name a?).Unique := by
  have kept : ∀ entry ∈ names.erase name,
      (names.assign name a?).lookup entry.1 = some entry.2 := by
    intro entry member
    have different : entry.1 ≠ name := by simpa using (List.mem_filter.mp member).2
    rw [lookup_assign, if_neg different]
    exact unique entry (mem_of_mem_erase member)
  intro entry member
  cases a? with
  | none => exact kept entry member
  | some a =>
    rcases List.mem_cons.mp member with rfl | old
    · rw [lookup_assign, if_pos rfl]
    · exact kept entry old

end Names

/-! ## What an action does -/

namespace Moment

/-- The subscription that the action starts on a transport. -/
def started? (moment : Moment) (number : Nat) : Option Subscription :=
  (moment.hub.started? moment.action).bind fun start =>
    if start.1 = number then some start.2 else none

/-- The registration that the action releases. -/
def released? (moment : Moment) : Option Registration :=
  match moment.action with
  | .release registration => moment.hub.registrations.lookup registration
  | _ => none

/-- The name of a registration that the action takes away: the registration is released or dropped,
or another one comes under its name. -/
def vacated? (moment : Moment) : Option String :=
  match moment.action with
  | .release registration => some registration
  | .dropRegistration registration => some registration
  | .watch _ registration _ _ _ _ =>
    (moment.hub.started? moment.action).map fun _ => registration
  | _ => none

/-- The transport that the action closes. -/
def shut? (moment : Moment) : Option Nat :=
  match moment.action with
  | .close handle => moment.hub.transport? handle
  | _ => none

/-- The transport that the action opens. -/
def reopened? (moment : Moment) : Option Nat :=
  match moment.action with
  | .init handle => moment.hub.transport? handle
  | _ => none

theorem started?_eq_some_iff {moment : Moment} {number : Nat} {subscription : Subscription} :
    moment.started? number = some subscription ↔
      moment.hub.started? moment.action = some (number, subscription) :=
  bind_ite_eq_some_iff

theorem released?_eq_some_iff {moment : Moment} {held : Registration} :
    moment.released? = some held ↔
      ∃ name, moment.action = .release name ∧ moment.hub.registrations.lookup name = some held := by
  obtain ⟨hub, action⟩ := moment
  cases action <;> simp [released?]

theorem shut?_eq_some_iff {moment : Moment} {number : Nat} :
    moment.shut? = some number ↔
      ∃ handle, moment.action = .close handle ∧ moment.hub.transport? handle = some number := by
  obtain ⟨hub, action⟩ := moment
  cases action <;> simp [shut?]

theorem reopened?_eq_some_iff {moment : Moment} {number : Nat} :
    moment.reopened? = some number ↔
      ∃ handle, moment.action = .init handle ∧ moment.hub.transport? handle = some number := by
  obtain ⟨hub, action⟩ := moment
  cases action <;> simp [reopened?]

/-- Whether the action takes the last handle of a transport away. -/
def Abandons (moment : Moment) (number : Nat) : Prop :=
  moment.hub.isAlive number = true ∧ (moment.hub.step moment.action).1.isAlive number = false

instance (moment : Moment) (number : Nat) : Decidable (moment.Abandons number) :=
  inferInstanceAs (Decidable (_ ∧ _))

/-- Whether the action ends a subscription on a transport, if it is live: its registration is
released, the transport is closed or loses its last handle, or a change of a key that it covers
finds its channel closed. -/
def Ends (moment : Moment) (number : Nat) (subscription : Subscription) : Prop :=
  moment.released? = some ⟨number, subscription.number⟩ ∨ moment.shut? = some number ∨
    moment.Abandons number ∨
    ∃ event ∈ moment.change? number,
      Transport.Severed moment.hub.changes event.key subscription

instance (moment : Moment) (number : Nat) (subscription : Subscription) :
    Decidable (moment.Ends number subscription) :=
  inferInstanceAs (Decidable (_ ∨ _ ∨ _ ∨ ∃ event ∈ moment.change? number, _))

/-- What the action makes of a transport. -/
def result (moment : Moment) (number : Nat) : Transport :=
  let transport := moment.hub.transports number
  { (moment.change? number).elim transport transport.record with
    subscriptions :=
      (transport.subscriptions.filter fun subscription => ¬ moment.Ends number subscription) ++
        (moment.started? number).toList
    nextNumber := transport.nextNumber + (moment.started? number).toList.length
    closed :=
      if moment.shut? = some number then true
      else if moment.reopened? = some number then false
      else transport.closed }

/-- Whether the action leaves transports alone, but for their handles. -/
structure Uneventful (moment : Moment) : Prop where
  noChange : moment.hub.change? moment.action = none
  noStart : moment.hub.started? moment.action = none
  noRelease : moment.released? = none
  noShutting : moment.shut? = none
  noReopening : moment.reopened? = none

theorem Uneventful.result {moment : Moment} (uneventful : moment.Uneventful) (number : Nat) :
    moment.result number =
      if moment.Abandons number then { moment.hub.transports number with subscriptions := [] }
      else moment.hub.transports number := by
  obtain ⟨noChange, noStart, noRelease, noShutting, noReopening⟩ := uneventful
  by_cases abandons : moment.Abandons number <;>
    simp [Moment.result, change?, started?, Ends, noChange, noStart, noRelease, noShutting,
      noReopening, abandons]

/-- Nothing is found where there is nothing. -/
theorem of_none_eq_some {α : Type} {p : α → Prop} : ∀ a, (none : Option α) = some a → p a := by
  intro a impossible
  cases impossible

/-- An action that concerns other transports leaves a transport alone. -/
theorem result_of_elsewhere {moment : Moment} {number : Nat}
    (noChange : moment.change? number = none) (noStart : moment.started? number = none)
    (noRelease : ∀ held, moment.released? = some held → held.transport ≠ number)
    (noShutting : moment.shut? ≠ some number) (noReopening : moment.reopened? ≠ some number)
    (stays : ¬ moment.Abandons number) : moment.result number = moment.hub.transports number := by
  have live : ∀ subscription, ¬ moment.Ends number subscription := by
    rintro subscription (released | shut | abandons | ⟨event, change, -⟩)
    · exact noRelease _ released rfl
    · exact noShutting shut
    · exact stays abandons
    · rw [noChange] at change
      cases change
  simp [Moment.result, noChange, noStart, noShutting, noReopening, live]

end Moment

namespace Hub

variable {hub : Hub} {action : Action} {number : Nat}

/-- Hubs that differ in their channels only. -/
structure Alike (hub after : Hub) : Prop where
  transports : after.transports = hub.transports
  nextTransport : after.nextTransport = hub.nextTransport
  handles : after.handles = hub.handles
  registrations : after.registrations = hub.registrations

theorem Alike.refl (hub : Hub) : Alike hub hub := ⟨rfl, rfl, rfl, rfl⟩

theorem Alike.trans {middle after : Hub} (first : Alike hub middle) (second : Alike middle after) :
    Alike hub after where
  transports := second.transports.trans first.transports
  nextTransport := second.nextTransport.trans first.nextTransport
  handles := second.handles.trans first.handles
  registrations := second.registrations.trans first.registrations

theorem alike_changeChannel (hub : Hub) (ends : ChannelEnds)
    (change : {α : Type} → Channel α → Channel α) : Alike hub (hub.changeChannel ends change) := by
  unfold changeChannel
  split <;> exact ⟨rfl, rfl, rfl, rfl⟩

theorem alike_dropSender (hub : Hub) (ends : ChannelEnds) : Alike hub (hub.dropSender ends) := by
  unfold dropSender
  split
  · exact alike_changeChannel hub ends _
  · exact .refl hub

theorem alike_openChannel (hub : Hub) (kind : ChannelKind) (channel : String)
    (capacity : Capacity) : Alike hub (hub.openChannel kind channel capacity) := by
  have cleared : Alike hub ((hub.ends.lookup channel).elim hub hub.dropEnds) := by
    cases hub.ends.lookup channel with
    | none => exact .refl hub
    | some ends => exact (alike_dropSender hub ends).trans (alike_changeChannel _ ends _)
  refine cleared.trans ?_
  unfold openChannel
  cases kind <;> exact ⟨rfl, rfl, rfl, rfl⟩

theorem alike_receive (hub : Hub) (ends : ChannelEnds) (limit : Option Nat) :
    Alike hub (hub.receive ends limit).1 := by
  simp only [receive]
  split <;> split <;> exact ⟨rfl, rfl, rfl, rfl⟩

/-- What actions lead to. Where an action tells of a change, starts a subscription or concerns
channels only, the channels may be any. -/
inductive Carried (hub : Hub) : Action → Hub → Prop
  | change {action : Action} {number : Nat} {event : ChangeEvent}
      (change : hub.change? action = some (number, event)) (channels : Channels ChangeEvent) :
      Carried hub action (hub.commit number
        ({ (hub.transports number).record event with
            subscriptions := (hub.transports number).subscriptions.filter fun subscription =>
              ¬ Transport.Severed hub.changes event.key subscription },
          channels))
  | start {handle registration name changes resyncs : String} {stems : List String} {number : Nat}
      {subscription : Subscription}
      (started : hub.started? (.watch handle registration name changes resyncs stems) =
        some (number, subscription))
      (channels : Channels ChangeEvent) (resyncChannels : Channels ResyncEvent) :
      Carried hub (.watch handle registration name changes resyncs stems)
        { hub.commit number
            ((hub.transports number).subscribe subscription.name subscription.stems
              subscription.sink,
            channels) with
          resyncs := resyncChannels
          registrations := hub.registrations.insert registration
            ⟨number, subscription.number⟩ }
  | release {name : String} {held : Registration}
      (found : hub.registrations.lookup name = some held) :
      Carried hub (.release name)
        { hub.release held with registrations := hub.registrations.erase name }
  | shut {handle : String} {number : Nat} (found : hub.transport? handle = some number) :
      Carried hub (.close handle) (hub.commit number ((hub.transports number).shut hub.changes))
  | reopen {handle : String} {number : Nat} (found : hub.transport? handle = some number) :
      Carried hub (.init handle)
        (hub.commit number ((hub.transports number).reopen, hub.changes))
  /-- A handle comes to stand for another transport, maybe a new one, or for none. -/
  | rename {action : Action} {nextTransport : Nat} (handle : String) {number? : Option Nat}
      (further : hub.nextTransport ≤ nextTransport)
      (known : ∀ number, number? = some number → number < nextTransport)
      (uneventful : (⟨hub, action⟩ : Moment).Uneventful)
      (notVacated : (⟨hub, action⟩ : Moment).vacated? = none) :
      Carried hub action ({ hub with nextTransport }.setHandle handle number?)
  /-- A registration is dropped, or there is none of the name to release. -/
  | forget {action : Action} {name : String} (uneventful : (⟨hub, action⟩ : Moment).Uneventful)
      (vacated : (⟨hub, action⟩ : Moment).vacated? = some name) :
      Carried hub action { hub with registrations := hub.registrations.erase name }
  | aside {action : Action} {after : Hub} (alike : Alike hub after)
      (uneventful : (⟨hub, action⟩ : Moment).Uneventful)
      (notVacated : (⟨hub, action⟩ : Moment).vacated? = none) : Carried hub action after

/-- What holds of tables and transports throughout every run. -/
structure Tidy (hub : Hub) : Prop where
  sound : hub.Sound
  unique : hub.handles.Unique
  /-- Transports that are yet to come are new. -/
  fresh : ∀ number, hub.nextTransport ≤ number → hub.transports number = .new
  /-- Registrations are of numbers that were taken. -/
  issued : ∀ name held, hub.registrations.lookup name = some held →
    held.subscription < (hub.transports held.transport).nextNumber

theorem tidy_start : start.Tidy where
  sound := sound_start
  unique := by simp [start, Names.Unique]
  fresh _ _ := rfl
  issued := by simp [start]

theorem carried (tidy : hub.Tidy) (action : Action) : Carried hub action (hub.step action).1 := by
  have created : hub.setTransport hub.nextTransport .new = hub := by
    rw [← tidy.fresh _ (Nat.le_refl _)]
    exact commit_self hub _
  cases action with
  | create handle =>
    simp only [step, created]
    refine .rename handle (Nat.le_succ _) ?_ ⟨rfl, rfl, rfl, rfl, rfl⟩ rfl
    rintro number ⟨⟩
    exact Nat.lt_succ_self _
  | share handle source =>
    simp only [step]
    split
    · rename_i number found
      refine @Carried.rename hub (.share handle source) hub.nextTransport handle (some number)
        (Nat.le_refl _) ?_ ⟨rfl, rfl, rfl, rfl, rfl⟩ rfl
      rintro number ⟨⟩
      exact tidy.sound.transport_lt found
    · exact .aside (.refl hub) ⟨rfl, rfl, rfl, rfl, rfl⟩ rfl
  | dropHandle handle =>
    exact @Carried.rename hub (.dropHandle handle) hub.nextTransport handle none (Nat.le_refl _)
      Moment.of_none_eq_some ⟨rfl, rfl, rfl, rfl, rfl⟩ rfl
  | describe handle =>
    simp only [step, withTransport]
    split <;> exact .aside (.refl hub) ⟨rfl, rfl, rfl, rfl, rfl⟩ rfl
  | init handle =>
    simp only [step, runHook, withTransport]
    split
    · rename_i number found
      exact .reopen found
    · rename_i unknown
      exact .aside (.refl hub) ⟨rfl, rfl, rfl, rfl, unknown⟩ rfl
  | close handle =>
    simp only [step, runHook, withTransport]
    split
    · rename_i number found
      exact .shut found
    · rename_i unknown
      exact .aside (.refl hub) ⟨rfl, rfl, rfl, unknown, rfl⟩ rfl
  | publish handle key value =>
    cases change : hub.change? (.publish handle key value) with
    | some found =>
      rw [commit_of_change tidy.sound change]
      exact .change change _
    | none =>
      rw [step_publish_of_no_change change]
      exact .aside (.refl hub) ⟨change, rfl, rfl, rfl, rfl⟩ rfl
  | get handle key =>
    simp only [step, withTransport]
    split <;> exact .aside (.refl hub) ⟨rfl, rfl, rfl, rfl, rfl⟩ rfl
  | openChannel kind channel room =>
    simp only [step]
    split
    · rename_i capacity _
      exact .aside (alike_openChannel hub kind channel capacity) ⟨rfl, rfl, rfl, rfl, rfl⟩ rfl
    · exact .aside (.refl hub) ⟨rfl, rfl, rfl, rfl, rfl⟩ rfl
  | watch handle registration name changes resyncs stems =>
    cases started : hub.started? (.watch handle registration name changes resyncs stems) with
    | some found =>
      obtain ⟨resync, same⟩ := step_of_watch started
      rw [same]
      exact .start started _ _
    | none =>
      rw [step_watch_of_no_start started]
      exact .aside (.refl hub) ⟨rfl, started, rfl, rfl, rfl⟩ (by simp [Moment.vacated?, started])
  | release name =>
    simp only [step]
    split
    · rename_i held found
      exact .release found
    · rename_i unknown
      have forgotten := @Carried.forget hub (.release name) name ⟨rfl, rfl, unknown, rfl, rfl⟩ rfl
      rwa [Names.erase_of_lookup_eq_none unknown] at forgotten
  | dropRegistration name => exact .forget ⟨rfl, rfl, rfl, rfl, rfl⟩ rfl
  | receive channel limit =>
    simp only [step]
    split
    · exact .aside (alike_receive hub _ limit) ⟨rfl, rfl, rfl, rfl, rfl⟩ rfl
    · exact .aside (.refl hub) ⟨rfl, rfl, rfl, rfl, rfl⟩ rfl
  | dropSender channel =>
    simp only [step]
    split
    · rename_i ends named
      exact .aside { alike_dropSender hub ends with } ⟨rfl, rfl, rfl, rfl, rfl⟩ rfl
    · exact .aside (.refl hub) ⟨rfl, rfl, rfl, rfl, rfl⟩ rfl
  | dropReceiver channel =>
    simp only [step]
    split
    · exact .aside (alike_changeChannel hub _ _) ⟨rfl, rfl, rfl, rfl, rfl⟩ rfl
    · exact .aside (.refl hub) ⟨rfl, rfl, rfl, rfl, rfl⟩ rfl
  | closeReceiver channel =>
    simp only [step]
    split
    · exact .aside (alike_changeChannel hub _ _) ⟨rfl, rfl, rfl, rfl, rfl⟩ rfl
    · exact .aside (.refl hub) ⟨rfl, rfl, rfl, rfl, rfl⟩ rfl

/-! ## Handles -/

theorem isAlive_iff (unique : hub.handles.Unique) :
    hub.isAlive number = true ↔ ∃ handle, hub.transport? handle = some number := by
  simp only [isAlive, List.any_eq_true, decide_eq_true_eq]
  constructor
  · rintro ⟨entry, member, rfl⟩
    exact ⟨entry.1, unique entry member⟩
  · rintro ⟨handle, found⟩
    exact ⟨_, Names.mem_of_lookup found, rfl⟩

/-- Handles change, and then the transport that one of them stood for ends its subscriptions if it
has lost its last. -/
theorem setHandle_cases (hub : Hub) (handle : String) (number? : Option Nat) :
    let renamed := { hub with handles := hub.handles.assign handle number? }
    (hub.setHandle handle number? = renamed ∧
        ∀ old, hub.transport? handle = some old → renamed.isAlive old = true) ∨
      ∃ old, hub.transport? handle = some old ∧ renamed.isAlive old = false ∧
        hub.setHandle handle number? =
          renamed.commit old ((hub.transports old).endAll hub.changes) := by
  intro renamed
  have same : hub.setHandle handle number? =
      (hub.transport? handle).elim renamed fun old => if renamed.isAlive old then renamed
        else renamed.commit old ((hub.transports old).endAll hub.changes) := by
    unfold setHandle
    cases number? <;> cases hub.transport? handle <;> rfl
  rw [same]
  cases stood : hub.transport? handle with
  | none => exact .inl ⟨rfl, Moment.of_none_eq_some⟩
  | some old =>
    cases alive : renamed.isAlive old with
    | true =>
      refine .inl ⟨by simp [alive], ?_⟩
      rintro other ⟨⟩
      exact alive
    | false => exact .inr ⟨old, rfl, alive, by simp [alive]⟩

theorem handles_setHandle (hub : Hub) (handle : String) (number? : Option Nat) :
    (hub.setHandle handle number?).handles = hub.handles.assign handle number? := by
  rcases setHandle_cases hub handle number? with ⟨same, -⟩ | ⟨old, -, -, same⟩
  · rw [same]
  · rw [same]
    rfl

/-- A transport that loses its last handle loses its subscriptions with it. -/
theorem transports_setHandle (unique : hub.handles.Unique) (handle : String) (number? : Option Nat)
    (number : Nat) :
    (hub.setHandle handle number?).transports number =
      if hub.isAlive number = true ∧ (hub.setHandle handle number?).isAlive number = false then
        { hub.transports number with subscriptions := [] }
      else hub.transports number := by
  have alive : (hub.setHandle handle number?).isAlive number =
      ({ hub with handles := hub.handles.assign handle number? } : Hub).isAlive number := by
    rw [isAlive, handles_setHandle, isAlive]
  -- Only the transport that the handle stood for can lose a handle.
  have stood : hub.isAlive number = true →
      ({ hub with handles := hub.handles.assign handle number? } : Hub).isAlive number = false →
      hub.transport? handle = some number := by
    intro before gone
    by_contra elsewhere
    obtain ⟨other, found⟩ := (isAlive_iff unique).mp before
    have different : other ≠ handle := fun same => elsewhere (same ▸ found)
    have still : (hub.handles.assign handle number?).lookup other = some number := by
      rw [Names.lookup_assign, if_neg different]
      exact found
    have stillAlive := (@isAlive_iff { hub with handles := hub.handles.assign handle number? }
      number (unique.assign handle number?)).mpr ⟨other, still⟩
    rw [gone] at stillAlive
    cases stillAlive
  rw [alive]
  rcases setHandle_cases hub handle number? with ⟨same, kept⟩ | ⟨old, found, gone, same⟩
  · rw [same, if_neg]
    rintro ⟨before, gone⟩
    rw [kept number (stood before gone)] at gone
    cases gone
  · rw [same, transports_commit]
    by_cases here : number = old
    · subst here
      have before : hub.isAlive number = true := (isAlive_iff unique).mpr ⟨handle, found⟩
      rw [if_pos rfl, if_pos ⟨before, gone⟩]
      simp [Transport.endAll, Transport.endWhere]
    · rw [if_neg here, if_neg]
      rintro ⟨before, lost⟩
      exact here (Option.some.inj ((stood before lost).symm.trans found))

/-! ## Transports -/

theorem result_of_change {handle key : String} {value : Option Bytes} {event : ChangeEvent}
    {other : Nat} (change : hub.change? (.publish handle key value) = some (other, event))
    (stays : ¬ (⟨hub, .publish handle key value⟩ : Moment).Abandons number) :
    (⟨hub, .publish handle key value⟩ : Moment).result number =
      if number = other then
        { (hub.transports other).record event with
          subscriptions := (hub.transports other).subscriptions.filter fun subscription =>
            ¬ Transport.Severed hub.changes event.key subscription }
      else hub.transports number := by
  split
  · rename_i here
    subst here
    simp [Moment.result, Moment.change?, change, Moment.started?, started?, Moment.Ends,
      Moment.released?, Moment.shut?, Moment.reopened?, stays, Transport.record]
  · rename_i elsewhere
    have noChange : (⟨hub, .publish handle key value⟩ : Moment).change? number = none := by
      simp [Moment.change?, change, Ne.symm elsewhere]
    exact Moment.result_of_elsewhere noChange rfl Moment.of_none_eq_some
      (Option.some_ne_none number).symm (Option.some_ne_none number).symm stays

theorem result_of_start {handle registration name changes resyncs : String} {stems : List String}
    {other : Nat} {subscription : Subscription}
    (started : hub.started? (.watch handle registration name changes resyncs stems) =
      some (other, subscription))
    (stays : ¬ (⟨hub, .watch handle registration name changes resyncs stems⟩ : Moment).Abandons
      number) :
    (⟨hub, .watch handle registration name changes resyncs stems⟩ : Moment).result number =
      if number = other then
        (hub.transports other).subscribe subscription.name subscription.stems subscription.sink
      else hub.transports number := by
  split
  · rename_i here
    subst here
    obtain ⟨_, _, _, _, -, -, -, -, numbered⟩ := watch_of_start started
    have fresh : (⟨(hub.transports number).nextNumber, subscription.name, subscription.stems,
        subscription.sink⟩ : Subscription) = subscription := by rw [← numbered]
    simp [Moment.result, Moment.change?, change?, Moment.started?, started, Moment.Ends,
      Moment.released?, Moment.shut?, Moment.reopened?, stays, Transport.subscribe, fresh]
  · rename_i elsewhere
    have noStart : (⟨hub, .watch handle registration name changes resyncs stems⟩ : Moment).started?
        number = none := by
      simp [Moment.started?, started, Ne.symm elsewhere]
    exact Moment.result_of_elsewhere rfl noStart Moment.of_none_eq_some
      (Option.some_ne_none number).symm (Option.some_ne_none number).symm stays

theorem result_of_release {name : String} {held : Registration}
    (found : hub.registrations.lookup name = some held)
    (stays : ¬ (⟨hub, .release name⟩ : Moment).Abandons number) :
    (⟨hub, .release name⟩ : Moment).result number =
      if number = held.transport then
        { hub.transports held.transport with
          subscriptions := (hub.transports held.transport).subscriptions.filter fun subscription =>
            !decide (subscription.number = held.subscription) }
      else hub.transports number := by
  obtain ⟨other, ended⟩ := held
  split
  · rename_i here
    subst here
    simp [Moment.result, Moment.change?, change?, Moment.started?, started?, Moment.Ends,
      Moment.released?, found, Moment.shut?, Moment.reopened?, stays, @eq_comm _ ended]
  · rename_i elsewhere
    have noRelease : ∀ held, (⟨hub, .release name⟩ : Moment).released? = some held →
        held.transport ≠ number := by
      intro held released
      obtain rfl := Option.some.inj (found.symm.trans released)
      exact Ne.symm elsewhere
    exact Moment.result_of_elsewhere rfl rfl noRelease (Option.some_ne_none number).symm
      (Option.some_ne_none number).symm stays

theorem result_of_shut {handle : String} {other : Nat}
    (found : hub.transport? handle = some other)
    (stays : ¬ (⟨hub, .close handle⟩ : Moment).Abandons number) :
    (⟨hub, .close handle⟩ : Moment).result number =
      if number = other then { hub.transports other with subscriptions := [], closed := true }
      else hub.transports number := by
  split
  · rename_i here
    subst here
    simp [Moment.result, Moment.change?, change?, Moment.started?, started?, Moment.Ends,
      Moment.shut?, found]
  · rename_i elsewhere
    have noShutting : (⟨hub, .close handle⟩ : Moment).shut? ≠ some number :=
      fun shut => elsewhere (Option.some.inj (shut.symm.trans found))
    exact @Moment.result_of_elsewhere ⟨hub, .close handle⟩ _ rfl rfl Moment.of_none_eq_some
      noShutting (Option.some_ne_none number).symm stays

theorem result_of_reopen {handle : String} {other : Nat}
    (found : hub.transport? handle = some other)
    (stays : ¬ (⟨hub, .init handle⟩ : Moment).Abandons number) :
    (⟨hub, .init handle⟩ : Moment).result number =
      if number = other then (hub.transports other).reopen else hub.transports number := by
  split
  · rename_i here
    subst here
    simp [Moment.result, Moment.change?, change?, Moment.started?, started?, Moment.Ends,
      Moment.released?, Moment.shut?, Moment.reopened?, found, stays, Transport.reopen]
  · rename_i elsewhere
    have noReopening : (⟨hub, .init handle⟩ : Moment).reopened? ≠ some number :=
      fun reopened => elsewhere (Option.some.inj (reopened.symm.trans found))
    exact @Moment.result_of_elsewhere ⟨hub, .init handle⟩ _ rfl rfl Moment.of_none_eq_some
      (Option.some_ne_none number).symm noReopening stays

/-- Each transport after an action. -/
theorem transport_step (tidy : hub.Tidy) (action : Action) (number : Nat) :
    (hub.step action).1.transports number = (⟨hub, action⟩ : Moment).result number := by
  have carried := carried tidy action
  generalize reached : (hub.step action).1 = after at carried ⊢
  -- Only an action on handles can take the last one of a transport away.
  have kept : after.handles = hub.handles → ¬ (⟨hub, action⟩ : Moment).Abandons number := by
    rintro same ⟨before, gone⟩
    rw [reached, isAlive, same] at gone
    rw [isAlive, gone] at before
    cases before
  cases carried with
  | change change channels =>
    obtain ⟨handle, key, value, _, rfl, -⟩ :=
      change?_isSome_iff.mp (Option.isSome_of_eq_some change)
    exact (result_of_change change (kept rfl)).symm
  | start started => exact (result_of_start started (kept rfl)).symm
  | release found => exact (result_of_release found (kept rfl)).symm
  | shut found =>
    rw [result_of_shut found (kept rfl), transports_commit]
    simp [Transport.shut, Transport.endAll, Transport.endWhere]
  | reopen found => exact (result_of_reopen found (kept rfl)).symm
  | @rename _ nextTransport handle number? _ _ uneventful =>
    have unique : ({ hub with nextTransport } : Hub).handles.Unique := tidy.unique
    simp only [uneventful.result, Moment.Abandons, reached]
    exact transports_setHandle unique handle number? number
  | forget uneventful => rw [uneventful.result, if_neg (kept rfl)]
  | aside alike uneventful => rw [uneventful.result, if_neg (kept alike.handles), alike.transports]

theorem nextNumber_le_step (tidy : hub.Tidy) (action : Action) (number : Nat) :
    (hub.transports number).nextNumber ≤ ((hub.step action).1.transports number).nextNumber := by
  rw [transport_step tidy]
  exact Nat.le_add_right _ _

/-! ## Registrations -/

/-- A name is taken away from a registration, or comes to stand for the one of a new watch. -/
theorem lookup_registrations_step (tidy : hub.Tidy) (action : Action) (name : String) :
    (hub.step action).1.registrations.lookup name =
      if (⟨hub, action⟩ : Moment).vacated? = some name then
        (hub.started? action).map fun start => ⟨start.1, start.2.number⟩
      else hub.registrations.lookup name := by
  have carried := carried tidy action
  generalize (hub.step action).1 = after at carried
  cases carried with
  | change change =>
    obtain ⟨handle, key, value, _, rfl, -⟩ :=
      change?_isSome_iff.mp (Option.isSome_of_eq_some change)
    rfl
  | @start handle registration name changes resyncs stems number subscription started =>
    simp [Names.lookup_insert, Moment.vacated?, started, eq_comm]
  | release found => simp [Names.lookup_erase, Moment.vacated?, started?, eq_comm]
  | shut | reopen => rfl
  | rename handle _ _ _ notVacated =>
    rw [notVacated, if_neg (Option.some_ne_none _).symm]
    rcases setHandle_cases _ handle _ with ⟨same, -⟩ | ⟨old, -, -, same⟩
    · rw [same]
    · rw [same]
      rfl
  | forget uneventful vacated =>
    simp [Names.lookup_erase, vacated, uneventful.noStart, eq_comm]
  | aside alike _ notVacated =>
    rw [notVacated, if_neg (Option.some_ne_none _).symm, alike.registrations]

/-! ## Tidy runs -/

theorem known_of_change (sound : hub.Sound) {event : ChangeEvent}
    (change : hub.change? action = some (number, event)) : number < hub.nextTransport := by
  cases action with
  | publish handle key value =>
    simp only [change?, Option.bind_eq_some_iff, Option.map_eq_some_iff, Prod.mk.injEq] at change
    obtain ⟨_, found, _, _, rfl, _⟩ := change
    exact sound.transport_lt found
  | _ => cases change

theorem Tidy.step (tidy : hub.Tidy) (action : Action) : (hub.step action).1.Tidy where
  sound := tidy.sound.step action
  unique := by
    have carried := carried tidy action
    generalize (hub.step action).1 = after at carried
    cases carried with
    | rename handle =>
      rw [handles_setHandle]
      exact tidy.unique.assign handle _
    | aside alike => exact alike.handles ▸ tidy.unique
    | _ => exact tidy.unique
  fresh number beyond := by
    have unknown := Nat.le_trans (nextTransport_le_step tidy.sound action) beyond
    have notKnown : ¬ number < hub.nextTransport := Nat.not_lt.mpr unknown
    have isNew := tidy.fresh number unknown
    rw [transport_step tidy, Moment.result_of_elsewhere]
    · exact isNew
    · refine Option.eq_none_iff_forall_ne_some.mpr fun event change => notKnown ?_
      exact known_of_change tidy.sound (Moment.change?_eq_some_iff.mp change)
    · refine Option.eq_none_iff_forall_ne_some.mpr fun subscription started => notKnown ?_
      exact (known_of_start tidy.sound (Moment.started?_eq_some_iff.mp started)).1
    · rintro held released rfl
      obtain ⟨name, -, found⟩ := Moment.released?_eq_some_iff.mp released
      have taken := tidy.issued name held found
      rw [isNew] at taken
      cases taken
    · intro shut
      obtain ⟨handle, -, found⟩ := Moment.shut?_eq_some_iff.mp shut
      exact notKnown (tidy.sound.transport_lt found)
    · intro reopened
      obtain ⟨handle, -, found⟩ := Moment.reopened?_eq_some_iff.mp reopened
      exact notKnown (tidy.sound.transport_lt found)
    · rintro ⟨alive, -⟩
      obtain ⟨handle, found⟩ := (isAlive_iff tidy.unique).mp alive
      exact notKnown (tidy.sound.transport_lt found)
  issued name held found := by
    rw [lookup_registrations_step tidy] at found
    split at found
    · obtain ⟨⟨number, subscription⟩, started, rfl⟩ := Option.map_eq_some_iff.mp found
      obtain ⟨_, _, _, _, -, -, -, -, numbered⟩ := watch_of_start started
      rw [transport_step tidy]
      simp [Moment.result, Moment.started?, started, numbered]
    · exact Nat.lt_of_lt_of_le (tidy.issued name held found) (nextNumber_le_step tidy action _)

theorem Tidy.after (tidy : hub.Tidy) (actions : List Action) : (hub.after actions).Tidy :=
  holds_after (fun _ action tidy _ => tidy.step action) tidy fun _ _ => trivial

theorem tidy_after (actions : List Action) : (start.after actions).Tidy :=
  tidy_start.after actions

end Hub

end PluginSupport
