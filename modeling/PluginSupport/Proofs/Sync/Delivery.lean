import Mathlib.Data.List.Nodup
import PluginSupport.Sync.Transport

/-!
# Delivery of a change

What becomes of the channels and of the subscriptions when a transport tells of a change.

* A channel is offered the event once for each subscription on it that wants the key
  (`deliver_fst`). It takes in as many copies as it has room for, and none when it is closed
  (`Channel.offered`).
* The subscriptions that end are those that want the key and whose channel is closed
  (`deliver_snd`, `notify_eq`).
* Publishing is a change of the store followed by its delivery (`publish_of_change`).

An offer uses up room that later offers see, so each statement is an induction over the
subscriptions for all channels at once.
-/
namespace PluginSupport

open Utf8 (Bytes)

/-! ## Repeated offers -/

namespace Channel

variable {α : Type}

/-- How many more events the queue has room for. -/
def free (channel : Channel α) : Nat :=
  channel.capacity.room - channel.queue.length

/-- How many copies of an event are taken in when it is offered a number of times. -/
def intake (channel : Channel α) (count : Nat) : Nat :=
  if channel.isClosed then 0 else min count channel.free

/-- The channel after an event was offered a number of times. -/
def offered (channel : Channel α) (event : α) (count : Nat) : Channel α :=
  { channel with accepted := channel.accepted ++ List.replicate (channel.intake count) event }

/-- Whether no more events were taken out than were taken in. -/
def Bounded (channel : Channel α) : Prop :=
  channel.taken ≤ channel.accepted.length

theorem delivery_eq_closed_iff (channel : Channel α) :
    channel.delivery = .closed ↔ channel.isClosed = true := by
  unfold delivery
  split
  · simp_all
  · split <;> simp_all

theorem delivery_eq_queued_iff (channel : Channel α) :
    channel.delivery = .queued ↔ channel.isClosed = false ∧ channel.isFull = false := by
  unfold delivery
  split
  · simp_all
  · split <;> simp_all

theorem isClosed_offer (channel : Channel α) (event : α) :
    (channel.offer event).isClosed = channel.isClosed := by
  unfold offer
  split <;> rfl

theorem bounded_offer {channel : Channel α} (bounded : channel.Bounded) (event : α) :
    (channel.offer event).Bounded := by
  unfold offer
  split
  · simp only [Bounded, List.length_append] at bounded ⊢
    omega
  · exact bounded

theorem isFull_iff_free (channel : Channel α) : channel.isFull = true ↔ channel.free = 0 := by
  simp [isFull, free, Nat.sub_eq_zero_iff_le]

theorem length_queue (channel : Channel α) :
    channel.queue.length = channel.accepted.length - channel.taken := by
  simp [queue]

/-- A channel that queues an event is open and has room. -/
theorem room_of_queued {channel : Channel α} (queued : channel.delivery = .queued) :
    channel.isClosed = false ∧ 0 < channel.free := by
  obtain ⟨isOpen, notFull⟩ := channel.delivery_eq_queued_iff.mp queued
  refine ⟨isOpen, Nat.pos_of_ne_zero fun none => ?_⟩
  rw [channel.isFull_iff_free.mpr none] at notFull
  cases notFull

/-- A channel that does not queue an event has no room for any number of copies. -/
theorem intake_of_not_queued {channel : Channel α} (refused : channel.delivery ≠ .queued)
    (count : Nat) : channel.intake count = 0 := by
  cases closed : channel.isClosed with
  | true => simp [intake, closed]
  | false =>
    have full : channel.isFull = true := by
      cases notFull : channel.isFull with
      | true => rfl
      | false => exact absurd (channel.delivery_eq_queued_iff.mpr ⟨closed, notFull⟩) refused
    simp [intake, channel.isFull_iff_free.mp full]

theorem offered_zero (channel : Channel α) (event : α) : channel.offered event 0 = channel := by
  simp [offered, intake]

/-- One offer comes first: what it takes up is not there for the others. -/
theorem offered_offer {channel : Channel α} (bounded : channel.Bounded) (event : α) (count : Nat) :
    (channel.offer event).offered event count = channel.offered event (count + 1) := by
  by_cases queued : channel.delivery = .queued
  · obtain ⟨isOpen, room⟩ := room_of_queued queued
    have stillOpen : (channel.offer event).isClosed = false := by rw [isClosed_offer, isOpen]
    have used : (channel.offer event).free = channel.free - 1 := by
      simp only [free, length_queue, offer, if_pos queued, List.length_append,
        List.length_singleton]
      simp only [Bounded] at bounded
      omega
    have copies : channel.intake (count + 1) = (channel.offer event).intake count + 1 := by
      simp only [intake, isOpen, stillOpen, used, Bool.false_eq_true, if_false]
      omega
    simp only [offered, copies]
    simp [offer, queued, List.replicate_succ]
  · simp [offer, queued, offered, intake_of_not_queued queued]

/-- A single offer is taken in or not. -/
theorem accepted_offered_one (channel : Channel α) (event : α) :
    (channel.offered event 1).accepted =
      channel.accepted ++ if channel.delivery = .queued then [event] else [] := by
  by_cases queued : channel.delivery = .queued
  · obtain ⟨isOpen, room⟩ := room_of_queued queued
    have one : channel.intake 1 = 1 := by
      simp only [intake, isOpen, Bool.false_eq_true, if_false]
      omega
    simp [offered, queued, one]
  · simp [offered, queued, intake_of_not_queued queued]

theorem bounded_offered {channel : Channel α} (bounded : channel.Bounded) (event : α)
    (count : Nat) : (channel.offered event count).Bounded := by
  simp only [Bounded, offered, List.length_append] at bounded ⊢
  omega

end Channel

/-! ## Subscriptions -/

/-- Whether a key starts with one of the prefixes of a subscription. -/
def Subscription.Covers (subscription : Subscription) (key : String) : Prop :=
  ∃ stem ∈ subscription.stems, stem.toList <+: key.toList

instance (subscription : Subscription) (key : String) : Decidable (subscription.Covers key) :=
  inferInstanceAs (Decidable (∃ stem ∈ subscription.stems, stem.toList <+: key.toList))

theorem Subscription.wants_eq (subscription : Subscription) (key : String) :
    subscription.wants key = decide (subscription.Covers key) := by
  rw [Bool.eq_iff_iff, decide_eq_true_iff]
  simp [wants, hasStem, Covers]

theorem Subscription.covers_of_empty_mem {subscription : Subscription}
    (everything : "" ∈ subscription.stems) (key : String) : subscription.Covers key :=
  ⟨"", everything, List.nil_prefix⟩

namespace Transport

/-- Subscriptions on a channel that a key concerns. -/
def concerned (subscriptions : List Subscription) (key : String) (sink : Nat) : Nat :=
  subscriptions.countP fun subscription => subscription.Covers key ∧ subscription.sink = sink

/-- Whether a subscription ends when it is told of a change of a key. -/
def Severed (channels : Channels ChangeEvent) (key : String) (subscription : Subscription) : Prop :=
  subscription.Covers key ∧ (channels subscription.sink).isClosed = true

instance (channels : Channels ChangeEvent) (key : String) (subscription : Subscription) :
    Decidable (Severed channels key subscription) :=
  inferInstanceAs (Decidable (_ ∧ _))

/-- An offer to one channel changes no other. -/
theorem set_offer_apply (channels : Channels ChangeEvent) (sink other : Nat) (event : ChangeEvent) :
    channels.set sink ((channels sink).offer event) other =
      if other = sink then (channels other).offer event else channels other := by
  by_cases same : other = sink
  · subst same
    simp [Channels.set]
  · simp [Channels.set, same]

theorem deliver_fst {channels : Channels ChangeEvent} (bounded : ∀ sink, (channels sink).Bounded)
    (event : ChangeEvent) (subscriptions : List Subscription) (sink : Nat) :
    (deliver event subscriptions channels).1 sink =
      (channels sink).offered event (concerned subscriptions event.key sink) := by
  induction subscriptions generalizing channels with
  | nil => simp [deliver, concerned, Channel.offered_zero]
  | cons subscription others ih =>
    simp only [deliver, subscription.wants_eq, decide_eq_true_eq]
    by_cases covers : subscription.Covers event.key
    · -- The first subscription leaves the others a channel with one copy more.
      rw [if_pos covers]
      have stillBounded : ∀ other,
          (channels.set subscription.sink
            ((channels subscription.sink).offer event) other).Bounded := by
        intro other
        rw [set_offer_apply]
        split
        · exact Channel.bounded_offer (bounded other) event
        · exact bounded other
      simp only [ih stillBounded, set_offer_apply]
      by_cases here : sink = subscription.sink
      · have counted : concerned (subscription :: others) event.key sink =
            concerned others event.key sink + 1 := by
          simp [concerned, covers, here]
        rw [if_pos here, counted, Channel.offered_offer (bounded sink)]
      · have skipped : concerned (subscription :: others) event.key sink =
            concerned others event.key sink := by
          simp [concerned, Ne.symm here]
        rw [if_neg here, skipped]
    · have skipped : concerned (subscription :: others) event.key sink =
          concerned others event.key sink := by
        simp [concerned, covers]
      rw [if_neg covers, ih bounded, skipped]

/-- An offer closes no channel. -/
theorem severed_set_offer (channels : Channels ChangeEvent) (sink : Nat) (event : ChangeEvent)
    (key : String) (subscription : Subscription) :
    Severed (channels.set sink ((channels sink).offer event)) key subscription ↔
      Severed channels key subscription := by
  simp only [Severed, set_offer_apply]
  split
  · rw [Channel.isClosed_offer]
  · rfl

theorem deliver_snd (channels : Channels ChangeEvent) (event : ChangeEvent)
    (subscriptions : List Subscription) :
    (deliver event subscriptions channels).2 =
      (subscriptions.filter (Severed channels event.key)).map Subscription.number := by
  induction subscriptions generalizing channels with
  | nil => rfl
  | cons subscription others ih =>
    simp only [deliver, subscription.wants_eq, decide_eq_true_eq]
    by_cases covers : subscription.Covers event.key
    · rw [if_pos covers]
      simp only [ih, severed_set_offer, Channel.delivery_eq_closed_iff]
      by_cases closed : (channels subscription.sink).isClosed = true
      · have gone : Severed channels event.key subscription := ⟨covers, closed⟩
        simp [closed, gone]
      · have stays : ¬ Severed channels event.key subscription := fun gone => closed gone.2
        simp [closed, stays]
    · have stays : ¬ Severed channels event.key subscription := fun gone => covers gone.1
      rw [if_neg covers, ih]
      simp [stays]

/-- Numbers tell subscriptions apart, so ending those of some numbers ends just the picked ones. -/
theorem number_mem_picked_iff {subscriptions : List Subscription}
    (distinct : (subscriptions.map Subscription.number).Nodup) (picked : Subscription → Bool)
    {subscription : Subscription} (member : subscription ∈ subscriptions) :
    subscription.number ∈ (subscriptions.filter picked).map Subscription.number ↔
      picked subscription = true := by
  constructor
  · intro inNumbers
    obtain ⟨other, inPicked, sameNumber⟩ := List.mem_map.mp inNumbers
    obtain ⟨otherMember, otherPicked⟩ := List.mem_filter.mp inPicked
    have same : other = subscription :=
      List.inj_on_of_nodup_map distinct otherMember member sameNumber
    exact same ▸ otherPicked
  · intro isPicked
    exact List.mem_map_of_mem (List.mem_filter.mpr ⟨member, isPicked⟩)

/-- The channels after subscriptions were told of a change: the copies are taken in, and the
sending ends of the subscriptions that ended are given up. -/
def told (event : ChangeEvent) (subscriptions : List Subscription)
    (channels : Channels ChangeEvent) : Channels ChangeEvent := fun sink =>
  { (channels sink).offered event (concerned subscriptions event.key sink) with
    senders := (channels sink).senders - subscriptions.countP fun subscription =>
      Severed channels event.key subscription ∧ subscription.sink = sink }

theorem notify_eq {transport : Transport} {channels : Channels ChangeEvent}
    (bounded : ∀ sink, (channels sink).Bounded)
    (distinct : (transport.subscriptions.map Subscription.number).Nodup) (event : ChangeEvent) :
    transport.notify event channels =
      ({ transport with
          subscriptions := transport.subscriptions.filter fun subscription =>
            ¬ Severed channels event.key subscription },
        told event transport.subscriptions channels) := by
  -- `endWhere` goes by numbers, which are as good as the subscriptions themselves.
  have gone : ∀ subscription ∈ transport.subscriptions,
      decide (subscription.number ∈ (deliver event transport.subscriptions channels).2) =
        decide (Severed channels event.key subscription) := by
    intro subscription member
    rw [deliver_snd, Bool.eq_iff_iff, decide_eq_true_iff]
    exact number_mem_picked_iff distinct _ member
  simp only [notify, endWhere]
  congr 1
  · congr 1
    refine List.filter_congr fun subscription member => ?_
    rw [gone subscription member, decide_not]
  · funext sink
    rw [Channels.dropSenders_apply, List.filter_congr gone, deliver_fst bounded]
    simp only [told, Channel.offered, List.count, List.countP_map, List.countP_filter]
    congr 2
    refine List.countP_congr fun subscription _ => ?_
    simp [and_comm]

/-! ## Publishing -/

/-- The change that publishing a value, or deleting a key, makes: none when the transport is closed
or there is nothing to delete. -/
def change? (transport : Transport) (key : String) (value : Option Bytes) : Option ChangeEvent :=
  if transport.closed ∨ (value = none ∧ transport.get key = none) then none
  else some {
    key
    kind := if value.isSome then .put else .delete
    value
    previous := transport.get key
    revision := transport.revision + 1 }

/-- A put is effective, and so is the deletion of a stored value. -/
theorem change?_of_effective {transport : Transport} {key : String} {value : Option Bytes}
    (isOpen : transport.closed = false) (effective : value ≠ none ∨ transport.get key ≠ none) :
    transport.change? key value = some {
      key
      kind := if value.isSome then .put else .delete
      value
      previous := transport.get key
      revision := transport.revision + 1 } := by
  refine if_neg ?_
  rw [isOpen]
  rintro (closed | ⟨noValue, missing⟩)
  · cases closed
  · rcases effective with some | stored
    · exact some noValue
    · exact stored missing

/-- Deleting a key that is not stored makes no change. -/
theorem change?_of_void {transport : Transport} {key : String} {value : Option Bytes}
    (noValue : value = none) (missing : transport.get key = none) :
    transport.change? key value = none :=
  if_pos (.inr ⟨noValue, missing⟩)

/-- The transport with a change carried out, of which nobody was told yet. -/
def record (transport : Transport) (event : ChangeEvent) : Transport :=
  { transport with
    store := match event.value with
      | some value => transport.store.insert ⟨event.key, value, event.revision⟩
      | none => transport.store.erase event.key
    revision := event.revision }

/-- A change concerns the value of its key only. -/
theorem find?_record (transport : Transport) (event : ChangeEvent) (key : String) :
    (transport.record event).store.find? key =
      if key = event.key then event.value.map fun value => ⟨event.key, value, event.revision⟩
      else transport.store.find? key := by
  simp only [record, eq_comm (a := key)]
  cases event.value with
  | some value => exact Store.find?_insert _ _ _
  | none => exact Store.find?_erase _ _ _

theorem publish_of_change {transport : Transport} {key : String} {value : Option Bytes}
    {event : ChangeEvent} (change : transport.change? key value = some event)
    (channels : Channels ChangeEvent) :
    transport.publish key value channels =
      .ok ((transport.record event).notify event channels) := by
  unfold change? at change
  split at change
  · cases change
  · rename_i effective
    obtain ⟨isOpen, something⟩ := not_or.mp effective
    cases change
    cases value with
    | some bytes => simp [publish, isOpen, put, record]
    | none =>
      cases found : transport.get key with
      | none => simp [found] at something
      | some previous => simp [publish, isOpen, delete, record, found]

theorem publish_of_no_change {transport : Transport} {key : String} {value : Option Bytes}
    (change : transport.change? key value = none) (channels : Channels ChangeEvent) :
    transport.publish key value channels =
      if transport.closed then .error .transportClosed else .ok (transport, channels) := by
  unfold change? at change
  split at change
  · rename_i void
    cases closed : transport.closed with
    | true => simp [publish, closed]
    | false =>
      obtain ⟨rfl, missing⟩ := void.resolve_left (by simp [closed])
      simp [publish, closed, delete, missing]
  · cases change

end Transport

end PluginSupport
