import PluginSupport.Proofs.Sync.Below
import PluginSupport.Proofs.Sync.History

/-!
# Replicas

A watcher can keep a replica of what it watches: it starts from the values of the resync event, and
applies each change event as it comes. As long as no event of a covered change gets lost, the
replica is what the store holds below the watched prefixes (`SoleWatch.replica_exact`).

Three readings of the prefixes meet here: the resync event reads blocks of keys, delivery tests each
key, and the store knows nothing of prefixes. `Subscription.view` is what they agree on.
-/
namespace PluginSupport

open Utf8 (Bytes)

/-! ## Definitions -/

/-- Values with their revisions, as a watcher knows them. -/
abbrev Replica := String → Option (Bytes × Nat)

namespace Replica

/-- The values of a resync event, all groups taken together. -/
def ofResync (resync : ResyncEvent) : Replica := fun key =>
  ((resync.groups.flatMap ResyncGroup.records).find? fun record => record.key = key).map
    fun record => (record.value, record.revision)

/-- The replica after a change: a put sets the value and the revision, a deletion removes them. -/
def apply (replica : Replica) (event : ChangeEvent) : Replica := fun key =>
  if key = event.key then
    match event.kind with
    | .put => event.value.map fun value => (value, event.revision)
    | .delete => none
  else replica key

/-- The replica after changes, first one first. -/
def replay (replica : Replica) (events : List ChangeEvent) : Replica :=
  events.foldl apply replica

theorem replay_append (replica : Replica) (front back : List ChangeEvent) :
    replica.replay (front ++ back) = (replica.replay front).replay back :=
  List.foldl_append

end Replica

/-- What a store holds under the keys that a subscription covers. -/
def Subscription.view (subscription : Subscription) (store : Store) : Replica := fun key =>
  if subscription.Covers key then
    (store.find? key).map fun record => (record.value, record.revision)
  else none

/-- Whether a change that a live subscription covers finds its channel neither closed nor full. -/
def Moment.Lossless (moment : Moment) (number : Nat) (subscription : Subscription) : Prop :=
  ∀ event ∈ moment.change? number, moment.Live number subscription →
    subscription.Covers event.key →
      (moment.hub.changes subscription.sink).isClosed = false ∧
        (moment.hub.changes subscription.sink).isFull = false

instance (moment : Moment) (number : Nat) (subscription : Subscription) :
    Decidable (moment.Lossless number subscription) :=
  inferInstanceAs (Decidable (∀ event ∈ moment.change? number, _ ∈ _ → _ → _ ∧ _))

/-! ## The resync event -/

theorem mem_groups_resync {store : Store} {stems : List String} {group : ResyncGroup} :
    group ∈ (store.resync stems).groups ↔
      ∃ stem ∈ stems, group = ⟨stem, store.below stem⟩ := by
  simp only [Store.resync, List.mem_map, Store.mem_distinctStems]
  exact exists_congr fun stem => and_congr_right fun _ => eq_comm

/-- The groups of a resync event hold the stored values that its prefixes cover. -/
theorem mem_records_resync {store : Store} {subscription : Subscription} {record : KeyValue} :
    record ∈ (store.resync subscription.stems).groups.flatMap ResyncGroup.records ↔
      record ∈ store.records ∧ subscription.Covers record.key := by
  simp only [List.mem_flatMap, mem_groups_resync]
  constructor
  · rintro ⟨_, ⟨stem, isStem, rfl⟩, member⟩
    obtain ⟨stored, starts⟩ := Store.mem_below.mp member
    exact ⟨stored, stem, isStem, starts⟩
  · rintro ⟨stored, stem, isStem, starts⟩
    exact ⟨_, ⟨stem, isStem, rfl⟩, Store.mem_below.mpr ⟨stored, starts⟩⟩

theorem ofResync_resync (store : Store) (subscription : Subscription) :
    Replica.ofResync (store.resync subscription.stems) = subscription.view store := by
  funext key
  simp only [Replica.ofResync, Subscription.view]
  cases found : ((store.resync subscription.stems).groups.flatMap ResyncGroup.records).find?
      fun record => decide (record.key = key) with
  | some record =>
    have here : record.key = key := by simpa using List.find?_some found
    obtain ⟨stored, covers⟩ := mem_records_resync.mp (List.mem_of_find?_eq_some found)
    rw [if_pos (here ▸ covers), Store.find?_eq_some_iff.mpr ⟨stored, here⟩]
  | none =>
    have absent := List.find?_eq_none.mp found
    split
    · rename_i covers
      cases stored : store.find? key with
      | none => rfl
      | some record =>
        obtain ⟨member, rfl⟩ := Store.find?_eq_some_iff.mp stored
        exact absurd (decide_eq_true rfl) (absent record (mem_records_resync.mpr ⟨member, covers⟩))
    · rfl

/-- The groups agree: each record is what all of them together say of its key. -/
theorem ofResync_record {store : Store} {subscription : Subscription} {group : ResyncGroup}
    (isGroup : group ∈ (store.resync subscription.stems).groups) {record : KeyValue}
    (member : record ∈ group.records) :
    Replica.ofResync (store.resync subscription.stems) record.key =
      some (record.value, record.revision) := by
  obtain ⟨stored, covers⟩ := mem_records_resync.mp (List.mem_flatMap.mpr ⟨group, isGroup, member⟩)
  rw [ofResync_resync, Subscription.view, if_pos covers, Store.find?_eq_some_iff.mpr ⟨stored, rfl⟩]
  rfl

/-- The event that a watch queues on its resync channel is the current state. -/
theorem resync_of_queued {hub : Hub} {action : Action} {number : Nat} {subscription : Subscription}
    (started : hub.started? action = some (number, subscription)) {channel : Nat}
    {resync : ResyncEvent}
    (queued : ((hub.step action).1.resyncs channel).accepted =
      (hub.resyncs channel).accepted ++ [resync]) :
    resync = (hub.transports number).store.resync subscription.stems := by
  obtain ⟨sink, registrations, same⟩ := Hub.step_of_start started
  rw [same] at queued
  simp only [Channels.set] at queued
  split at queued
  · rename_i here
    subst here
    unfold Channel.offer at queued
    split at queued
    · simpa using queued.symm
    · simp at queued
  · simp at queued

/-! ## Changes -/

/-- A replica that applies a change of a covered key follows the store. -/
theorem apply_view_of_covers {subscription : Subscription} {event : ChangeEvent}
    (covers : subscription.Covers event.key)
    (named : event.kind = if event.value.isSome then .put else .delete) (transport : Transport) :
    (subscription.view transport.store).apply event =
      subscription.view (transport.record event).store := by
  funext key
  simp only [Replica.apply, Subscription.view, Transport.find?_record]
  split
  · rename_i here
    rw [here, if_pos covers, named]
    cases event.value <;> rfl
  · rfl

/-- A change of another key leaves the view alone. -/
theorem view_record_of_not_covers {subscription : Subscription} {event : ChangeEvent}
    (elsewhere : ¬ subscription.Covers event.key) (transport : Transport) :
    subscription.view (transport.record event).store = subscription.view transport.store := by
  funext key
  simp only [Subscription.view, Transport.find?_record]
  split
  · rename_i covers
    have different : key ≠ event.key := fun here => elsewhere (here ▸ covers)
    rw [if_neg different]
  · rfl

namespace Hub

variable {hub : Hub} {number : Nat} {subscription : Subscription}

/-- What the subscription hears of keeps the replica in step with the store. -/
theorem Exclusive.view_step (exclusive : hub.Exclusive number subscription) {action : Action}
    (lossless : (⟨hub, action⟩ : Moment).Lossless number subscription)
    (live : subscription ∈ (hub.transports number).subscriptions) :
    (subscription.view (hub.transports number).store).replay
        ((⟨hub, action⟩ : Moment).heard? number subscription).toList =
      subscription.view ((hub.step action).1.transports number).store := by
  rw [(record_step exclusive.sound exclusive.transport_lt action).1]
  cases change : (⟨hub, action⟩ : Moment).change? number with
  | none =>
    rw [Moment.heard?_of_no_change change]
    rfl
  | some event =>
    rw [Moment.heard?_of_change change]
    by_cases covers : subscription.Covers event.key
    · have hears : (⟨hub, action⟩ : Moment).Hears number subscription event.key :=
        ⟨live, covers, lossless event change live covers⟩
      rw [if_pos hears]
      exact apply_view_of_covers covers (event_of_change change).1 _
    · rw [if_neg fun hears => covers hears.2.1]
      exact (view_record_of_not_covers covers _).symm

/-- As long as the subscription lives, its replica is in step. -/
theorem Exclusive.view_after (exclusive : hub.Exclusive number subscription) {actions : List Action}
    (sole : ∀ moment ∈ hub.moments actions, moment.sink? ≠ some subscription.sink)
    (lossless : ∀ moment ∈ hub.moments actions, moment.Lossless number subscription)
    (live : subscription ∈ ((hub.after actions).transports number).subscriptions) :
    (subscription.view (hub.transports number).store).replay
        (hub.heard number subscription actions) =
      subscription.view ((hub.after actions).transports number).store := by
  induction actions generalizing hub with
  | nil => rfl
  | cons action actions ih =>
    obtain ⟨first, rest⟩ := List.forall_mem_cons.mp sole
    obtain ⟨firstKept, restKept⟩ := List.forall_mem_cons.mp lossless
    have inStep := exclusive.view_step firstKept (exclusive.live_of_live_after sole live)
    rw [after, ← ih (exclusive.step first) rest restKept live, ← inStep, heard_cons,
      Replica.replay_append]

/-- Each change tells what the replica held before it. -/
theorem Exclusive.previous_eq (exclusive : hub.Exclusive number subscription)
    {actions : List Action}
    (sole : ∀ moment ∈ hub.moments actions, moment.sink? ≠ some subscription.sink)
    (lossless : ∀ moment ∈ hub.moments actions, moment.Lossless number subscription)
    {front back : List ChangeEvent} {event : ChangeEvent}
    (split : hub.heard number subscription actions = front ++ event :: back) :
    event.previous =
      ((subscription.view (hub.transports number).store).replay front event.key).map Prod.fst := by
  induction actions generalizing hub front with
  | nil => simp [heard, moments] at split
  | cons action actions ih =>
    obtain ⟨first, rest⟩ := List.forall_mem_cons.mp sole
    obtain ⟨firstKept, restKept⟩ := List.forall_mem_cons.mp lossless
    obtain ⟨moment, member, heardThen⟩ : ∃ moment ∈ hub.moments (action :: actions),
        moment.heard? number subscription = some event :=
      mem_heard.mp (split ▸ List.mem_append_right _ List.mem_cons_self)
    have inStep := exclusive.view_step firstKept (exclusive.live_of_heard sole member heardThen)
    rw [heard_cons] at split
    cases heard : (⟨hub, action⟩ : Moment).heard? number subscription with
    | none =>
      rw [heard] at inStep split
      rw [ih (exclusive.step first) rest restKept split, ← inStep]
      rfl
    | some now =>
      rw [heard] at inStep split
      -- Either this is the change in question, or it comes before it.
      cases front with
      | nil =>
        obtain ⟨rfl, -⟩ := List.cons.inj split
        obtain ⟨change, -, covers, -⟩ := Moment.heard?_eq_some_iff.mp heard
        rw [(event_of_change change).2.1]
        simp only [Replica.replay, List.foldl_nil, Subscription.view, if_pos covers,
          Transport.get, Option.map_map]
        rfl
      | cons before front =>
        obtain ⟨rfl, remaining⟩ := List.cons.inj split
        rw [ih (exclusive.step first) rest restKept remaining, ← inStep]
        rfl

end Hub

namespace SoleWatch

/-- The resync event tells the state that the watch leaves, which is also the one that it found. -/
theorem resync_eq (run : SoleWatch) {channel : Nat} {resync : ResyncEvent}
    (queued : (run.opened.resyncs channel).accepted =
      ((Hub.start.after run.earlier).resyncs channel).accepted ++ [resync]) :
    resync = (run.opened.transports run.transport).store.resync run.subscription.stems := by
  rw [opened, Hub.after_concat] at queued ⊢
  obtain ⟨_, _, same⟩ := Hub.step_of_start run.started
  rw [resync_of_queued run.started queued, same]
  simp [Hub.transports_commit, Transport.subscribe]

/-- A watcher whose resync event was queued, and that lost no event of a change that it covers, can
keep a replica. The groups of the resync event agree on every key that they share. At each moment of
the subscription's life, the replica with all events queued so far applied holds exactly what the
store holds below the prefixes. And each event names as its former value what the replica held just
before it. -/
theorem replica_exact (run : SoleWatch) {channel : Nat} {resync : ResyncEvent}
    (queued : (run.opened.resyncs channel).accepted =
      ((Hub.start.after run.earlier).resyncs channel).accepted ++ [resync])
    (lossless : ∀ moment ∈ run.moments, moment.Lossless run.transport run.subscription) :
    (∀ group ∈ resync.groups, ∀ record ∈ group.records,
        Replica.ofResync resync record.key = some (record.value, record.revision)) ∧
      (∀ past future, run.later = past ++ future →
        run.subscription ∈ ((run.opened.after past).transports run.transport).subscriptions →
        (Replica.ofResync resync).replay
            ((run.opened.after past).changes run.subscription.sink).accepted =
          run.subscription.view ((run.opened.after past).transports run.transport).store) ∧
      ∀ front event back, run.events = front ++ event :: back →
        event.previous =
          ((Replica.ofResync resync).replay front event.key).map Prod.fst := by
  obtain rfl := run.resync_eq queued
  refine ⟨fun group isGroup record member => ofResync_record isGroup member, ?_, ?_⟩
  · intro past future split live
    have pastMoments : ∀ moment ∈ run.opened.moments past, moment ∈ run.moments := by
      intro moment member
      rw [moments, split, Hub.moments_append]
      exact List.mem_append_left _ member
    have sole := fun moment member => run.sole_later moment (pastMoments moment member)
    rw [run.exclusive.accepted_after sole, run.accepted_opened, List.nil_append, ofResync_resync]
    exact run.exclusive.view_after sole
      (fun moment member => lossless moment (pastMoments moment member)) live
  · intro front event back split
    rw [ofResync_resync]
    exact run.exclusive.previous_eq run.sole_later lossless (run.events_eq ▸ split)

/-- A watch below two prefixes, one of which begins the other, on a transport that was closed and
opened before. A key below both is deleted and written again. -/
def nested : SoleWatch where
  earlier := [.openChannel .changes "feed" 2, .openChannel .resyncs "state" 1,
    .publish "main" "ab" (some [1]), .publish "main" "b" (some [2]), .close "main", .init "main",
    .publish "main" "a" (some [3])]
  watch := .watch "main" "first" "watcher" "feed" "state" ["ab", "a", "ab"]
  later := [.publish "main" "ab" none, .publish "main" "b" (some [4]),
    .publish "main" "ab" (some [5]), .receive "feed" (some 1), .publish "main" "a" (some [6])]
  transport := 0
  subscription := ⟨0, "watcher", ["ab", "a", "ab"], 0⟩
  started := by decide
  sole := by decide

theorem replica_exact_nested :
    let resync : ResyncEvent := ⟨[⟨"a", [⟨"a", [3], 3⟩, ⟨"ab", [1], 1⟩]⟩, ⟨"ab", [⟨"ab", [1], 1⟩]⟩]⟩
    (∀ moment ∈ nested.moments, moment.Lossless nested.transport nested.subscription) ∧
      (nested.opened.resyncs 1).accepted =
        ((Hub.start.after nested.earlier).resyncs 1).accepted ++ [resync] ∧
      (Replica.ofResync resync).replay nested.events "ab" = some ([5], 6) := by
  intro resync
  have lossless : ∀ moment ∈ nested.moments,
      moment.Lossless nested.transport nested.subscription := by decide
  have stems : Store.distinctStems nested.subscription.stems = ["a", "ab"] := by
    simp [nested, Store.distinctStems, List.eraseDups_cons, List.mergeSort]
  have state : ((Hub.start.after nested.earlier).transports 0).store.resync
      nested.subscription.stems = resync := by
    rw [Store.resync, stems]
    rfl
  have queued : (nested.opened.resyncs 1).accepted =
      ((Hub.start.after nested.earlier).resyncs 1).accepted ++ [resync] := by
    rw [← state]
    rfl
  obtain ⟨-, inStep, -⟩ := replica_exact nested queued lossless
  refine ⟨lossless, queued, ?_⟩
  rw [events, inStep nested.later [] (List.append_nil _).symm (by decide)]
  decide

end SoleWatch

end PluginSupport
