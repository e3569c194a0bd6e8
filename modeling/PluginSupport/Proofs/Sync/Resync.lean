import PluginSupport.Proofs.FirstAppearance
import PluginSupport.Proofs.Sync.Replica
import PluginSupport.Proofs.Text.Utf8

/-!
# The resync event of a watch

A watch reads the store in blocks of keys, one for each prefix, while delivery tests every key
against all prefixes. Both go by the same keys (`resync_exact`): a group holds what a filter over
the whole store would find, and some group holds a key just in case the subscription is told of its
changes.
-/
namespace PluginSupport

/-- A store is in the order of the UTF-8 bytes of its keys. -/
theorem Ascending.bytes {records : List KeyValue} (ascending : Ascending records) :
    records.Pairwise fun a b => Utf8.encode a.key < Utf8.encode b.key :=
  ascending.imp Utf8.encode_lt_encode_iff.mpr

namespace Store

/-- A prefix that is given twice has one group. -/
theorem nodup_distinctStems (stems : List String) : (distinctStems stems).Nodup :=
  (List.mergeSort_perm _ _).nodup_iff.mpr (List.nodup_eraseDups stems)

theorem stems_resync (store : Store) (stems : List String) :
    (store.resync stems).groups.map ResyncGroup.stem = distinctStems stems := by
  simp [resync, Function.comp_def]

end Store

/-- A delivery to a single subscription offers the event if the subscription wants the key. -/
theorem Transport.deliver_single (event : ChangeEvent) (subscription : Subscription)
    (channels : Channels ChangeEvent) :
    (deliver event [subscription] channels).1 =
      if subscription.wants event.key then
        channels.set subscription.sink ((channels subscription.sink).offer event)
      else channels := by
  simp only [deliver]
  split <;> rfl

/-- A channel that queues events gets this one just in case the subscription wants its key. -/
theorem Transport.accepted_deliver_single {event : ChangeEvent} {subscription : Subscription}
    {channels : Channels ChangeEvent}
    (queues : (channels subscription.sink).delivery = .queued) :
    ((deliver event [subscription] channels).1 subscription.sink).accepted =
        (channels subscription.sink).accepted ++ [event] ↔
      subscription.wants event.key = true := by
  rw [deliver_single]
  split
  · rename_i wants
    simp [Channels.set_self, Channel.offer, queues, wants]
  · rename_i refuses
    simp [refuses]

/-- The groups that hold a stored key are there just in case the subscription wants the key. -/
theorem Subscription.wants_iff_exists_group {store : Store} {subscription : Subscription}
    {record : KeyValue} (stored : record ∈ store.records) :
    subscription.wants record.key = true ↔
      ∃ group ∈ (store.resync subscription.stems).groups, record ∈ group.records := by
  rw [subscription.wants_eq, decide_eq_true_iff, ← List.mem_flatMap, mem_records_resync,
    and_iff_right stored]

/-- The resync event that a watch below some prefixes builds, whatever the store and the prefixes.

* It has one group for each prefix, and no other group.
* The group of a prefix holds what a filter over the whole store finds: the stored records whose key
  starts with the prefix, each once, in ascending order of the bytes of their keys.
* Some group holds a stored record just in case the subscription wants the key of the record, that
  is, just in case a later change of this key goes to the subscription's channel, if that has room.
* A watch that succeeds offers this event, and subscribes with these prefixes. -/
theorem resync_exact (transport : Transport) (stems : List String) :
    let records := transport.store.records
    let groups := (transport.store.resync stems).groups
    (records.Pairwise fun a b => Utf8.encode a.key < Utf8.encode b.key) ∧
      (groups.map ResyncGroup.stem).Nodup ∧
      (∀ stem, stem ∈ groups.map ResyncGroup.stem ↔ stem ∈ stems) ∧
      (∀ group ∈ groups,
        group.records = records.filter (fun record => hasStem group.stem record.key) ∧
          (∀ record, record ∈ group.records ↔
            record ∈ records ∧ group.stem.toList <+: record.key.toList) ∧
          group.records.Nodup ∧
          group.records.Pairwise fun a b => Utf8.encode a.key < Utf8.encode b.key) ∧
      (∀ record ∈ records, ∀ subscription : Subscription, subscription.stems = stems →
        ((∃ group ∈ groups, record ∈ group.records) ↔ subscription.wants record.key = true) ∧
          ∀ event channels, event.key = record.key →
            (channels subscription.sink).delivery = .queued →
            ((∃ group ∈ groups, record ∈ group.records) ↔
              ((Transport.deliver event [subscription] channels).1 subscription.sink).accepted =
                (channels subscription.sink).accepted ++ [event])) ∧
      ∀ name sink channels resync watch,
        transport.watch name stems sink channels resync = .ok watch →
          watch.resync = resync.offer ⟨groups⟩ ∧
            watch.transport.subscriptions =
              transport.subscriptions ++ [⟨watch.number, name, stems, sink⟩] := by
  intro records groups
  have inOrder := transport.store.ascending.bytes
  refine ⟨inOrder, ?_, ?_, ?_, ?_, ?_⟩
  · exact Store.stems_resync _ _ ▸ Store.nodup_distinctStems stems
  · intro stem
    rw [Store.stems_resync, Store.mem_distinctStems]
  · intro group isGroup
    obtain ⟨stem, -, rfl⟩ := mem_groups_resync.mp isGroup
    have block := Store.below_eq_filter transport.store stem
    have blockInOrder : (transport.store.below stem).Pairwise fun a b =>
        Utf8.encode a.key < Utf8.encode b.key := block ▸ inOrder.filter _
    refine ⟨block, fun record => Store.mem_below, ?_, blockInOrder⟩
    refine blockInOrder.imp fun before same => ?_
    subst same
    exact List.lt_irrefl _ before
  · rintro record stored subscription rfl
    have wanted := @Subscription.wants_iff_exists_group _ subscription _ stored
    refine ⟨wanted.symm, fun event channels named queues => ?_⟩
    rw [Transport.accepted_deliver_single queues, named]
    exact wanted.symm
  · intro name sink channels resync watch watched
    unfold Transport.watch at watched
    split at watched
    · cases watched
    · split at watched
      · cases watched
      · cases watched
        exact ⟨rfl, rfl⟩

/-- Keys in front of the block below `ab`, within it and behind it. -/
def bordered : List Action :=
  [.openChannel .changes "feed" 1, .openChannel .resyncs "state" 1,
    .publish "main" "b" (some [1]), .publish "main" "abc" (some [2]),
    .publish "main" "abé" (some [3]), .publish "main" "a" (some [4]),
    .publish "main" "ab" (some [5])]

/-- Two prefixes, one of which begins the other and stands twice. -/
theorem resync_exact_bordered :
    let hub := Hub.start.after bordered
    let transport := hub.transports 0
    let stems := ["ab", "abc", "ab"]
    let groups := (transport.store.resync stems).groups
    let inside : KeyValue := ⟨"abé", [3], 3⟩
    let outside : KeyValue := ⟨"b", [1], 1⟩
    let event : ChangeEvent := ⟨"abé", .delete, none, some [3], 6⟩
    (inside ∈ transport.store.records ∧ ∃ group ∈ groups, inside ∈ group.records) ∧
      (outside ∈ transport.store.records ∧ ¬ ∃ group ∈ groups, outside ∈ group.records) ∧
      (groups.map ResyncGroup.stem).Nodup ∧ "abc" ∈ groups.map ResyncGroup.stem ∧
      (hub.changes 0).delivery = .queued ∧
      ((Transport.deliver event [⟨0, "watcher", stems, 0⟩] hub.changes).1 0).accepted = [event] ∧
      ∃ watch, transport.watch "watcher" stems 0 hub.changes (hub.resyncs 1) = .ok watch ∧
        watch.resync = (hub.resyncs 1).offer ⟨groups⟩ := by
  intro hub transport stems groups inside outside event
  obtain ⟨-, nodup, stemsIff, -, agree, watched⟩ := resync_exact transport stems
  have insideStored : inside ∈ transport.store.records := by decide
  have outsideStored : outside ∈ transport.store.records := by decide
  have queues : (hub.changes 0).delivery = .queued := by decide
  obtain ⟨insideIff, insideDelivered⟩ := agree inside insideStored ⟨0, "watcher", stems, 0⟩ rfl
  obtain ⟨outsideIff, -⟩ := agree outside outsideStored ⟨0, "watcher", stems, 0⟩ rfl
  have found := insideIff.mpr (by decide)
  refine ⟨⟨insideStored, found⟩, ⟨outsideStored, fun group => ?_⟩, nodup,
    (stemsIff "abc").mpr (by decide), queues, ?_, ?_⟩
  · exact absurd (outsideIff.mp group) (by decide)
  · exact (insideDelivered event hub.changes rfl queues).mp found
  · exact ⟨_, rfl, (watched "watcher" 0 hub.changes (hub.resyncs 1) _ rfl).1⟩

end PluginSupport
