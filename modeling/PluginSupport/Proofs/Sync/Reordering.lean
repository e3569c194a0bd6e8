import PluginSupport.Proofs.Sync.Step

/-!
# Delivery in any order

Several subscriptions may hold sending ends of one channel, so a delivery uses up room that a later
one would need, and which subscription comes first decides whose copy is queued. All copies are
alike, though: what a publication does to the channels, the store and the subscriptions does not
depend on the order in which the subscriptions are told (`publish_reordered`).
-/
namespace PluginSupport

open Utf8 (Bytes)

namespace Transport

/-- The copies that a channel takes in are counted, not ordered. -/
theorem told_perm {order subscriptions : List Subscription} (permuted : order.Perm subscriptions)
    (event : ChangeEvent) (channels : Channels ChangeEvent) :
    told event order channels = told event subscriptions channels := by
  funext sink
  simp only [told, concerned, permuted.countP_eq]

end Transport

/-- An effective publication in a state that a run leads to, with the subscriptions told in any
order. For every order the same channels and the same store come out:

* an open channel takes in as many copies of the event as there are subscriptions on it that the key
  concerns and as it has room for, and a closed one takes in none, full or not;
* the subscriptions that end are those that the key concerns and whose channel is closed, and their
  sending ends are given up;
* only the value of the key changes. -/
theorem publish_reordered (actions : List Action) (number : Nat) (key : String)
    (value : Option Bytes)
    (isOpen : ((Hub.start.after actions).transports number).closed = false)
    (effective : value ≠ none ∨ ((Hub.start.after actions).transports number).get key ≠ none) :
    let hub := Hub.start.after actions
    let transport := hub.transports number
    let event : ChangeEvent := {
      key
      kind := if value.isSome then .put else .delete
      value
      previous := transport.get key
      revision := transport.revision + 1 }
    ∃ told : Channels ChangeEvent, ∃ store : Store,
      (∀ order : List Subscription, order.Perm transport.subscriptions →
        { transport with subscriptions := order }.publish key value hub.changes =
          .ok ({ transport with
              store
              revision := transport.revision + 1
              subscriptions := order.filter fun subscription =>
                ¬ (subscription.Covers key ∧ (hub.changes subscription.sink).isClosed = true) },
            told)) ∧
      (∀ sink, told sink =
        { hub.changes sink with
          accepted := (hub.changes sink).accepted ++ List.replicate
            (if (hub.changes sink).isClosed then 0
              else min (transport.subscriptions.countP fun subscription =>
                subscription.Covers key ∧ subscription.sink = sink) (hub.changes sink).free) event
          senders := (hub.changes sink).senders - transport.subscriptions.countP fun subscription =>
            (subscription.Covers key ∧ (hub.changes subscription.sink).isClosed = true) ∧
              subscription.sink = sink }) ∧
      ∀ other, store.find? other =
        if other = key then value.map fun bytes => ⟨key, bytes, transport.revision + 1⟩
        else transport.store.find? other := by
  intro hub transport event
  have sound := Hub.sound_after actions
  refine ⟨Transport.told event transport.subscriptions hub.changes,
    (transport.record event).store, ?_, fun sink => rfl, Transport.find?_record transport event⟩
  intro order permuted
  have change : { transport with subscriptions := order }.change? key value = some event :=
    Transport.change?_of_effective isOpen effective
  have distinct : (order.map Subscription.number).Nodup :=
    (permuted.map _).nodup_iff.mpr (sound.distinct number)
  rw [Transport.publish_of_change change, Transport.notify_eq sound.bounded distinct]
  exact congrArg Except.ok (congrArg _ (Transport.told_perm permuted event hub.changes))

/-- Three subscriptions share a channel with room for two events, and a fourth has a full channel
whose receiver was closed. -/
def sharedRun : List Action :=
  [.openChannel .changes "shared" 2, .openChannel .changes "narrow" 1,
    .openChannel .resyncs "state" 4,
    .watch "main" "a" "first" "shared" "state" [""],
    .watch "main" "b" "second" "shared" "state" ["k", ""],
    .watch "main" "c" "third" "shared" "state" ["key"],
    .watch "main" "d" "fourth" "narrow" "state" ["k"],
    .publish "main" "k" (some [1]),
    .receive "shared" none,
    .closeReceiver "narrow"]

theorem publish_reordered_shared :
    let hub := Hub.start.after sharedRun
    let transport := hub.transports 0
    let event : ChangeEvent := ⟨"key", .put, some [2], none, 2⟩
    transport.closed = false ∧ (some [2] ≠ none ∨ transport.get "key" ≠ none) ∧
      ∃ after told,
        { transport with subscriptions := transport.subscriptions.reverse }.publish "key" (some [2])
          hub.changes = .ok (after, told) ∧
        after.subscriptions.map Subscription.number = [2, 1, 0] ∧
        (told 0).queue = [event, event] ∧ (told 1).accepted = (hub.changes 1).accepted := by
  intro hub transport event
  obtain ⟨told, store, publishes, channels, -⟩ :=
    publish_reordered sharedRun 0 "key" (some [2]) (by decide) (.inl nofun)
  refine ⟨by decide, .inl nofun, _, told, publishes _ (List.reverse_perm _), ?_, ?_, ?_⟩
  · dsimp only
    decide
  · rw [channels]
    decide
  · rw [channels]
    decide

end PluginSupport
