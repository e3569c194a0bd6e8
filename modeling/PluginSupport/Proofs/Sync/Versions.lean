import Mathlib.Data.List.Induction
import PluginSupport.Proofs.Sync.Account
import PluginSupport.Proofs.Sync.Below

/-!
# What a store holds, and since when

A transport's store is what its accepted publications made of it: each key has the value of the last
one. The revision counts the publications that had an effect (`Moment.Effective`), and a stored
record carries the revision that its publication was given.

`Hub.find?_step` and `Hub.revision_step_eq` say what one action does to store and revision. Runs are
taken apart at their last action.

Main result: `store_history`.
-/
namespace PluginSupport

open Utf8 (Bytes)

/-! ## Publications -/

namespace Moment

/-- The key and the value that the action publishes on a transport, if it is accepted; no value
stands for a deletion. -/
def accepted? (moment : Moment) (number : Nat) : Option (String × Option Bytes) :=
  match moment.action with
  | .publish handle key value =>
    if moment.hub.transport? handle = some number ∧
        (moment.hub.step moment.action).2 = .done true then some (key, value)
    else none
  | _ => none

/-- Whether the action is an accepted publication on a transport that has an effect: it puts a
value, or deletes a stored one. -/
def Effective (moment : Moment) (number : Nat) : Prop :=
  ∃ publication ∈ moment.accepted? number,
    publication.2 ≠ none ∨ (moment.hub.transports number).get publication.1 ≠ none

instance (moment : Moment) (number : Nat) : Decidable (moment.Effective number) :=
  inferInstanceAs (Decidable (∃ publication ∈ moment.accepted? number, _ ∨ _))

theorem accepted?_eq_some_iff {moment : Moment} {number : Nat} {key : String}
    {value : Option Bytes} :
    moment.accepted? number = some (key, value) ↔
      ∃ handle, moment.action = .publish handle key value ∧
        moment.hub.transport? handle = some number ∧
        (moment.hub.transports number).closed = false := by
  obtain ⟨hub, action⟩ := moment
  -- An open transport accepts every publication.
  have answered : ∀ handle key value, hub.transport? handle = some number →
      ((hub.step (.publish handle key value)).2 = .done true ↔
        (hub.transports number).closed = false) := by
    intro handle key value found
    cases closed : (hub.transports number).closed with
    | true => simp [Hub.step, Hub.withTransport, found, Transport.publish, closed]
    | false => cases value <;> simp [Hub.step, Hub.withTransport, found, Transport.publish, closed]
  cases action with
  | publish handle otherKey otherValue =>
    simp only [accepted?, Option.ite_none_right_eq_some, Option.some.injEq, Prod.mk.injEq,
      Action.publish.injEq]
    constructor
    · rintro ⟨⟨found, answer⟩, rfl, rfl⟩
      exact ⟨handle, ⟨rfl, rfl, rfl⟩, found, (answered _ _ _ found).mp answer⟩
    · rintro ⟨_, ⟨rfl, rfl, rfl⟩, found, isOpen⟩
      exact ⟨⟨found, (answered _ _ _ found).mpr isOpen⟩, rfl, rfl⟩
  | _ => simp [accepted?]

/-- An accepted publication makes the change that its transport makes of it. -/
theorem change?_of_accepted {moment : Moment} {number : Nat} {key : String} {value : Option Bytes}
    (accepted : moment.accepted? number = some (key, value)) :
    moment.change? number = (moment.hub.transports number).change? key value := by
  obtain ⟨handle, published, found, -⟩ := accepted?_eq_some_iff.mp accepted
  simp only [change?, published, Hub.change?, found, Option.bind_some]
  cases (moment.hub.transports number).change? key value <;> simp

theorem effective_iff_of_accepted {moment : Moment} {number : Nat} {key : String}
    {value : Option Bytes} (accepted : moment.accepted? number = some (key, value)) :
    moment.Effective number ↔ value ≠ none ∨ (moment.hub.transports number).get key ≠ none := by
  simp [Effective, accepted]

/-- There is no change without a publication. -/
theorem change?_of_not_accepted {moment : Moment} {number : Nat}
    (notAccepted : moment.accepted? number = none) : moment.change? number = none := by
  refine Option.eq_none_iff_forall_ne_some.mpr fun event change => ?_
  rw [change?_eq_some_iff] at change
  obtain ⟨handle, key, value, other, published, found, answer, -⟩ :=
    Hub.change?_isSome_iff.mp (Option.isSome_of_eq_some change)
  simp only [published, Hub.change?, found, Option.bind_some, Option.map_eq_some_iff,
    Prod.mk.injEq] at change
  obtain ⟨_, _, rfl, _⟩ := change
  simp [accepted?, published, found, published ▸ answer] at notAccepted

end Moment

namespace Hub

variable {hub : Hub} {action : Action} {actions : List Action} {number : Nat}

/-! ## One action -/

/-- A key has the value that was last published, with the revision of that publication. -/
theorem find?_step (tidy : hub.Tidy) (action : Action) (number : Nat) (key : String) :
    ((hub.step action).1.transports number).store.find? key =
      match (⟨hub, action⟩ : Moment).accepted? number with
      | some (published, value) =>
        if key = published then
          value.map fun bytes => ⟨published, bytes, (hub.transports number).revision + 1⟩
        else (hub.transports number).store.find? key
      | none => (hub.transports number).store.find? key := by
  rw [transport_step tidy]
  simp only [Moment.result]
  cases accepted : (⟨hub, action⟩ : Moment).accepted? number with
  | none =>
    rw [Moment.change?_of_not_accepted accepted]
    rfl
  | some publication =>
    obtain ⟨published, value⟩ := publication
    obtain ⟨_, -, -, isOpen⟩ := Moment.accepted?_eq_some_iff.mp accepted
    rw [Moment.change?_of_accepted accepted]
    by_cases effective : value ≠ none ∨ (hub.transports number).get published ≠ none
    · rw [Transport.change?_of_effective isOpen effective]
      exact Transport.find?_record _ _ key
    · -- There was nothing to delete.
      obtain ⟨noValue, missing⟩ := not_or.mp effective
      obtain rfl := not_not.mp noValue
      have nothing : (hub.transports number).store.find? published = none :=
        Option.map_eq_none_iff.mp (not_not.mp missing)
      rw [Transport.change?_of_void rfl (not_not.mp missing)]
      by_cases here : key = published
      · simp [here, nothing]
      · simp [here]

theorem get_step (tidy : hub.Tidy) (action : Action) (number : Nat) (key : String) :
    ((hub.step action).1.transports number).get key =
      match (⟨hub, action⟩ : Moment).accepted? number with
      | some (published, value) =>
        if key = published then value else (hub.transports number).get key
      | none => (hub.transports number).get key := by
  rw [Transport.get, find?_step tidy]
  cases (⟨hub, action⟩ : Moment).accepted? number with
  | none => rfl
  | some publication =>
    obtain ⟨published, value⟩ := publication
    simp only
    split
    · cases value <;> rfl
    · rfl

theorem revision_step_eq (tidy : hub.Tidy) (action : Action) (number : Nat) :
    ((hub.step action).1.transports number).revision =
      (hub.transports number).revision +
        if (⟨hub, action⟩ : Moment).Effective number then 1 else 0 := by
  rw [transport_step tidy]
  simp only [Moment.result]
  cases accepted : (⟨hub, action⟩ : Moment).accepted? number with
  | none =>
    rw [Moment.change?_of_not_accepted accepted, if_neg (by simp [Moment.Effective, accepted])]
    rfl
  | some publication =>
    obtain ⟨published, value⟩ := publication
    obtain ⟨_, -, -, isOpen⟩ := Moment.accepted?_eq_some_iff.mp accepted
    have effective := Moment.effective_iff_of_accepted accepted
    rw [Moment.change?_of_accepted accepted]
    split
    · rename_i hasEffect
      rw [Transport.change?_of_effective isOpen (effective.mp hasEffect)]
      rfl
    · rename_i noEffect
      obtain ⟨noValue, missing⟩ := not_or.mp (mt effective.mpr noEffect)
      rw [Transport.change?_of_void (not_not.mp noValue) (not_not.mp missing)]
      rfl

/-- A closed transport starts no subscriptions. -/
theorem open_of_start {subscription : Subscription}
    (started : hub.started? action = some (number, subscription)) :
    (hub.transports number).closed = false := by
  obtain ⟨handle, registration, changes, resyncs, rfl, success, found, held, -⟩ :=
    watch_of_start started
  by_contra closed
  rw [Bool.not_eq_false] at closed
  simp only [step, held] at success
  cases resyncHeld : hub.sender? .resyncs resyncs with
  | none => simp [resyncHeld] at success
  | some resync =>
    simp [resyncHeld, watch, withTransport, found, Transport.watch, closed] at success

/-- Closing a transport ends its subscriptions, and none starts before it is opened again. -/
theorem subscriptions_of_closed (actions : List Action) (number : Nat)
    (closed : ((start.after actions).transports number).closed = true) :
    ((start.after actions).transports number).subscriptions = [] := by
  induction actions using List.reverseRecOn with
  | nil => rfl
  | append_singleton actions action ih =>
    rw [after_concat, transport_step (tidy_after actions)] at closed ⊢
    simp only [Moment.result] at closed ⊢
    split at closed
    · rename_i shut
      obtain ⟨handle, rfl, -⟩ := Moment.shut?_eq_some_iff.mp shut
      simp [Moment.Ends, shut, Moment.started?, started?]
    · split at closed
      · cases closed
      · have noStart : (⟨start.after actions, action⟩ : Moment).started? number = none := by
          refine Option.eq_none_iff_forall_ne_some.mpr fun subscription started => ?_
          rw [open_of_start (Moment.started?_eq_some_iff.mp started)] at closed
          cases closed
        rw [ih closed, noStart]
        rfl

/-! ## Runs -/

/-- What a row of actions publishes on a transport, oldest first. -/
def published (hub : Hub) (number : Nat) (actions : List Action) : List (String × Option Bytes) :=
  (hub.moments actions).filterMap fun moment => moment.accepted? number

theorem published_concat (hub : Hub) (number : Nat) (actions : List Action) (action : Action) :
    hub.published number (actions ++ [action]) =
      hub.published number actions ++
        ((⟨hub.after actions, action⟩ : Moment).accepted? number).toList := by
  rw [published, moments_concat, List.filterMap_append, List.filterMap_cons, List.filterMap_nil]
  cases (⟨hub.after actions, action⟩ : Moment).accepted? number <;> rfl

/-- A key has the value that was published last, if any. -/
theorem get_after (actions : List Action) (number : Nat) (key : String) :
    ((start.after actions).transports number).get key =
      (((start.published number actions).filter fun publication =>
        publication.1 = key).getLast?).bind Prod.snd := by
  induction actions using List.reverseRecOn with
  | nil => rfl
  | append_singleton actions action ih =>
    rw [after_concat, get_step (tidy_after actions), published_concat, List.filter_append]
    cases accepted : (⟨start.after actions, action⟩ : Moment).accepted? number with
    | none => simpa using ih
    | some publication =>
      obtain ⟨published, value⟩ := publication
      by_cases here : published = key
      · simp [here]
      · simpa [here, Ne.symm here] using ih

/-- The revision counts the publications that had an effect. -/
theorem revision_after (actions : List Action) (number : Nat) :
    ((start.after actions).transports number).revision =
      (start.moments actions).countP fun moment => moment.Effective number := by
  induction actions using List.reverseRecOn with
  | nil => rfl
  | append_singleton actions action ih =>
    rw [after_concat, revision_step_eq (tidy_after actions), moments_concat, List.countP_append, ih]
    simp [List.countP_cons]

theorem revision_le_after (tidy : hub.Tidy) (number : Nat) (actions : List Action) :
    (hub.transports number).revision ≤ ((hub.after actions).transports number).revision := by
  induction actions generalizing hub with
  | nil => exact Nat.le_refl _
  | cons action actions ih =>
    refine Nat.le_trans ?_ (ih (tidy.step action))
    rw [revision_step_eq tidy]
    exact Nat.le_add_right _ _

/-- Whether a record was written by a publication of its key that took the record's revision, and no
later publication was of that key. -/
def Written (number : Nat) (actions : List Action) (record : KeyValue) : Prop :=
  ∃ front action back, actions = front ++ action :: back ∧
    (⟨start.after front, action⟩ : Moment).accepted? number =
      some (record.key, some record.value) ∧
    ((start.after (front ++ [action])).transports number).revision = record.revision ∧
    ∀ moment ∈ (start.after (front ++ [action])).moments back, ∀ value,
      moment.accepted? number ≠ some (record.key, value)

/-- Actions that publish nothing under the key leave a record as it was written. -/
theorem Written.concat {record : KeyValue} (written : Written number actions record)
    (kept : ∀ value,
      (⟨start.after actions, action⟩ : Moment).accepted? number ≠ some (record.key, value)) :
    Written number (actions ++ [action]) record := by
  obtain ⟨front, writing, back, rfl, accepted, numbered, noLater⟩ := written
  have reached : (start.after (front ++ [writing])).after back =
      start.after (front ++ writing :: back) := by
    rw [← after_append, List.append_assoc, List.singleton_append]
  refine ⟨front, writing, back ++ [action], by simp, accepted, numbered, ?_⟩
  rw [moments_concat, reached]
  intro moment member
  rcases List.mem_append.mp member with old | new
  · exact noLater moment old
  · rw [List.mem_singleton.mp new]
    exact kept

/-- What is stored after one more action was published by it, or was stored before and is of another
key. -/
theorem stored_concat {record : KeyValue}
    (stored : record ∈ ((start.after (actions ++ [action])).transports number).store.records) :
    ((⟨start.after actions, action⟩ : Moment).accepted? number =
          some (record.key, some record.value) ∧
        record.revision = ((start.after actions).transports number).revision + 1) ∨
      record ∈ ((start.after actions).transports number).store.records ∧
        ∀ value,
          (⟨start.after actions, action⟩ : Moment).accepted? number ≠ some (record.key, value) := by
  have found := Store.find?_eq_some_iff.mpr ⟨stored, rfl⟩
  rw [after_concat, find?_step (tidy_after actions)] at found
  cases accepted : (⟨start.after actions, action⟩ : Moment).accepted? number with
  | none =>
    rw [accepted] at found
    exact .inr ⟨(Store.find?_eq_some_iff.mp found).1, nofun⟩
  | some publication =>
    obtain ⟨published, value⟩ := publication
    rw [accepted] at found
    simp only at found
    split at found
    · obtain ⟨bytes, rfl, rfl⟩ := Option.map_eq_some_iff.mp found
      exact .inl ⟨rfl, rfl⟩
    · rename_i elsewhere
      exact .inr ⟨(Store.find?_eq_some_iff.mp found).1, by simp [Ne.symm elsewhere]⟩

theorem written_of_stored (actions : List Action) (number : Nat) {record : KeyValue}
    (stored : record ∈ ((start.after actions).transports number).store.records) :
    Written number actions record := by
  induction actions using List.reverseRecOn with
  | nil => cases stored
  | append_singleton actions action ih =>
    rcases stored_concat stored with ⟨accepted, numbered⟩ | ⟨old, kept⟩
    · refine ⟨actions, action, [], rfl, accepted, ?_, nofun⟩
      rw [after_concat, revision_step_eq (tidy_after actions), numbered,
        if_pos ((Moment.effective_iff_of_accepted accepted).mpr (.inl nofun))]
    · exact (ih old).concat kept

/-- The revision of a record is one that its transport has had. -/
theorem Written.revision_le {record : KeyValue} (written : Written number actions record) :
    1 ≤ record.revision ∧
      record.revision ≤ ((start.after actions).transports number).revision := by
  obtain ⟨front, writing, back, rfl, accepted, numbered, -⟩ := written
  have effective := (Moment.effective_iff_of_accepted accepted).mpr (.inl nofun)
  have counted := revision_step_eq (tidy_after front) writing number
  rw [if_pos effective, ← after_concat, numbered] at counted
  have reached := revision_le_after (tidy_after (front ++ [writing])) number back
  rw [numbered, ← after_append, List.append_assoc, List.singleton_append] at reached
  exact ⟨counted ▸ Nat.le_add_left 1 _, reached⟩

/-- A record that is written has a later revision than all that are stored, so no two stored records
have the same. -/
theorem eq_of_revision_eq (actions : List Action) (number : Nat) {record other : KeyValue}
    (stored : record ∈ ((start.after actions).transports number).store.records)
    (otherStored : other ∈ ((start.after actions).transports number).store.records)
    (same : record.revision = other.revision) : record = other := by
  induction actions using List.reverseRecOn with
  | nil => cases stored
  | append_singleton actions action ih =>
    have older : ∀ old ∈ ((start.after actions).transports number).store.records,
        old.revision ≤ ((start.after actions).transports number).revision :=
      fun old isOld => (written_of_stored actions number isOld).revision_le.2
    rcases stored_concat stored with ⟨accepted, numbered⟩ | ⟨old, -⟩ <;>
      rcases stored_concat otherStored with ⟨again, otherNumbered⟩ | ⟨otherOld, -⟩
    · -- One action writes one record.
      obtain ⟨sameKey, sameValue⟩ : record.key = other.key ∧ record.value = other.value := by
        simpa [accepted] using again
      cases record
      cases other
      simp_all
    · have := older other otherOld
      omega
    · have := older record old
      omega
    · exact ih old otherOld

end Hub

/-- A transport at the end of any run. Its publications are those that were accepted
(`Hub.published`).

* A key has the value that was published last, and none if nothing was or a deletion came last.
* The revision is the number of publications that had an effect, and never goes back.
* A stored record is found under its own key. It was written by the last publication of the key,
  and carries the revision that the transport had right after (`Hub.Written`), which is one of those
  that the transport has had. No two records have the same revision.
* A closed transport has no subscriptions. An open one accepts every publication, a closed one none.
* An action that is no accepted publication on the transport, such as a watch, a release, the
  opening or the closing of the transport, or anything that a receiver does, changes neither the
  store nor the revision. -/
theorem store_history (actions : List Action) (number : Nat) :
    let hub := Hub.start.after actions
    let transport := hub.transports number
    (∀ key, transport.get key =
        (((Hub.start.published number actions).filter fun publication =>
          publication.1 = key).getLast?).bind Prod.snd) ∧
      transport.revision =
        (Hub.start.moments actions).countP (fun moment => moment.Effective number) ∧
      (∀ more, transport.revision ≤ ((hub.after more).transports number).revision) ∧
      (∀ record ∈ transport.store.records, transport.store.find? record.key = some record ∧
        Hub.Written number actions record ∧
        1 ≤ record.revision ∧ record.revision ≤ transport.revision) ∧
      (∀ record ∈ transport.store.records, ∀ other ∈ transport.store.records,
        record.revision = other.revision → record = other) ∧
      (transport.closed = true → transport.subscriptions = []) ∧
      (∀ handle key value, hub.transport? handle = some number →
        ((⟨hub, .publish handle key value⟩ : Moment).accepted? number = some (key, value) ↔
          transport.closed = false)) ∧
      (∀ action, (⟨hub, action⟩ : Moment).accepted? number = none →
        ((hub.step action).1.transports number).store = transport.store ∧
          ((hub.step action).1.transports number).revision = transport.revision) := by
  intro hub transport
  have tidy := Hub.tidy_after actions
  refine ⟨Hub.get_after actions number, Hub.revision_after actions number,
    Hub.revision_le_after tidy number, ?_, ?_, Hub.subscriptions_of_closed actions number, ?_,
    ?_⟩
  · intro record stored
    have written := Hub.written_of_stored actions number stored
    exact ⟨Store.find?_eq_some_iff.mpr ⟨stored, rfl⟩, written, written.revision_le⟩
  · intro record stored other otherStored same
    exact Hub.eq_of_revision_eq actions number stored otherStored same
  · intro handle key value found
    rw [Moment.accepted?_eq_some_iff]
    exact ⟨fun ⟨_, _, _, isOpen⟩ => isOpen, fun isOpen => ⟨handle, rfl, found, isOpen⟩⟩
  · intro action notAccepted
    rw [Hub.transport_step tidy]
    simp [Moment.result, Moment.change?_of_not_accepted notAccepted, transport, hub]

/-- A value written twice, one that is deleted, a deletion without effect, and a publication that is
refused between closing and opening. -/
def reopenedRun : List Action :=
  [.publish "main" "a" (some [1]), .publish "main" "b" none, .publish "main" "b" (some [2]),
    .share "clone" "main", .publish "clone" "a" (some [3]), .publish "main" "b" none,
    .close "clone", .publish "main" "a" (some [4]), .init "main",
    .publish "clone" "c" (some [5])]

theorem store_history_reopened :
    let transport := (Hub.start.after reopenedRun).transports 0
    transport.get "a" = some [3] ∧ transport.get "b" = none ∧ transport.revision = 5 ∧
      (⟨"a", [3], 3⟩ : KeyValue) ∈ transport.store.records ∧
      Hub.Written 0 reopenedRun ⟨"a", [3], 3⟩ := by
  obtain ⟨values, revision, -, written, -⟩ := store_history reopenedRun 0
  refine ⟨?_, ?_, ?_, by decide, (written _ (by decide)).2.1⟩
  · exact (values "a").trans (by decide)
  · exact (values "b").trans (by decide)
  · exact revision.trans (by decide)

end PluginSupport
