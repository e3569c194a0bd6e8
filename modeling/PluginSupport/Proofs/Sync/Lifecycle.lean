import PluginSupport.Proofs.Sync.Account
import PluginSupport.Proofs.Sync.History

/-!
# The life of a subscription

A subscription lives from the watch that starts it to the first action that ends it (`Moment.Ends`),
and its registration stands under the name that the watch was given until that name is taken away
(`Moment.vacated?`). Both rest on numbers that are not given twice: `Hub.Owned` says that whatever
has the number of a subscription belongs to it, and no action breaks that.

Results:
1. `Hub.subscriptions_after`: the subscriptions of a transport are those that were started and not
   ended since.
2. `subscription_lifecycle`: the life of one subscription, and what its registration is good for.
-/
namespace PluginSupport

namespace Hub

variable {hub : Hub} {number : Nat} {subscription : Subscription} {registration : String}
  {action : Action} {actions : List Action}

/-! ## All subscriptions of a transport -/

/-- The subscriptions on a transport that a row of actions starts and does not end. -/
def survivors (hub : Hub) (number : Nat) : List Action → List Subscription
  | [] => []
  | action :: actions =>
    (((⟨hub, action⟩ : Moment).started? number).toList.filter fun subscription =>
        ∀ moment ∈ (hub.step action).1.moments actions, ¬ moment.Ends number subscription) ++
      (hub.step action).1.survivors number actions

/-- A subscription is live as long as no action ends it. -/
theorem subscriptions_after (tidy : hub.Tidy) (number : Nat) (actions : List Action) :
    ((hub.after actions).transports number).subscriptions =
      ((hub.transports number).subscriptions.filter fun subscription =>
          ∀ moment ∈ hub.moments actions, ¬ moment.Ends number subscription) ++
        hub.survivors number actions := by
  induction actions generalizing hub with
  | nil => simp [after, moments, survivors]
  | cons action actions ih =>
    rw [after, ih (tidy.step action), transport_step tidy, Moment.result, List.filter_append,
      List.filter_filter, List.append_assoc, survivors]
    congr 1
    refine List.filter_congr fun subscription _ => ?_
    simp [moments, Bool.and_comm]

/-- The number of live subscriptions that a transport tells. -/
theorem status?_after (query : String) (actions : List Action) :
    ((start.after actions).status? query).map Prod.fst =
      ((start.after actions).transport? query).map fun number =>
        (start.survivors number actions).length := by
  rw [status?, Option.map_map]
  refine Option.map_congr fun number _ => ?_
  rw [Function.comp_apply, subscriptions_after tidy_start]
  rfl

/-! ## One subscription -/

/-- Whatever has the number of a subscription belongs to it. -/
structure Owned (hub : Hub) (number : Nat) (subscription : Subscription) (registration : String) :
    Prop where
  tidy : hub.Tidy
  taken : subscription.number < (hub.transports number).nextNumber
  only : ∀ other ∈ (hub.transports number).subscriptions,
    other.number = subscription.number → other = subscription
  named : ∀ name, hub.registrations.lookup name = some ⟨number, subscription.number⟩ →
    name = registration

/-- A subscription that starts has another number. -/
theorem Owned.number_ne (owned : hub.Owned number subscription registration)
    {other : Subscription} (started : hub.started? action = some (number, other)) :
    other.number ≠ subscription.number := by
  obtain ⟨_, _, _, _, -, -, -, -, numbered⟩ := watch_of_start started
  rw [numbered]
  exact Nat.ne_of_gt owned.taken

theorem mem_subscriptions_step (tidy : hub.Tidy) (action : Action) :
    subscription ∈ ((hub.step action).1.transports number).subscriptions ↔
      (subscription ∈ (hub.transports number).subscriptions ∧
        ¬ (⟨hub, action⟩ : Moment).Ends number subscription) ∨
      hub.started? action = some (number, subscription) := by
  rw [transport_step tidy]
  simp [Moment.result, Moment.started?_eq_some_iff]

theorem Owned.step (owned : hub.Owned number subscription registration) (action : Action) :
    (hub.step action).1.Owned number subscription registration where
  tidy := owned.tidy.step action
  taken := Nat.lt_of_lt_of_le owned.taken (nextNumber_le_step owned.tidy action number)
  only other live same := by
    rcases (mem_subscriptions_step owned.tidy action).mp live with ⟨old, -⟩ | started
    · exact owned.only other old same
    · exact absurd same (owned.number_ne started)
  named name found := by
    rw [lookup_registrations_step owned.tidy] at found
    split at found
    · obtain ⟨⟨other, fresh⟩, started, same⟩ := Option.map_eq_some_iff.mp found
      obtain ⟨rfl, sameNumber⟩ : other = number ∧ fresh.number = subscription.number := by
        simpa using same
      exact absurd sameNumber (owned.number_ne started)
    · exact owned.named name found

/-- A watch takes a number that nothing has. -/
theorem owned_of_start (tidy : hub.Tidy)
    {handle registration name changes resyncs : String} {stems : List String}
    (started : hub.started? (.watch handle registration name changes resyncs stems) =
      some (number, subscription)) :
    (hub.step (.watch handle registration name changes resyncs stems)).1.Owned number subscription
      registration := by
  obtain ⟨_, _, _, _, -, -, -, -, numbered⟩ := watch_of_start started
  refine ⟨tidy.step _, ?_, ?_, ?_⟩
  · rw [transport_step tidy]
    simp [Moment.result, Moment.started?, started, numbered]
  · intro other live same
    rcases (mem_subscriptions_step tidy _).mp live with ⟨old, -⟩ | again
    · have older := tidy.sound.below number other old
      rw [same, numbered] at older
      exact absurd older (Nat.lt_irrefl _)
    · rw [started] at again
      cases again
      rfl
  · intro name found
    rw [lookup_registrations_step tidy] at found
    split at found
    · rename_i vacated
      simpa [Moment.vacated?, started, eq_comm] using vacated
    · have older := tidy.issued name _ found
      rw [numbered] at older
      exact absurd older (Nat.lt_irrefl _)

theorem Owned.after (owned : hub.Owned number subscription registration) (actions : List Action) :
    (hub.after actions).Owned number subscription registration :=
  @holds_after (fun hub => hub.Owned number subscription registration) (fun _ => True)
    (fun _ action owned _ => owned.step action) hub owned actions fun _ _ => trivial

/-- What an action keeps only under a condition is kept by the actions that all meet the
condition. -/
theorem Owned.kept_after (Kept : Hub → Prop) (Keeps : Moment → Prop)
    (step : ∀ {hub : Hub}, hub.Owned number subscription registration → ∀ action,
      Kept (hub.step action).1 ↔ Kept hub ∧ Keeps ⟨hub, action⟩)
    (owned : hub.Owned number subscription registration) (actions : List Action) :
    Kept (hub.after actions) ↔ Kept hub ∧ ∀ moment ∈ hub.moments actions, Keeps moment := by
  induction actions generalizing hub with
  | nil => simp [Hub.after, moments]
  | cons action actions ih =>
    rw [Hub.after, ih (owned.step action), step owned, moments, List.forall_mem_cons, and_assoc]

/-! ### Life -/

theorem Owned.live_step (owned : hub.Owned number subscription registration) (action : Action) :
    subscription ∈ ((hub.step action).1.transports number).subscriptions ↔
      subscription ∈ (hub.transports number).subscriptions ∧
        ¬ (⟨hub, action⟩ : Moment).Ends number subscription := by
  rw [mem_subscriptions_step owned.tidy, or_iff_left]
  exact fun again => owned.number_ne again rfl

/-- A subscription is live as long as no action ends it. -/
theorem Owned.live_after (owned : hub.Owned number subscription registration)
    (actions : List Action) :
    subscription ∈ ((hub.after actions).transports number).subscriptions ↔
      subscription ∈ (hub.transports number).subscriptions ∧
        ∀ moment ∈ hub.moments actions, ¬ moment.Ends number subscription :=
  kept_after (fun hub => subscription ∈ (hub.transports number).subscriptions)
    (fun moment => ¬ moment.Ends number subscription) live_step owned actions

/-! ### The registration -/

theorem Owned.held_step (owned : hub.Owned number subscription registration) (action : Action) :
    (hub.step action).1.registrations.lookup registration =
        some ⟨number, subscription.number⟩ ↔
      hub.registrations.lookup registration = some ⟨number, subscription.number⟩ ∧
        (⟨hub, action⟩ : Moment).vacated? ≠ some registration := by
  rw [lookup_registrations_step owned.tidy]
  split
  · rename_i vacated
    -- The name stands for a later watch, or for none.
    refine iff_of_false (fun found => ?_) fun held => held.2 vacated
    obtain ⟨⟨other, fresh⟩, started, same⟩ := Option.map_eq_some_iff.mp found
    obtain ⟨rfl, sameNumber⟩ : other = number ∧ fresh.number = subscription.number := by
      simpa using same
    exact owned.number_ne started sameNumber
  · rename_i notVacated
    exact (and_iff_left notVacated).symm

theorem Owned.held_after (owned : hub.Owned number subscription registration)
    (actions : List Action) :
    (hub.after actions).registrations.lookup registration =
        some ⟨number, subscription.number⟩ ↔
      hub.registrations.lookup registration = some ⟨number, subscription.number⟩ ∧
        ∀ moment ∈ hub.moments actions, moment.vacated? ≠ some registration :=
  kept_after
    (fun hub => hub.registrations.lookup registration = some ⟨number, subscription.number⟩)
    (fun moment => moment.vacated? ≠ some registration) held_step owned actions

/-- Only the name of the watch gives the registration to a release. -/
theorem Owned.released?_eq_some_iff (owned : hub.Owned number subscription registration)
    (action : Action) :
    (⟨hub, action⟩ : Moment).released? = some ⟨number, subscription.number⟩ ↔
      action = .release registration ∧
        hub.registrations.lookup registration = some ⟨number, subscription.number⟩ := by
  rw [Moment.released?_eq_some_iff]
  constructor
  · rintro ⟨name, same, found⟩
    obtain rfl := owned.named name found
    exact ⟨same, found⟩
  · rintro ⟨same, found⟩
    exact ⟨registration, same, found⟩

theorem Owned.nodup (owned : hub.Owned number subscription registration) :
    (hub.transports number).subscriptions.Nodup :=
  .of_map _ (owned.tidy.sound.distinct number)

theorem Owned.number_eq_iff (owned : hub.Owned number subscription registration)
    {other : Subscription} (live : other ∈ (hub.transports number).subscriptions) :
    other.number = subscription.number ↔ other = subscription :=
  ⟨owned.only other live, fun same => congrArg Subscription.number same⟩

/-- Releasing the number of a subscription ends the subscription, if it is live, and nothing
else. -/
theorem Owned.release_eq (owned : hub.Owned number subscription registration) :
    (hub.transports number).release subscription.number hub.changes =
      ({ hub.transports number with
          subscriptions := (hub.transports number).subscriptions.erase subscription },
        if subscription ∈ (hub.transports number).subscriptions then
          hub.changes.update subscription.sink Channel.dropSender
        else hub.changes) := by
  have others : ((hub.transports number).subscriptions.filter fun other =>
      !decide (other.number = subscription.number)) =
        (hub.transports number).subscriptions.erase subscription := by
    rw [owned.nodup.erase_eq_filter]
    refine List.filter_congr fun other live => ?_
    rw [decide_eq_decide.mpr (owned.number_eq_iff live)]
    rfl
  have own : ((hub.transports number).subscriptions.filter fun other =>
      decide (other.number = subscription.number)) =
        if subscription ∈ (hub.transports number).subscriptions then [subscription] else [] := by
    rw [List.filter_congr fun other live => decide_eq_decide.mpr (owned.number_eq_iff live),
      List.filter_eq, owned.nodup.count]
    split <;> rfl
  rw [Transport.release, Transport.endWhere, others, own]
  split <;> rfl

/-- A release takes the subscription off its transport, if it is live, and gives up the sending end
that it had. -/
theorem Owned.release_step (owned : hub.Owned number subscription registration)
    (held : hub.registrations.lookup registration = some ⟨number, subscription.number⟩) :
    hub.step (.release registration) =
      ({ hub with
          transports := fun other =>
            if other = number then
              { hub.transports number with
                subscriptions := (hub.transports number).subscriptions.erase subscription }
            else hub.transports other
          changes :=
            if subscription ∈ (hub.transports number).subscriptions then
              hub.changes.update subscription.sink Channel.dropSender
            else hub.changes
          registrations := hub.registrations.erase registration },
        .done true) := by
  simp only [Hub.step, held, Hub.release, owned.release_eq]
  rfl

/-! ### The channel -/

theorem Exclusive.outlasts (exclusive : hub.Exclusive number subscription)
    (sole : ∀ moment ∈ hub.moments actions, moment.sink? ≠ some subscription.sink) :
    (hub.after actions).Exclusive number subscription :=
  holds_after (fun _ _ => Exclusive.step) exclusive sole

/-- A channel that belonged to a subscription takes in nothing once the subscription has ended. -/
theorem Exclusive.accepted_of_ended (exclusive : hub.Exclusive number subscription)
    (ended : subscription ∉ (hub.transports number).subscriptions)
    (sole : ∀ moment ∈ hub.moments actions, moment.sink? ≠ some subscription.sink) :
    ((hub.after actions).changes subscription.sink).accepted =
      (hub.changes subscription.sink).accepted := by
  have silent : hub.heard number subscription actions = [] := by
    refine List.eq_nil_iff_forall_not_mem.mpr fun event member => ?_
    obtain ⟨moment, inRun, heard⟩ := mem_heard.mp member
    exact ended (exclusive.live_of_heard sole inRun heard)
  rw [exclusive.accepted_after sole, silent, List.append_nil]

end Hub

/-- The life of a subscription that a watch starts, up to any later point of the run:

* it is live just as long as no action ended it (`Moment.Ends`);
* its registration is released by a release under the name that the watch was given, as long as no
  action took that name away (`Moment.vacated?`), and by no other action;
* the number of subscriptions that a transport tells is the number of those started on it and not
  ended since;
* releasing the registration succeeds, and takes the subscription off its transport, with the
  sending end that it had, if it is still live; else nothing changes but the registrations;
* if no other watch is given its channel, then nothing is queued there after its end. -/
theorem subscription_lifecycle (earlier : List Action)
    {handle registration name changes resyncs : String} {stems : List String} {number : Nat}
    {subscription : Subscription}
    (started : (Hub.start.after earlier).started?
      (.watch handle registration name changes resyncs stems) = some (number, subscription))
    (later : List Action) :
    let watch : Action := .watch handle registration name changes resyncs stems
    let opened := Hub.start.after (earlier ++ [watch])
    let hub := opened.after later
    (subscription ∈ (hub.transports number).subscriptions ↔
        ∀ moment ∈ opened.moments later, ¬ moment.Ends number subscription) ∧
      (∀ action, (⟨hub, action⟩ : Moment).released? = some ⟨number, subscription.number⟩ ↔
        action = .release registration ∧
          ∀ moment ∈ opened.moments later, moment.vacated? ≠ some registration) ∧
      (∀ query, (hub.status? query).map Prod.fst =
        (hub.transport? query).map fun queried =>
          (Hub.start.survivors queried (earlier ++ watch :: later)).length) ∧
      ((∀ moment ∈ opened.moments later, moment.vacated? ≠ some registration) →
        hub.step (.release registration) =
          ({ hub with
              transports := fun other =>
                if other = number then
                  { hub.transports number with
                    subscriptions := (hub.transports number).subscriptions.erase subscription }
                else hub.transports other
              changes :=
                if subscription ∈ (hub.transports number).subscriptions then
                  hub.changes.update subscription.sink Channel.dropSender
                else hub.changes
              registrations := hub.registrations.erase registration },
            .done true)) ∧
      ((∀ moment ∈ Hub.start.moments earlier ++ opened.moments later,
          moment.sink? ≠ some subscription.sink) →
        subscription ∉ (hub.transports number).subscriptions →
        ∀ future, (∀ moment ∈ hub.moments future, moment.sink? ≠ some subscription.sink) →
          ((hub.after future).changes subscription.sink).accepted =
            (hub.changes subscription.sink).accepted) := by
  intro watch opened hub
  have opens : opened = ((Hub.start.after earlier).step watch).1 := Hub.after_concat _ _ _
  have owned : opened.Owned number subscription registration :=
    opens ▸ Hub.owned_of_start (Hub.tidy_after earlier) started
  have live : subscription ∈ (opened.transports number).subscriptions := by
    rw [opens, Hub.mem_subscriptions_step (Hub.tidy_after earlier)]
    exact .inr started
  have held : opened.registrations.lookup registration =
      some ⟨number, subscription.number⟩ := by
    rw [opens, Hub.lookup_registrations_step (Hub.tidy_after earlier)]
    simp [Moment.vacated?, watch, started]
  have stillHeld := owned.held_after later
  refine ⟨?_, ?_, ?_, ?_, ?_⟩
  · rw [owned.live_after later, and_iff_right live]
  · intro action
    rw [(owned.after later).released?_eq_some_iff, stillHeld, and_iff_right held]
  · intro query
    have reached : hub = Hub.start.after (earlier ++ watch :: later) := by
      rw [← List.singleton_append, ← List.append_assoc, Hub.after_append]
    rw [reached, Hub.status?_after]
  · intro kept
    exact (owned.after later).release_step (stillHeld.mpr ⟨held, kept⟩)
  · intro sole ended future soleFuture
    have unused : (Hub.start.after earlier).Unused subscription.sink :=
      (Hub.unused_start _).after fun moment member => sole moment (List.mem_append_left _ member)
    have exclusive : opened.Exclusive number subscription := opens ▸ unused.watch started
    have exclusiveLater : hub.Exclusive number subscription :=
      exclusive.outlasts fun moment member => sole moment (List.mem_append_right _ member)
    exact exclusiveLater.accepted_of_ended ended soleFuture

/-- A channel with room for one event, and a transport with two handles. -/
def staleBefore : List Action :=
  [.openChannel .changes "feed" 1, .openChannel .resyncs "state" 4, .share "clone" "main"]

/-- The hub right after the watch that `subscription_lifecycle_stale` is about. -/
def staleOpened : Hub :=
  Hub.start.after (staleBefore ++ [.watch "main" "first" "watcher" "feed" "state" ["k"]])

/-- A change that finds the channel full, the first handle dropped, the receiver closed, a change of
another key, a change that ends the subscription, and the transport closed, opened and watched
again. -/
def staleAfter : List Action :=
  [.publish "main" "k" (some [1]), .publish "main" "k" (some [2]), .dropHandle "main",
    .closeReceiver "feed", .publish "clone" "x" (some [3]), .publish "clone" "k" none,
    .close "clone", .init "clone",
    .watch "clone" "second" "watcher" "feed" "state" ["k"]]

/-- The registration of a subscription that ended long ago is released without harm to the one that
came after it. -/
theorem subscription_lifecycle_stale :
    (Hub.start.after staleBefore).started?
        (.watch "main" "first" "watcher" "feed" "state" ["k"]) =
          some (0, ⟨0, "watcher", ["k"], 0⟩) ∧
      ⟨0, "watcher", ["k"], 0⟩ ∈
        ((staleOpened.after (staleAfter.take 5)).transports 0).subscriptions ∧
      ⟨0, "watcher", ["k"], 0⟩ ∉
        ((staleOpened.after (staleAfter.take 6)).transports 0).subscriptions ∧
      ((staleOpened.after staleAfter).status? "clone").map Prod.fst = some 1 ∧
      ((staleOpened.after staleAfter).step (.release "first")).2 = .done true ∧
      (((staleOpened.after staleAfter).step (.release "first")).1.transports 0).subscriptions =
        [⟨1, "watcher", ["k"], 0⟩] := by
  have started : (Hub.start.after staleBefore).started?
      (.watch "main" "first" "watcher" "feed" "state" ["k"]) =
        some (0, ⟨0, "watcher", ["k"], 0⟩) := by decide
  obtain ⟨alive, -⟩ := subscription_lifecycle staleBefore started (staleAfter.take 5)
  obtain ⟨ended, -⟩ := subscription_lifecycle staleBefore started (staleAfter.take 6)
  obtain ⟨-, -, counted, released, -⟩ := subscription_lifecycle staleBefore started staleAfter
  have answer := released (by decide)
  refine ⟨started, ?_, ?_, ?_, ?_, ?_⟩
  · exact alive.mpr (by decide +kernel)
  · exact fun live => absurd (ended.mp live) (by decide +kernel)
  · refine (counted "clone").trans ?_
    decide
  · exact congrArg Prod.snd answer
  · refine (congrArg (fun result => (result.1.transports 0).subscriptions) answer).trans ?_
    decide

end PluginSupport
