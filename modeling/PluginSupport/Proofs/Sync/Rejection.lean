import PluginSupport.Proofs.Sync.Step

/-!
# Actions that leave no trace

A transport refuses an action only when it is closed, or when the channel for a resync event is. An
action that is refused changes nothing in the hub, and neither does the deletion of a key that is
not stored (`Moment.Futile`). So such actions can be taken out of a run without anybody noticing.

Results:
1. `Hub.answer_publish`, `Hub.answer_watch`: what a publication and a watch are answered.
2. `Moment.Futile.step_eq`: a futile action leaves the hub as it is.
3. `rejection_traceless`: these together, and what is left of a run without futile actions.
-/
namespace PluginSupport

open Utf8 (Bytes)

/-! ## Refusals -/

namespace Hub

variable {hub : Hub} {handle : String} {number : Nat}

/-- A publication is refused by a closed transport, and by no other. -/
theorem answer_publish (found : hub.transport? handle = some number) (key : String)
    (value : Option Bytes) :
    (hub.step (.publish handle key value)).2 =
      if (hub.transports number).closed then .refused .transportClosed else .done true := by
  simp only [step, withTransport, found, Transport.publish]
  cases (hub.transports number).closed with
  | true => rfl
  | false => cases value <;> rfl

/-- A watch is refused by a closed transport, or else on account of a closed resync channel. It does
not matter what the change channel is like, or whether the resync channel has room. -/
theorem answer_watch (found : hub.transport? handle = some number)
    {registration name changes resyncs : String} {sink resync : Nat}
    (held : hub.sender? .changes changes = some sink)
    (resyncHeld : hub.sender? .resyncs resyncs = some resync) (stems : List String) :
    (hub.step (.watch handle registration name changes resyncs stems)).2 =
      if (hub.transports number).closed then .refused .transportClosed
      else if (hub.resyncs resync).isClosed then .refused (.resyncClosed name)
      else .done true := by
  simp only [step, held, resyncHeld, watch, withTransport, found, Transport.watch,
    Channel.delivery_eq_closed_iff]
  cases (hub.transports number).closed with
  | true => rfl
  | false => cases (hub.resyncs resync).isClosed <;> rfl

end Hub

/-! ## Futile actions -/

/-- Actions that come to nothing: the transport refuses the action, or is asked to delete a key that
is not stored. -/
inductive Moment.Futile : Moment → Prop
  | refused {moment : Moment} {error : SyncError}
      (answer : (moment.hub.step moment.action).2 = .refused error) : Futile moment
  | absent {hub : Hub} {handle key : String} {number : Nat}
      (found : hub.transport? handle = some number)
      (missing : (hub.transports number).get key = none) :
      Futile ⟨hub, .publish handle key none⟩

namespace Hub

variable {hub : Hub} {action : Action} {error : SyncError}

/-- Only publications and watches are refused, and they leave the hub as it is. -/
theorem step_of_refused (refused : (hub.step action).2 = .refused error) :
    (hub.step action).1 = hub := by
  cases action with
  | publish handle key value =>
    cases found : hub.transport? handle with
    | none => simp only [step, withTransport, found]
    | some number =>
      rw [answer_publish found] at refused
      split at refused
      · rename_i closed
        refine step_publish_of_no_change ?_
        simp [change?, found, Transport.change?, closed]
      · cases refused
  | watch handle registration name changes resyncs stems =>
    refine step_watch_of_no_start ?_
    rw [started?, refused]
    rfl
  | receive channel limit =>
    simp only [step, receive] at refused
    split at refused
    · split at refused <;> split at refused <;> cases refused
    · cases refused
  | _ =>
    -- Whatever is found under the names of the action, the answer is of another kind.
    simp only [step, runHook, withTransport, Transport.plugin] at refused
    repeat' split at refused
    all_goals cases refused

end Hub

theorem Moment.Futile.step_eq {moment : Moment} (futile : moment.Futile) :
    (moment.hub.step moment.action).1 = moment.hub := by
  cases futile with
  | refused answer => exact Hub.step_of_refused answer
  | absent found missing =>
    refine Hub.step_publish_of_no_change ?_
    simp [Hub.change?, found, Transport.change?_of_void rfl missing]

/-! ## Runs without futile actions -/

/-- The elements of a row that are marked. -/
def marked {α : Type} : List Bool → List α → List α
  | true :: marks, a :: row => a :: marked marks row
  | false :: marks, _ :: row => marked marks row
  | _, _ => []

/-- If the actions that are not marked are futile, the marked ones alone have the same results. -/
theorem Hub.run_marked {hub : Hub} {marks : List Bool} {actions : List Action}
    (futile : ∀ moment ∈ marked (marks.map not) (hub.moments actions), moment.Futile) :
    hub.run (marked marks actions) = marked marks (hub.run actions) := by
  induction actions generalizing hub marks with
  | nil => cases marks with
    | nil => rfl
    | cons mark marks => cases mark <;> rfl
  | cons action actions ih =>
    cases marks with
    | nil => rfl
    | cons mark marks =>
      cases mark with
      | true => exact congrArg _ (ih futile)
      | false =>
        obtain ⟨first, rest⟩ := List.forall_mem_cons.mp futile
        have same : (hub.step action).1 = hub := first.step_eq
        rw [same] at rest
        simp only [run, marked, same]
        exact ih rest

/-- Refusals, and what futile actions leave behind, in any hub:

* a publication is refused exactly if the transport is closed;
* a watch is refused exactly if the transport is closed, or else if the resync channel is, whatever
  the change channel is like and whether or not the resync channel has room;
* the failures name the transport and the watcher;
* an action that is refused changes nothing, so it sends nothing either;
* a run has the same results, each answer with the hub after it, with and without any of its futile
  actions. -/
theorem rejection_traceless (hub : Hub) :
    (∀ handle key value number, hub.transport? handle = some number →
        (hub.step (.publish handle key value)).2 =
          if (hub.transports number).closed then .refused .transportClosed else .done true) ∧
      (∀ handle registration name changes resyncs stems number sink resync,
        hub.transport? handle = some number → hub.sender? .changes changes = some sink →
        hub.sender? .resyncs resyncs = some resync →
        (hub.step (.watch handle registration name changes resyncs stems)).2 =
          if (hub.transports number).closed then .refused .transportClosed
          else if (hub.resyncs resync).isClosed then .refused (.resyncClosed name)
          else .done true) ∧
      SyncError.transportClosed.toFailure = .plugin "local-transport" "transport is closed" ∧
      (∀ name, ∃ before after,
        (SyncError.resyncClosed name).toFailure = .dataSync (before ++ name ++ after)) ∧
      (∀ action error, (hub.step action).2 = .refused error → (hub.step action).1 = hub) ∧
      ∀ marks actions,
        (∀ moment ∈ marked (marks.map not) (hub.moments actions), moment.Futile) →
        hub.run (marked marks actions) = marked marks (hub.run actions) := by
  refine ⟨?_, ?_, rfl, fun name => ⟨_, _, rfl⟩, fun _ _ => Hub.step_of_refused,
    fun _ _ => Hub.run_marked⟩
  · intro handle key value number found
    exact Hub.answer_publish found key value
  · intro handle registration name changes resyncs stems number sink resync found held resyncHeld
    exact Hub.answer_watch found held resyncHeld stems

/-- A watch whose resync event fills its channel and one whose resync event gets lost there, the
deletion of a missing key, a watch with a closed resync channel, and a publication to a closed
transport. -/
def vainActions : List Action :=
  [.openChannel .changes "feed" 4, .openChannel .resyncs "state" 1,
    .watch "main" "first" "watcher" "feed" "state" ["k"],
    .watch "main" "second" "onlooker" "feed" "state" ["k"], .publish "main" "k" none,
    .closeReceiver "state", .watch "main" "third" "latecomer" "feed" "state" ["k"],
    .publish "main" "k" (some [1]), .close "main", .publish "main" "k" (some [2]), .init "main",
    .publish "main" "k" (some [3]), .receive "feed" none]

/-- All actions of the run but the three futile ones. -/
def effectiveMarks : List Bool :=
  [true, true, true, true, false, true, false, true, true, false, true, true, true]

/-- Without the futile actions, the run goes as before. -/
theorem rejection_traceless_vain :
    Hub.start.run (marked effectiveMarks vainActions) =
        marked effectiveMarks (Hub.start.run vainActions) ∧
      (Hub.start.run vainActions).map Prod.fst =
        [.done true, .done true, .done true, .done true, .done true, .done true,
          .refused (.resyncClosed "latecomer"), .done true, .done true, .refused .transportClosed,
          .done true, .done true,
          .changes [⟨"k", .put, some [1], none, 1⟩, ⟨"k", .put, some [1], none, 1⟩] .empty] := by
  obtain ⟨-, -, -, -, -, same⟩ := rejection_traceless Hub.start
  refine ⟨same effectiveMarks vainActions ?_, by decide⟩
  have missing : (Hub.start.transports 0).get "k" = none := rfl
  have lateAnswer : ((Hub.start.after (vainActions.take 6)).step
      (.watch "main" "third" "latecomer" "feed" "state" ["k"])).2 =
        .refused (.resyncClosed "latecomer") := by decide
  have closedAnswer : ((Hub.start.after (vainActions.take 9)).step
      (.publish "main" "k" (some [2]))).2 = .refused .transportClosed := by decide
  refine List.forall_mem_cons.mpr ⟨.absent rfl missing, List.forall_mem_cons.mpr ⟨?_, ?_⟩⟩
  · exact .refused lateAnswer
  · exact List.forall_mem_singleton.mpr (.refused closedAnswer)

end PluginSupport
