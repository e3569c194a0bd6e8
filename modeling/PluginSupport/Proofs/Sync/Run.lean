import PluginSupport.Proofs.Sync.Delivery
import PluginSupport.Sync.Hub

/-!
# Runs of a hub

A run is a row of actions. `Hub.after` is the hub at its end, `Hub.moments` lists each action with
the hub that it found. Two kinds of moments matter to watchers:

* `Hub.change?`: the action changes the store of a transport;
* `Hub.started?`: the action starts a subscription.
-/
namespace PluginSupport

/-- An action with the hub that it finds. -/
structure Moment where
  hub : Hub
  action : Action

namespace Hub

/-- The hub after a row of actions. -/
def after (hub : Hub) : List Action → Hub
  | [] => hub
  | action :: actions => (hub.step action).1.after actions

/-- The moments of a row of actions. -/
def moments (hub : Hub) : List Action → List Moment
  | [] => []
  | action :: actions => ⟨hub, action⟩ :: (hub.step action).1.moments actions

/-- The change that an action makes to the store of a transport, with the transport's number. -/
def change? (hub : Hub) : Action → Option (Nat × ChangeEvent)
  | .publish handle key value =>
    (hub.transport? handle).bind fun number =>
      ((hub.transports number).change? key value).map fun event => (number, event)
  | _ => none

/-- The subscription that an action starts, with the number of its transport: the action is a
watch and succeeds. -/
def started? (hub : Hub) (action : Action) : Option (Nat × Subscription) :=
  match action with
  | .watch handle _ name changes _ stems =>
    if (hub.step action).2 = .done true then
      (hub.transport? handle).bind fun number =>
        (hub.sender? .changes changes).map fun sink =>
          (number, ⟨(hub.transports number).nextNumber, name, stems, sink⟩)
    else none
  | _ => none

theorem after_append (hub : Hub) (first second : List Action) :
    hub.after (first ++ second) = (hub.after first).after second := by
  induction first generalizing hub with
  | nil => rfl
  | cons action first ih => exact ih _

theorem after_concat (hub : Hub) (actions : List Action) (action : Action) :
    hub.after (actions ++ [action]) = ((hub.after actions).step action).1 := by
  rw [after_append]
  rfl

theorem moments_append (hub : Hub) (first second : List Action) :
    hub.moments (first ++ second) = hub.moments first ++ (hub.after first).moments second := by
  induction first generalizing hub with
  | nil => rfl
  | cons action first ih => exact congrArg _ (ih _)

theorem moments_concat (hub : Hub) (actions : List Action) (action : Action) :
    hub.moments (actions ++ [action]) = hub.moments actions ++ [⟨hub.after actions, action⟩] := by
  rw [moments_append]
  rfl

/-- A moment is an action with the hub that the actions before it lead to. -/
theorem mem_moments_iff {hub : Hub} {actions : List Action} {moment : Moment} :
    moment ∈ hub.moments actions ↔
      ∃ front back, actions = front ++ moment.action :: back ∧ moment.hub = hub.after front := by
  constructor
  · intro member
    induction actions generalizing hub with
    | nil => cases member
    | cons action actions ih =>
      rcases List.mem_cons.mp member with rfl | later
      · exact ⟨[], actions, rfl, rfl⟩
      · obtain ⟨front, back, rfl, found⟩ := ih later
        exact ⟨action :: front, back, rfl, found⟩
  · rintro ⟨front, back, rfl, found⟩
    obtain ⟨reached, action⟩ := moment
    subst found
    rw [moments_append]
    exact List.mem_append_right _ List.mem_cons_self

/-- What every action keeps that a run consists of holds at its end. -/
theorem holds_after {Holds : Hub → Prop} {Allowed : Moment → Prop}
    (step : ∀ hub action, Holds hub → Allowed ⟨hub, action⟩ → Holds (hub.step action).1)
    {hub : Hub} (holds : Holds hub) {actions : List Action}
    (allowed : ∀ moment ∈ hub.moments actions, Allowed moment) : Holds (hub.after actions) := by
  induction actions generalizing hub with
  | nil => exact holds
  | cons action actions ih =>
    obtain ⟨first, rest⟩ := List.forall_mem_cons.mp allowed
    exact ih (step hub action holds first) rest

end Hub

namespace Moment

/-- The change channel that a watch is given, if the action is one and succeeds. -/
def sink? (moment : Moment) : Option Nat :=
  (moment.hub.started? moment.action).map fun start => start.2.sink

/-- The change that the action makes to the store of a transport. -/
def change? (moment : Moment) (number : Nat) : Option ChangeEvent :=
  (moment.hub.change? moment.action).bind fun change =>
    if change.1 = number then some change.2 else none

/-- Something found on a transport, when the transport is the one in question. -/
theorem bind_ite_eq_some_iff {α : Type} {found? : Option (Nat × α)} {number : Nat} {a : α} :
    (found?.bind fun found => if found.1 = number then some found.2 else none) = some a ↔
      found? = some (number, a) := by
  simp only [Option.bind_eq_some_iff]
  constructor
  · rintro ⟨⟨other, found⟩, change, same⟩
    split at same
    · cases same
      simp_all
    · cases same
  · exact fun change => ⟨_, change, if_pos rfl⟩

theorem change?_eq_some_iff {moment : Moment} {number : Nat} {event : ChangeEvent} :
    moment.change? number = some event ↔
      moment.hub.change? moment.action = some (number, event) :=
  bind_ite_eq_some_iff

end Moment

end PluginSupport
