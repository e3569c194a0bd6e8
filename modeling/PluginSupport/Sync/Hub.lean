import PluginSupport.Sync.Transport

/-!
# Hubs

Everything that takes part in a run of data synchronisation: transports under the names of their
handles, channels under the names of their ends, and registrations of watches.

* Several handles may share one transport. With the last of its handles a transport ends all its
  subscriptions; a registration does not keep it alive.
* A subscription holds a sending end of its change channel for as long as it lives. A watch gives
  its sending end of the resync channel up as soon as it returns.
* Dropping a registration leaves its subscription alone; releasing it ends the subscription.

`Hub.step` carries out one action and answers it, `Hub.run` a row of them.
-/
namespace PluginSupport

open Utf8 (Bytes)

/-- Which events a channel carries. -/
inductive ChannelKind where
  | changes
  | resyncs
deriving DecidableEq, Repr

/-- The ends of a channel that its maker holds: the channel by kind and number, and whether the
sending end is still held. -/
structure ChannelEnds where
  kind : ChannelKind
  number : Nat
  holdsSender : Bool
deriving DecidableEq, Repr

/-- The registration of a watch: a transport and the number of a subscription on it. -/
structure Registration where
  transport : Nat
  subscription : Nat
deriving DecidableEq, Repr

/-- A table from names to values; a name stands at most once. -/
abbrev Names (α : Type) := List (String × α)

namespace Names

variable {α : Type}

/-- The table without a name. -/
def erase (names : Names α) (name : String) : Names α :=
  names.filter fun entry => entry.1 ≠ name

/-- The table with a value under a name. -/
def insert (names : Names α) (name : String) (a : α) : Names α :=
  (name, a) :: names.erase name

end Names

/-- Everything that takes part in a run. -/
structure Hub where
  /-- Transports by number. -/
  transports : Nat → Transport
  /-- Number of the next transport. -/
  nextTransport : Nat
  /-- Transports by the names of their handles. -/
  handles : Names Nat
  changes : Channels ChangeEvent
  resyncs : Channels ResyncEvent
  /-- Number of the next channel. -/
  nextChannel : Nat
  /-- Channels by the names of their ends. -/
  ends : Names ChannelEnds
  registrations : Names Registration

/-- An action on a hub. Handles, channels and registrations go by name. -/
inductive Action where
  /-- A fresh transport under a handle. -/
  | create (handle : String)
  /-- One more handle for the transport of another one. -/
  | share (handle source : String)
  | dropHandle (handle : String)
  | describe (handle : String)
  | init (handle : String)
  | close (handle : String)
  | publish (handle key : String) (value : Option Bytes)
  | get (handle key : String)
  /-- A fresh channel under a name. None is opened without any room. -/
  | openChannel (kind : ChannelKind) (channel : String) (room : Nat)
  | watch (handle registration name changes resyncs : String) (stems : List String)
  | release (registration : String)
  | dropRegistration (registration : String)
  | receive (channel : String) (limit : Option Nat)
  | dropSender (channel : String)
  | dropReceiver (channel : String)
  | closeReceiver (channel : String)
deriving DecidableEq, Repr

/-- Answer to an action. -/
inductive Answer where
  /-- The action was carried out, or there was nothing of that name. -/
  | done (existed : Bool)
  | refused (error : SyncError)
  | description (name : String) (hasPostInit : Bool)
  | value (value : Option Bytes)
  | changes (events : List ChangeEvent) (supply : Supply)
  | resyncs (events : List ResyncEvent) (supply : Supply)
  /-- The action goes by a name that nothing has, or by an end that is no longer held. -/
  | unknown (name : String)
deriving DecidableEq, Repr

namespace Hub

/-- A hub without channels and registrations, and one transport under the handle `main`. -/
def start : Hub where
  transports := fun _ => .new
  nextTransport := 1
  handles := [("main", 0)]
  changes := fun _ => .make { room := 1 }
  resyncs := fun _ => .make { room := 1 }
  nextChannel := 0
  ends := []
  registrations := []

/-! ## Transports -/

/-- Number of the transport behind a handle. -/
def transport? (hub : Hub) (handle : String) : Option Nat :=
  hub.handles.lookup handle

/-- Whether a transport has a handle. -/
def isAlive (hub : Hub) (number : Nat) : Bool :=
  hub.handles.any fun entry => entry.2 = number

/-- The hub with another transport under a number. -/
def setTransport (hub : Hub) (number : Nat) (transport : Transport) : Hub :=
  { hub with transports := fun n => if n = number then transport else hub.transports n }

/-- The hub after the transport of a number and the change channels became others. -/
def commit (hub : Hub) (number : Nat) (after : Transport × Channels ChangeEvent) : Hub :=
  { hub.setTransport number after.1 with changes := after.2 }

/-- The hub with a handle standing for another transport, or for none. The transport that it stood
for before ends its subscriptions if no other handle is left for it. -/
def setHandle (hub : Hub) (handle : String) (number? : Option Nat) : Hub :=
  let handles := match number? with
    | some number => hub.handles.insert handle number
    | none => hub.handles.erase handle
  let after := { hub with handles }
  match hub.transport? handle with
  | some old => if after.isAlive old then after
    else after.commit old ((after.transports old).endAll after.changes)
  | none => after

/-- Carries out an operation on the transport behind a handle. -/
def withTransport (hub : Hub) (handle : String) (act : Nat → Transport → Hub × Answer) :
    Hub × Answer :=
  match hub.transport? handle with
  | some number => act number (hub.transports number)
  | none => (hub, .unknown handle)

/-- Carries out one of the life cycle hooks of a transport. -/
def runHook (hub : Hub) (handle : String)
    (hook : Transport × Channels ChangeEvent →
      Except SyncError (Transport × Channels ChangeEvent)) : Hub × Answer :=
  hub.withTransport handle fun number transport =>
    match hook (transport, hub.changes) with
    | .ok after => (hub.commit number after, .done true)
    | .error error => (hub, .refused error)

/-- Number of live subscriptions and revision of the transport behind a handle. -/
def status? (hub : Hub) (handle : String) : Option (Nat × Nat) :=
  (hub.transport? handle).map fun number =>
    ((hub.transports number).subscriptions.length, (hub.transports number).revision)

/-! ## Channels -/

/-- State of the receiving end of a channel. -/
def receiverOf (hub : Hub) (ends : ChannelEnds) : ReceiverState :=
  match ends.kind with
  | .changes => (hub.changes ends.number).receiver
  | .resyncs => (hub.resyncs ends.number).receiver

/-- The hub after a channel changed in a way that does not depend on what it carries. -/
def changeChannel (hub : Hub) (ends : ChannelEnds)
    (change : {α : Type} → Channel α → Channel α) : Hub :=
  match ends.kind with
  | .changes => { hub with changes := hub.changes.update ends.number change }
  | .resyncs => { hub with resyncs := hub.resyncs.update ends.number change }

/-- The hub after the maker of a channel gave its sending end up, if it still held it. -/
def dropSender (hub : Hub) (ends : ChannelEnds) : Hub :=
  if ends.holdsSender then hub.changeChannel ends Channel.dropSender else hub

/-- The hub with other ends under the name of a channel. -/
def setEnds (hub : Hub) (channel : String) (ends : ChannelEnds) : Hub :=
  { hub with ends := hub.ends.insert channel ends }

/-- The hub after the maker of a channel dropped both ends. -/
def dropEnds (hub : Hub) (ends : ChannelEnds) : Hub :=
  (hub.dropSender ends).changeChannel ends Channel.dropReceiver

/-- Opens a channel under a name; both ends of a channel that had the name are dropped. -/
def openChannel (hub : Hub) (kind : ChannelKind) (channel : String) (capacity : Capacity) :
    Hub :=
  let cleared := (hub.ends.lookup channel).elim hub hub.dropEnds
  let number := cleared.nextChannel
  let opened :=
    match kind with
    | .changes => { cleared with changes := cleared.changes.set number (.make capacity) }
    | .resyncs => { cleared with resyncs := cleared.resyncs.set number (.make capacity) }
  { opened with nextChannel := number + 1 }.setEnds channel ⟨kind, number, true⟩

/-- Number of a channel of the given kind whose sending end is still held. -/
def sender? (hub : Hub) (kind : ChannelKind) (channel : String) : Option Nat :=
  match hub.ends.lookup channel with
  | some ends => if ends.kind = kind ∧ ends.holdsSender then some ends.number else none
  | none => none

/-- Takes events out of a channel. -/
def receive (hub : Hub) (ends : ChannelEnds) (limit : Option Nat) : Hub × Answer :=
  let gone := hub.receiverOf ends = .dropped
  match ends.kind with
  | .changes =>
    let channel := hub.changes ends.number
    let count := channel.takeCount limit
    if gone then (hub, .changes [] .dropped)
    else ({ hub with changes := hub.changes.set ends.number (channel.advance count) },
      .changes (channel.queue.take count) (channel.supply limit))
  | .resyncs =>
    let channel := hub.resyncs ends.number
    let count := channel.takeCount limit
    if gone then (hub, .resyncs [] .dropped)
    else ({ hub with resyncs := hub.resyncs.set ends.number (channel.advance count) },
      .resyncs (channel.queue.take count) (channel.supply limit))

/-! ## Watches -/

/-- Carries out a watch and keeps its registration. -/
def watch (hub : Hub) (handle registration name : String) (sink resync : Nat)
    (stems : List String) : Hub × Answer :=
  hub.withTransport handle fun number transport =>
    match transport.watch name stems sink hub.changes (hub.resyncs resync) with
    | .error error => (hub, .refused error)
    | .ok watch =>
      ({ hub.commit number (watch.transport, watch.channels) with
          resyncs := hub.resyncs.set resync watch.resync
          registrations := hub.registrations.insert registration ⟨number, watch.number⟩ },
        .done true)

/-- The hub after a registration was released. -/
def release (hub : Hub) (registration : Registration) : Hub :=
  hub.commit registration.transport
    ((hub.transports registration.transport).release registration.subscription hub.changes)

/-! ## Actions -/

/-- Carries out an action and answers it. -/
def step (hub : Hub) : Action → Hub × Answer
  | .create handle =>
    let number := hub.nextTransport
    ({ hub.setTransport number .new with nextTransport := number + 1 }.setHandle handle number,
      .done true)
  | .share handle source =>
    match hub.transport? source with
    | some number => (hub.setHandle handle number, .done true)
    | none => (hub, .done false)
  | .dropHandle handle =>
    (hub.setHandle handle none, .done (hub.transport? handle).isSome)
  | .describe handle =>
    hub.withTransport handle fun _ _ =>
      (hub, .description Transport.plugin.name Transport.plugin.hasPostInit)
  | .init handle => hub.runHook handle Transport.plugin.init
  | .close handle => hub.runHook handle Transport.plugin.close
  | .publish handle key value =>
    hub.withTransport handle fun number transport =>
      match transport.publish key value hub.changes with
      | .ok after => (hub.commit number after, .done true)
      | .error error => (hub, .refused error)
  | .get handle key =>
    hub.withTransport handle fun _ transport => (hub, .value (transport.get key))
  | .openChannel kind channel room =>
    match Capacity.of? room with
    | some capacity => (hub.openChannel kind channel capacity, .done true)
    | none => (hub, .done false)
  | .watch handle registration name changes resyncs stems =>
    match hub.sender? .changes changes, hub.sender? .resyncs resyncs with
    | some sink, some resync => hub.watch handle registration name sink resync stems
    | none, _ => (hub, .unknown changes)
    | _, none => (hub, .unknown resyncs)
  | .release registration =>
    match hub.registrations.lookup registration with
    | some held =>
      ({ hub.release held with registrations := hub.registrations.erase registration }, .done true)
    | none => (hub, .done false)
  | .dropRegistration registration =>
    ({ hub with registrations := hub.registrations.erase registration },
      .done (hub.registrations.lookup registration).isSome)
  | .receive channel limit =>
    match hub.ends.lookup channel with
    | some ends => hub.receive ends limit
    | none => (hub, .unknown channel)
  | .dropSender channel =>
    match hub.ends.lookup channel with
    | some ends =>
      ((hub.dropSender ends).setEnds channel { ends with holdsSender := false },
        .done ends.holdsSender)
    | none => (hub, .done false)
  | .dropReceiver channel =>
    match hub.ends.lookup channel with
    | some ends =>
      (hub.changeChannel ends Channel.dropReceiver, .done (hub.receiverOf ends ≠ .dropped))
    | none => (hub, .done false)
  | .closeReceiver channel =>
    match hub.ends.lookup channel with
    | some ends =>
      (hub.changeChannel ends Channel.closeReceiver, .done (hub.receiverOf ends ≠ .dropped))
    | none => (hub, .done false)

/-- Answers to a row of actions, each with the hub after it. -/
def run (hub : Hub) : List Action → List (Answer × Hub)
  | [] => []
  | action :: actions =>
    let (after, answer) := hub.step action
    (answer, after) :: after.run actions

end Hub

end PluginSupport
