import PluginSupport.Plugin
import PluginSupport.Sync.Channel
import PluginSupport.Sync.Store

/-!
# Local transport

A key-value store that tells its watchers of every change, all within one process.

* Publishing a value, or deleting a stored one, counts the revision up by one and sends one change
  event to every subscription that wants the key. Deleting a key that is not stored does nothing.
* Watching sends one resync event with the current state and then subscribes. The resync event may
  get lost in a full channel; a closed one refuses the watch.
* A change event gets lost in a full channel. A closed channel ends its subscription.
* A closed transport has no subscriptions and refuses to publish and to watch until it is opened
  again.
* Revisions and the numbers of subscriptions are natural numbers. Counters of 64 bits, the one for
  revisions signed, show the same as long as a transport goes through fewer than 2 ^ 63 changes and
  2 ^ 64 watches.

Delivery goes through the subscriptions one by one; `deliver` takes them in the order given.
-/
namespace PluginSupport

open Utf8 (Bytes)

/-- A subscription: its number, the watcher's name, the prefixes that it wants, and the number of
the channel that its change events go to. -/
structure Subscription where
  number : Nat
  name : String
  stems : List String
  sink : Nat
deriving DecidableEq, Repr

/-- Whether a subscription wants the changes of a key. -/
def Subscription.wants (subscription : Subscription) (key : String) : Bool :=
  subscription.stems.any fun stem => hasStem stem key

/-- State of a transport. -/
structure Transport where
  store : Store
  /-- Number of changes so far, which is below 2 ^ 63 in practice. -/
  revision : Nat
  /-- Live subscriptions, oldest first. -/
  subscriptions : List Subscription
  /-- Number of the next subscription, which is below 2 ^ 64 in practice. -/
  nextNumber : Nat
  closed : Bool
deriving DecidableEq, Repr

/-- Why a transport refuses an operation. -/
inductive SyncError where
  | transportClosed
  /-- The channel for the resync event of the named watcher is closed. -/
  | resyncClosed (name : String)
deriving DecidableEq, Repr

/-- Name of the transport as a plugin. -/
def Transport.pluginName : String := "local-transport"

/-- The failure reported to the host. -/
def SyncError.toFailure : SyncError → Failure
  | .transportClosed => .plugin Transport.pluginName "transport is closed"
  | .resyncClosed name => .dataSync ("resync sink for " ++ name ++ " is closed")

namespace Transport

/-- An open transport without values and subscriptions. -/
def new : Transport := ⟨.empty, 0, [], 0, false⟩

/-- Value stored under a key. -/
def get (transport : Transport) (key : String) : Option Bytes :=
  (transport.store.find? key).map KeyValue.value

/-! ## Delivery -/

/-- Channels after an event was sent to the subscriptions that want it, and the numbers of those
whose channel turned out closed. -/
def deliver (event : ChangeEvent) :
    List Subscription → Channels ChangeEvent → Channels ChangeEvent × List Nat
  | [], channels => (channels, [])
  | subscription :: others, channels =>
    if subscription.wants event.key then
      let channel := channels subscription.sink
      let offered := channels.set subscription.sink (channel.offer event)
      let (after, gone) := deliver event others offered
      (after, if channel.delivery = .closed then subscription.number :: gone else gone)
    else deliver event others channels

/-- Ends the subscriptions that a test picks; their sending ends are given up. -/
def endWhere (transport : Transport) (picked : Subscription → Bool)
    (channels : Channels ChangeEvent) : Transport × Channels ChangeEvent :=
  ({ transport with
      subscriptions := transport.subscriptions.filter fun subscription => !picked subscription },
    channels.dropSenders ((transport.subscriptions.filter picked).map Subscription.sink))

/-- Ends all subscriptions. -/
def endAll (transport : Transport) (channels : Channels ChangeEvent) :
    Transport × Channels ChangeEvent :=
  transport.endWhere (fun _ => true) channels

/-- Tells the subscriptions of a change, and ends those whose channel is closed. -/
def notify (transport : Transport) (event : ChangeEvent) (channels : Channels ChangeEvent) :
    Transport × Channels ChangeEvent :=
  let (after, gone) := deliver event transport.subscriptions channels
  transport.endWhere (fun subscription => subscription.number ∈ gone) after

/-! ## Publishing -/

/-- Stores a value. -/
def put (transport : Transport) (key : String) (value : Bytes) (channels : Channels ChangeEvent) :
    Transport × Channels ChangeEvent :=
  let revision := transport.revision + 1
  let event : ChangeEvent := ⟨key, .put, some value, transport.get key, revision⟩
  { transport with
    store := transport.store.insert ⟨key, value, revision⟩
    revision }.notify event channels

/-- Deletes a stored value; does nothing when there is none. -/
def delete (transport : Transport) (key : String) (channels : Channels ChangeEvent) :
    Transport × Channels ChangeEvent :=
  match transport.get key with
  | none => (transport, channels)
  | some previous =>
    let revision := transport.revision + 1
    let event : ChangeEvent := ⟨key, .delete, none, some previous, revision⟩
    { transport with
      store := transport.store.erase key
      revision }.notify event channels

/-- Stores a value under a key, or deletes the key when there is none. -/
def publish (transport : Transport) (key : String) (value : Option Bytes)
    (channels : Channels ChangeEvent) :
    Except SyncError (Transport × Channels ChangeEvent) :=
  if transport.closed then .error .transportClosed
  else
    match value with
    | some bytes => .ok (transport.put key bytes channels)
    | none => .ok (transport.delete key channels)

/-! ## Watching -/

/-- The transport with one more subscription, which takes the next number. -/
def subscribe (transport : Transport) (name : String) (stems : List String) (sink : Nat) :
    Transport :=
  { transport with
    subscriptions := transport.subscriptions ++ [⟨transport.nextNumber, name, stems, sink⟩]
    nextNumber := transport.nextNumber + 1 }

/-- What a watch leads to: the transport with the new subscription, the subscription's number, the
change channels, one of which has one more sending end, and the channel of the resync event. -/
structure Watch where
  transport : Transport
  number : Nat
  channels : Channels ChangeEvent
  resync : Channel ResyncEvent

/-- Sends the state below the prefixes to `resync` and subscribes the channel numbered `sink` to
their changes. -/
def watch (transport : Transport) (name : String) (stems : List String) (sink : Nat)
    (channels : Channels ChangeEvent) (resync : Channel ResyncEvent) : Except SyncError Watch :=
  if transport.closed then .error .transportClosed
  else if resync.delivery = .closed then .error (.resyncClosed name)
  else .ok {
    transport := transport.subscribe name stems sink
    number := transport.nextNumber
    channels := channels.update sink Channel.addSender
    resync := resync.offer (transport.store.resync stems) }

/-- Ends the subscription of a number; does nothing when there is none. -/
def release (transport : Transport) (number : Nat) (channels : Channels ChangeEvent) :
    Transport × Channels ChangeEvent :=
  transport.endWhere (fun subscription => subscription.number = number) channels

/-! ## Life cycle -/

/-- The transport opened. -/
def reopen (transport : Transport) : Transport :=
  { transport with closed := false }

/-- The transport closed; all subscriptions end. -/
def shut (transport : Transport) (channels : Channels ChangeEvent) :
    Transport × Channels ChangeEvent :=
  { transport with closed := true }.endAll channels

/-- The transport with its channels as a plugin: starting opens it, the end of its life closes
it. -/
def plugin : Plugin (Transport × Channels ChangeEvent) SyncError where
  name := pluginName
  init := fun (transport, channels) => .ok (transport.reopen, channels)
  close := fun (transport, channels) => .ok (transport.shut channels)

end Transport

end PluginSupport
