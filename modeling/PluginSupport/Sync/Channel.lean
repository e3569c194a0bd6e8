/-!
# Bounded channels

A channel takes in events until its queue is full, and hands them out in order. It remembers every
event that it ever took in; the queue is what the receiver has not taken yet. A queue holds at least
one event.

* A receiver that closes the channel refuses new events and may still take the queued ones.
* A receiver that is dropped refuses new events and gives up the queued ones.
* Closed wins over full: an event offered to a channel that is both is refused as closed.
* Once the last sending end is gone, the receiver learns at the end of the queue that nothing more
  will come.

Results: `dropSenders_apply` says how many sending ends of a channel are left after some were given
up.
-/
namespace PluginSupport

/-- What became of the receiving end. -/
inductive ReceiverState where
  | open
  | closed
  | dropped
deriving DecidableEq, Repr

/-- How many events a queue holds: at least one. -/
structure Capacity where
  room : Nat
  positive : 0 < room := by decide
deriving DecidableEq, Repr

/-- Capacity for a number of events, unless that number is zero. -/
def Capacity.of? (room : Nat) : Option Capacity :=
  if positive : 0 < room then some ⟨room, positive⟩ else none

/-- A channel. -/
structure Channel (α : Type) where
  capacity : Capacity
  /-- All events that were taken in, oldest first. -/
  accepted : List α
  /-- How many of them were taken out. -/
  taken : Nat
  receiver : ReceiverState
  /-- How many sending ends there are. -/
  senders : Nat
deriving DecidableEq, Repr

/-- What became of an offered event. -/
inductive Delivery where
  | queued
  | full
  | closed
deriving DecidableEq, Repr

/-- State of a channel after taking events out. -/
inductive Supply where
  /-- As many as asked for were taken. -/
  | more
  /-- Nothing is left for now. -/
  | empty
  /-- Nothing is left, and nothing will come. -/
  | disconnected
  /-- The receiving end is gone. -/
  | dropped
deriving DecidableEq, Repr

namespace Channel

variable {α : Type}

/-- A channel without events and with one sending end. -/
def make (capacity : Capacity) : Channel α := ⟨capacity, [], 0, .open, 1⟩

/-- Events that were taken in and not yet taken out, oldest first. -/
def queue (channel : Channel α) : List α :=
  channel.accepted.drop channel.taken

/-- Whether the channel refuses events for good. -/
def isClosed (channel : Channel α) : Bool :=
  channel.receiver ≠ .open

/-- Whether somebody can still send. -/
def isConnected (channel : Channel α) : Bool :=
  0 < channel.senders

/-- Whether the queue has no room. -/
def isFull (channel : Channel α) : Bool :=
  channel.capacity.room ≤ channel.queue.length

/-- What becomes of an event that is offered now. -/
def delivery (channel : Channel α) : Delivery :=
  if channel.isClosed then .closed else if channel.isFull then .full else .queued

/-- The channel after an event was offered. -/
def offer (channel : Channel α) (event : α) : Channel α :=
  if channel.delivery = .queued then { channel with accepted := channel.accepted ++ [event] }
  else channel

/-- Closes the receiving end, which must not be gone. -/
def closeReceiver (channel : Channel α) : Channel α :=
  { channel with receiver := if channel.receiver = .open then .closed else channel.receiver }

/-- Drops the receiving end. -/
def dropReceiver (channel : Channel α) : Channel α :=
  { channel with receiver := .dropped }

/-- The channel with one more sending end. -/
def addSender (channel : Channel α) : Channel α :=
  { channel with senders := channel.senders + 1 }

/-- The channel with one sending end less. -/
def dropSender (channel : Channel α) : Channel α :=
  { channel with senders := channel.senders - 1 }

/-- How many events are taken out at a limit, none meaning all. -/
def takeCount (channel : Channel α) (limit : Option Nat) : Nat :=
  match limit with
  | some most => min most channel.queue.length
  | none => channel.queue.length

/-- The channel after `count` events were taken out. -/
def advance (channel : Channel α) (count : Nat) : Channel α :=
  { channel with taken := channel.taken + count }

/-- Supply after events are taken out at a limit. -/
def supply (channel : Channel α) (limit : Option Nat) : Supply :=
  if limit.any (· ≤ channel.queue.length) then .more
  else if channel.isConnected && !channel.isClosed then .empty
  else .disconnected

end Channel

/-- Channels of one kind by number. -/
abbrev Channels (α : Type) := Nat → Channel α

namespace Channels

variable {α : Type}

/-- The channels with another one under a number. -/
def set (channels : Channels α) (number : Nat) (channel : Channel α) : Channels α :=
  fun n => if n = number then channel else channels n

/-- The channels after one of them changed. -/
def update (channels : Channels α) (number : Nat) (change : Channel α → Channel α) : Channels α :=
  channels.set number (change (channels number))

/-- The channels after sending ends were given up, one for each number in the list. -/
def dropSenders (channels : Channels α) : List Nat → Channels α
  | [] => channels
  | number :: numbers => dropSenders (channels.update number Channel.dropSender) numbers

theorem set_self (channels : Channels α) (number : Nat) (channel : Channel α) :
    channels.set number channel number = channel := by
  simp [set]

theorem set_other (channels : Channels α) {number other : Nat} (channel : Channel α)
    (different : other ≠ number) : channels.set number channel other = channels other := by
  simp [set, different]

theorem dropSenders_apply (channels : Channels α) (numbers : List Nat) (number : Nat) :
    channels.dropSenders numbers number =
      { channels number with senders := (channels number).senders - numbers.count number } := by
  induction numbers generalizing channels with
  | nil => rfl
  | cons first numbers ih =>
    rw [dropSenders, ih]
    by_cases same : first = number
    · subst same
      simp [update, set, Channel.dropSender, Nat.sub_sub, Nat.add_comm]
    · simp [update, set, Ne.symm same, List.count_cons_of_ne same]

end Channels

end PluginSupport
