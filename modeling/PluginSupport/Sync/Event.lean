import PluginSupport.Failure
import PluginSupport.Text.Utf8

/-!
# Synchronisation events

A watcher hears of two kinds of events: a change tells of one key that was put or deleted, a resync
tells of the whole state below the watched prefixes.

Whoever handles an event may be asked to report how it went. `Pending` is an event with the callback
that waits for the report; the callback hears at most once, and hears nothing if the event goes away
unreported or another callback takes its place.
-/
namespace PluginSupport

open Utf8 (Bytes)

/-! ## Events -/

/-- Whether a key was put or deleted. -/
inductive ChangeKind where
  | put
  | delete
deriving DecidableEq, Repr

/-- Name of a kind on the wire. -/
def ChangeKind.name : ChangeKind → String
  | .put => "put"
  | .delete => "delete"

/-- One key was put or deleted. -/
structure ChangeEvent where
  key : String
  kind : ChangeKind
  /-- The new value; none for a deletion. -/
  value : Option Bytes
  /-- The value before, if there was one. -/
  previous : Option Bytes
  /-- Revision of the transport after the change, which is below 2 ^ 63 in practice. -/
  revision : Nat
deriving DecidableEq, Repr

/-- A stored value under its key, with the revision that wrote it. -/
structure KeyValue where
  key : String
  value : Bytes
  revision : Nat
deriving DecidableEq, Repr

/-- The stored values below one prefix. -/
structure ResyncGroup where
  stem : String
  records : List KeyValue
deriving DecidableEq, Repr

/-- The whole state below the watched prefixes: one group for each, in ascending order. -/
structure ResyncEvent where
  groups : List ResyncGroup := []
deriving DecidableEq, Repr

/-! ## Reports -/

/-- What the waiting side of a callback sees. -/
inductive Receipt where
  | success
  | failure (text : String)
  /-- Nothing was sent, and nothing will be. -/
  | abandoned
deriving DecidableEq, Repr

/-- A callback: its number, and whether somebody still waits for it. -/
structure Callback where
  number : Nat
  awaited : Bool
deriving DecidableEq, Repr

/-- An event with the callback that waits for its report, if any. -/
structure Pending (ε : Type) where
  event : ε
  callback : Option Callback := none

namespace Pending

/-- The event with a callback; one that was there before is dropped. -/
def withCallback {ε : Type} (pending : Pending ε) (callback : Callback) : Pending ε :=
  { pending with callback := some callback }

/-- Receipt of an outcome. -/
def receiptOf : Except Failure Unit → Receipt
  | .ok () => .success
  | .error failure => .failure failure.message

/-- Reports sent when the event is done, by callback number. -/
def done {ε : Type} (pending : Pending ε) (outcome : Except Failure Unit) : List (Nat × Receipt) :=
  match pending.callback with
  | some callback => if callback.awaited then [(callback.number, receiptOf outcome)] else []
  | none => []

end Pending

/-- What a callback's waiting side sees once the reports have been sent. -/
def Callback.receipt (reports : List (Nat × Receipt)) (number : Nat) : Receipt :=
  (reports.lookup number).getD .abandoned

end PluginSupport
