import PluginSupport.Latency.Trace

/-!
# Latency ledgers

An append-only list of named durations. Entries are numbered from one in the order in which they
come; clearing the ledger does not reset the numbers. `Ledger.snapshot` shows the ledger as a
`Trace`: averages stand in the order in which their names first appear, rounded down to the
nanosecond.
-/
namespace PluginSupport

/-- A recorded entry. -/
structure LedgerEntry where
  index : UInt32
  name : String
  duration : Duration
deriving DecidableEq, Repr

/-- Entries recorded since the last clearing, and the number of the next entry. -/
structure Ledger where
  nextIndex : UInt32
  entries : List LedgerEntry
deriving DecidableEq, Repr

/-- Nanoseconds of the entries with one name, and how many there are. -/
structure Total where
  name : String
  nanos : Nat
  count : Nat
deriving DecidableEq, Repr

namespace Ledger

/-- A ledger without entries; numbering starts at one. -/
def empty : Ledger := ⟨1, []⟩

/-- Number after a number; the largest one is its own successor. -/
def successor (index : UInt32) : UInt32 :=
  if index.toNat + 1 < UInt32.size then index + 1 else index

/-- The ledger with one more entry. -/
def record (ledger : Ledger) (name : String) (duration : Duration) : Ledger :=
  ⟨successor ledger.nextIndex, ledger.entries ++ [⟨ledger.nextIndex, name, duration⟩]⟩

/-- The ledger without its entries; numbering goes on. -/
def clear (ledger : Ledger) : Ledger :=
  { ledger with entries := [] }

/-- Largest sum of nanoseconds that is kept. -/
def maxSum : Nat := UInt64.size * UInt64.size - 1

/-- Sum of nanoseconds, cut to the largest one. -/
def addNanos (a b : Nat) : Nat :=
  min (a + b) maxSum

/-- Totals with one more entry; a new name goes to the end. -/
def addToTotals (name : String) (nanos : Nat) : List Total → List Total
  | [] => [⟨name, addNanos 0 nanos, 1⟩]
  | total :: totals =>
    if total.name = name then ⟨name, addNanos total.nanos nanos, total.count + 1⟩ :: totals
    else total :: addToTotals name nanos totals

/-- Total of every name, in the order of first appearance. -/
def totals (entries : List LedgerEntry) : List Total :=
  entries.foldl (fun totals entry => addToTotals entry.name entry.duration.toNanos totals) []

/-- Nanoseconds of all entries. -/
def overallNanos (entries : List LedgerEntry) : Nat :=
  entries.foldl (fun sum entry => addNanos sum entry.duration.toNanos) 0

/-- Average of a total, rounded down to the nanosecond. -/
def averageOf (total : Total) : Average :=
  ⟨total.name, (Duration.ofNanos (total.nanos / total.count)).text⟩

/-- Entry as shown. -/
def showEntry (entry : LedgerEntry) : TracedEntry :=
  ⟨entry.index, entry.name, entry.duration.text⟩

/-- The ledger as shown. -/
def snapshot (ledger : Ledger) : Trace where
  entries := ledger.entries.map showEntry
  averages := (totals ledger.entries).map averageOf
  overall := (Duration.ofNanos (overallNanos ledger.entries)).text

end Ledger

end PluginSupport
