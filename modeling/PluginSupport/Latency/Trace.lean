import PluginSupport.Latency.Duration

/-!
# Traces

A trace is what a tracer shows of its ledger: every recorded entry, the average of every name, and
the overall time, with durations as text.
-/
namespace PluginSupport

/-- A recorded entry as shown. -/
structure TracedEntry where
  index : UInt32
  name : String
  duration : String
deriving DecidableEq, Repr

/-- Average time of the entries with one name. -/
structure Average where
  name : String
  time : String
deriving DecidableEq, Repr

/-- A snapshot of a ledger. -/
structure Trace where
  entries : List TracedEntry
  averages : List Average
  overall : String
deriving DecidableEq, Repr

namespace Trace

/-- Snapshot of an empty ledger. -/
def empty : Trace := ⟨[], [], Duration.zero.text⟩

/-- Average time shown for a name; the first one counts. -/
def averageFor (trace : Trace) (name : String) : Option String :=
  (trace.averages.find? fun average => average.name = name).map Average.time

end Trace

end PluginSupport
