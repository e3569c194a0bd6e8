import PluginSupport.Latency.Ledger

/-!
# Tracers

A tracer either keeps a ledger under a name, or is silent: it drops what it is given and always
shows the empty trace. Call sites that may have no tracer use the silent one.
-/
namespace PluginSupport

/-- A named tracer with its ledger, or one that keeps nothing. -/
inductive Tracer where
  | keeping (name : String) (ledger : Ledger)
  | silent
deriving DecidableEq, Repr

namespace Tracer

/-- A tracer with an empty ledger. -/
def new (name : String) : Tracer := .keeping name .empty

/-- The given tracer, or the silent one. -/
def orSilent (tracer? : Option Tracer) : Tracer := tracer?.getD .silent

/-- The tracer after an operation on its ledger. -/
def update (tracer : Tracer) (change : Ledger → Ledger) : Tracer :=
  match tracer with
  | .keeping name ledger => .keeping name (change ledger)
  | .silent => .silent

/-- The tracer with one more entry. -/
def record (tracer : Tracer) (name : String) (duration : Duration) : Tracer :=
  tracer.update (·.record name duration)

/-- The tracer with `count` more entries of the same name and duration. -/
def recordMany (tracer : Tracer) (name : String) (duration : Duration) : (count : Nat) → Tracer
  | 0 => tracer
  | count + 1 => (tracer.record name duration).recordMany name duration count

/-- The tracer with one more entry for the time since `start`, both on the same clock in
nanoseconds; a start that lies ahead counts as no time. -/
def recordSince (tracer : Tracer) (name : String) (start now : Nat) : Tracer :=
  tracer.record name (Duration.ofNanos (now - start))

/-- The tracer without entries. -/
def clear (tracer : Tracer) : Tracer :=
  tracer.update Ledger.clear

/-- What the tracer shows. -/
def snapshot : Tracer → Trace
  | .keeping _ ledger => ledger.snapshot
  | .silent => .empty

/-- Name of a tracer that keeps a ledger. -/
def name? : Tracer → Option String
  | .keeping name _ => some name
  | .silent => none

/-- Number of entries of a tracer that keeps a ledger. -/
def length? : Tracer → Option Nat
  | .keeping _ ledger => some ledger.entries.length
  | .silent => none

end Tracer

end PluginSupport
