import PluginSupport.Json.Record
import PluginSupport.Latency.Trace

/-!
# Wire form of traces

Traces as JSON documents. Writing puts every field, in the order of the shapes below, one per line.
Reading takes records in object or list form and needs every field once.
-/
namespace PluginSupport

open Json (Field Shape Value)

/-! ## Writing -/

/-- Member of an object with a text as its value. -/
def textMember (name text : String) : List Char × Value :=
  (name.toList, .text text.toList)

/-- JSON value of an entry. -/
def TracedEntry.toValue (entry : TracedEntry) : Value :=
  .object [("index".toList, .number (Numeral.write 10 entry.index.toNat)),
    textMember "msgName" entry.name, textMember "duration" entry.duration]

/-- JSON value of an average. -/
def Average.toValue (average : Average) : Value :=
  .object [textMember "msgName" average.name, textMember "averageTime" average.time]

namespace Trace

/-- JSON value of a trace. -/
def toValue (trace : Trace) : Value :=
  .object [("tracedEntries".toList, .list (trace.entries.map TracedEntry.toValue)),
    ("averageTimes".toList, .list (trace.averages.map Average.toValue)),
    textMember "overall" trace.overall]

/-- Document of a trace. -/
def toJson (trace : Trace) : String :=
  trace.toValue.pretty

end Trace

/-! ## Reading -/

/-- Fields of an entry met so far. -/
structure EntryDraft where
  index : Option UInt32 := none
  name : Option String := none
  duration : Option String := none

/-- Record shape of an entry. -/
def TracedEntry.shape : Shape EntryDraft TracedEntry where
  fields := [
    .make "index" EntryDraft.index (fun draft a => { draft with index := some a }) Json.readIndex,
    .make "msgName" EntryDraft.name (fun draft a => { draft with name := some a }) Json.readText,
    .make "duration" EntryDraft.duration (fun draft a => { draft with duration := some a })
      Json.readText]
  start := {}
  finish draft := do
    let index ← Json.require "index" draft.index
    let name ← Json.require "msgName" draft.name
    let duration ← Json.require "duration" draft.duration
    return ⟨index, name, duration⟩

/-- Fields of an average met so far. -/
structure AverageDraft where
  name : Option String := none
  time : Option String := none

/-- Record shape of an average. -/
def Average.shape : Shape AverageDraft Average where
  fields := [
    .make "msgName" AverageDraft.name (fun draft a => { draft with name := some a }) Json.readText,
    .make "averageTime" AverageDraft.time (fun draft a => { draft with time := some a })
      Json.readText]
  start := {}
  finish draft := do
    let name ← Json.require "msgName" draft.name
    let time ← Json.require "averageTime" draft.time
    return ⟨name, time⟩

/-- Fields of a trace met so far. -/
structure TraceDraft where
  entries : Option (List TracedEntry) := none
  averages : Option (List Average) := none
  overall : Option String := none

namespace Trace

/-- Record shape of a trace. -/
def shape : Shape TraceDraft Trace where
  fields := [
    .make "tracedEntries" TraceDraft.entries (fun draft a => { draft with entries := some a })
      (Json.readList (Json.readRecord TracedEntry.shape)),
    .make "averageTimes" TraceDraft.averages (fun draft a => { draft with averages := some a })
      (Json.readList (Json.readRecord Average.shape)),
    .make "overall" TraceDraft.overall (fun draft a => { draft with overall := some a })
      Json.readText]
  start := {}
  finish draft := do
    let entries ← Json.require "tracedEntries" draft.entries
    let averages ← Json.require "averageTimes" draft.averages
    let overall ← Json.require "overall" draft.overall
    return ⟨entries, averages, overall⟩

/-- Trace of a document. -/
def ofJson (text : String) : Except Json.Fault Trace :=
  Json.document (Json.readRecord shape) text.toList

end Trace

end PluginSupport
