import PluginSupport.Proofs.Latency.Reading

/-!
# Reading back a written trace

A trace is written as a JSON text of its value (`Trace.printable_toValue`), and that value shows the
trace (`Trace.shownBy_toValue`), so any JSON text of it is read as the trace.

Main result: `Trace.ofJson_toJson`.
-/
namespace PluginSupport

open Json (Accepts Value)

namespace TracedEntry

theorem printable_toValue (entry : TracedEntry) : entry.toValue.Printable := by
  refine Json.printable_object (List.forall_mem_cons.mpr ⟨?_, List.forall_mem_cons.mpr ⟨?_, ?_⟩⟩)
  · exact Json.printable_number (Json.isNumber_write _)
  · exact Json.printable_text _
  · exact List.forall_mem_singleton.mpr (Json.printable_text _)

theorem shownBy_toValue (entry : TracedEntry) : entry.ShownBy entry.toValue :=
  ⟨⟨_, ⟨_, rfl, rfl⟩, Numeral.read?_write (by decide) (by decide) entry.index.toNat⟩,
    ⟨_, rfl, rfl⟩, ⟨_, rfl, rfl⟩⟩

end TracedEntry

namespace Average

theorem printable_toValue (average : Average) : average.toValue.Printable := by
  refine Json.printable_object (List.forall_mem_cons.mpr ⟨?_, ?_⟩)
  · exact Json.printable_text _
  · exact List.forall_mem_singleton.mpr (Json.printable_text _)

theorem shownBy_toValue (average : Average) : average.ShownBy average.toValue :=
  ⟨⟨_, rfl, rfl⟩, ⟨_, rfl, rfl⟩⟩

end Average

namespace Trace

theorem printable_toValue (trace : Trace) : trace.toValue.Printable := by
  refine Json.printable_object (List.forall_mem_cons.mpr ⟨?_, List.forall_mem_cons.mpr ⟨?_, ?_⟩⟩)
  · exact Json.printable_list (List.forall_mem_map.mpr fun entry _ => entry.printable_toValue)
  · exact Json.printable_list (List.forall_mem_map.mpr fun average _ => average.printable_toValue)
  · exact List.forall_mem_singleton.mpr (Json.printable_text _)

theorem shownBy_toValue (trace : Trace) : trace.ShownBy trace.toValue := by
  have entries : List.Forall₂ (fun item entry => TracedEntry.ShownBy entry item)
      (trace.entries.map TracedEntry.toValue) trace.entries :=
    List.forall₂_map_left_iff.mpr (List.forall₂_same.mpr fun entry _ => entry.shownBy_toValue)
  have averages : List.Forall₂ (fun item average => Average.ShownBy average item)
      (trace.averages.map Average.toValue) trace.averages :=
    List.forall₂_map_left_iff.mpr (List.forall₂_same.mpr fun average _ => average.shownBy_toValue)
  exact ⟨⟨_, ⟨_, rfl, rfl⟩, entries⟩, ⟨_, ⟨_, rfl, rfl⟩, averages⟩, ⟨_, rfl, rfl⟩⟩

theorem accepts_toValue (trace : Trace) : Accepts (Json.readRecord shape) trace.toValue trace :=
  (Json.decides_record isTable).accepts (meaning_eq_some_iff.mpr trace.shownBy_toValue)

/-- A trace is read back from its document, whatever its texts contain. -/
theorem ofJson_toJson (trace : Trace) : ofJson trace.toJson = .ok trace := by
  rw [ofJson, toJson, Value.pretty, String.toList_ofList]
  exact Json.document_of_spells trace.accepts_toValue (trace.printable_toValue 0)

end Trace

end PluginSupport
