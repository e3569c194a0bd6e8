import PluginSupport.Proofs.Json.Cutting
import PluginSupport.Proofs.Latency.Document
import PluginSupport.Proofs.Tls.Reading

/-!
# Documents that are cut short

A written trace, or a written set of TLS settings, is no longer one when its end is missing, and
what its reader reports is just that. So a document that arrives in part can be told from one that
is wrong.

Main result: `cut_documents_end_early`.
-/
namespace PluginSupport

open Json (Misses Value)

theorem TracedEntry.misses_toValue (entry : TracedEntry) :
    Misses (Json.readRecord shape) entry.toValue := by
  have isIndex : (Value.number (Numeral.write 10 entry.index.toNat)).asIndex? = some entry.index :=
    (Value.asIndex?_eq_some_iff _ _).mpr
      ⟨_, rfl, Numeral.read?_write (by decide) (by decide) entry.index.toNat⟩
  refine Json.misses_record isTable (meaning_eq_some_iff.mpr entry.shownBy_toValue) ?_
  simp only [List.forall_mem_cons]
  refine ⟨⟨indexColumn, by simp [columns], rfl, Json.exhausts_index isIndex⟩,
    ⟨nameColumn, by simp [columns], rfl, (Json.misses_text _).exhausts⟩,
    ⟨durationColumn, by simp [columns], rfl, (Json.misses_text _).exhausts⟩, nofun⟩

theorem Average.misses_toValue (average : Average) :
    Misses (Json.readRecord shape) average.toValue := by
  refine Json.misses_record isTable (meaning_eq_some_iff.mpr average.shownBy_toValue) ?_
  simp only [List.forall_mem_cons]
  exact ⟨⟨nameColumn, by simp [columns], rfl, (Json.misses_text _).exhausts⟩,
    ⟨timeColumn, by simp [columns], rfl, (Json.misses_text _).exhausts⟩, nofun⟩

theorem Trace.misses_toValue (trace : Trace) :
    Misses (Json.readRecord shape) trace.toValue := by
  have entries : Misses (Json.readList (Json.readRecord TracedEntry.shape))
      (.list (trace.entries.map TracedEntry.toValue)) := by
    refine Json.misses_list (List.forall_mem_map.mpr fun entry _ => ⟨⟨entry, ?_⟩, ?_⟩)
    · exact (Json.decides_record TracedEntry.isTable).accepts
        (TracedEntry.meaning_eq_some_iff.mpr entry.shownBy_toValue)
    · exact entry.misses_toValue.exhausts
  have averages : Misses (Json.readList (Json.readRecord Average.shape))
      (.list (trace.averages.map Average.toValue)) := by
    refine Json.misses_list (List.forall_mem_map.mpr fun average _ => ⟨⟨average, ?_⟩, ?_⟩)
    · exact (Json.decides_record Average.isTable).accepts
        (Average.meaning_eq_some_iff.mpr average.shownBy_toValue)
    · exact average.misses_toValue.exhausts
  refine Json.misses_record isTable (meaning_eq_some_iff.mpr trace.shownBy_toValue) ?_
  simp only [List.forall_mem_cons]
  exact ⟨⟨entriesColumn, by simp [columns], rfl, entries.exhausts⟩,
    ⟨averagesColumn, by simp [columns], rfl, averages.exhausts⟩,
    ⟨overallColumn, by simp [columns], rfl, (Json.misses_text _).exhausts⟩, nofun⟩

theorem TlsSettings.misses_toValue (settings : TlsSettings) :
    Misses (Json.readRecord shape) settings.toValue := by
  have means := meaning_eq_some_iff.mpr ⟨_, settings.givenBy_toValue, rfl⟩
  refine Json.misses_record SettingsDraft.isTable means ?_
  simp only [List.forall_mem_cons]
  exact ⟨⟨SettingsDraft.enabledColumn, by simp [SettingsDraft.columns], rfl,
      (Json.misses_flag _).exhausts⟩,
    ⟨SettingsDraft.skipVerifyColumn, by simp [SettingsDraft.columns], rfl,
      (Json.misses_flag _).exhausts⟩,
    ⟨SettingsDraft.certFileColumn, by simp [SettingsDraft.columns], rfl,
      (Json.misses_text _).exhausts⟩,
    ⟨SettingsDraft.keyFileColumn, by simp [SettingsDraft.columns], rfl,
      (Json.misses_text _).exhausts⟩,
    ⟨SettingsDraft.caFileColumn, by simp [SettingsDraft.columns], rfl,
      (Json.misses_text _).exhausts⟩, nofun⟩

/-- A written document without its end is refused because it ends early, wherever it is cut. -/
theorem cut_documents_end_early :
    (∀ (trace : Trace) (cut : String), cut.toList <+: trace.toJson.toList → cut ≠ trace.toJson →
      ∃ fault, Trace.ofJson cut = .error fault ∧ fault.category = .endOfInput) ∧
    ∀ (settings : TlsSettings) (cut : String), cut.toList <+: settings.toJson.toList →
      cut ≠ settings.toJson →
      ∃ fault, TlsSettings.ofJson cut = .error fault ∧ fault.category = .endOfInput := by
  refine ⟨fun trace cut isFront different => ?_, fun settings cut isFront different => ?_⟩
  · refine trace.misses_toValue.document ?_ isFront different
    rw [Trace.toJson, Value.pretty, String.toList_ofList]
    exact trace.printable_toValue 0
  · refine settings.misses_toValue.document ?_ isFront different
    rw [TlsSettings.toJson, Value.compact, String.toList_ofList]
    exact settings.spells_toValue

/-- A trace whose only name has to be escaped. -/
def escapedTrace : Trace := ⟨[⟨12, "\x01", "1ms"⟩], [], "1ms"⟩

/-- The hypotheses of `cut_documents_end_early` at a cut between the digits of an index, at one in
an escape, and at one in a word. -/
theorem cut_documents_end_early_inside :
    (∃ fault, Trace.ofJson "\x7b\n  \"tracedEntries\": [\n    \x7b\n      \"index\": 1" =
        .error fault ∧ fault.category = .endOfInput) ∧
      (∃ fault, Trace.ofJson
        "\x7b\n  \"tracedEntries\": [\n    \x7b\n      \"index\": 12,\n      \"msgName\": \"\\u00" =
        .error fault ∧ fault.category = .endOfInput) ∧
      ∃ fault, TlsSettings.ofJson "\x7b\"enabled\":tr" = .error fault ∧
        fault.category = .endOfInput := by
  have shorter : ∀ {cut text : String}, cut.toList.length < text.toList.length → cut ≠ text := by
    rintro cut _ less rfl
    exact Nat.lt_irrefl _ less
  refine ⟨cut_documents_end_early.1 escapedTrace _ ?_ (shorter ?_),
    cut_documents_end_early.1 escapedTrace _ ?_ (shorter ?_),
    cut_documents_end_early.2 { enabled := true } _ ?_ (shorter ?_)⟩
  all_goals
    simp only [Trace.toJson, TlsSettings.toJson, Value.pretty, Value.compact, String.toList_ofList,
      String.reduceToList]
    decide +kernel

end PluginSupport
