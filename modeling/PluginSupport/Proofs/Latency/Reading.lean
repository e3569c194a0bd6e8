import PluginSupport.Latency.Wire
import PluginSupport.Proofs.Json.Schema
import PluginSupport.Proofs.Json.Writing

/-!
# Which documents are read as a trace

A trace is read out of a value that gives each of its fields exactly once, at every level
(`Trace.ShownBy`): an object with any other members beside the fields, in any order, or the list of
the fields' values. Texts are strings, lists are lists, and an index is a row of digits that denotes
a number below 2³².

Main result: `Trace.ofJson_exact`. Exactly these documents are accepted, each as the trace that it
shows; a misfit at any level makes a document refused; and rewording a document, at any level,
changes nothing.
-/
namespace PluginSupport

open Json (Column DescribesFields IsDocument Misfit Reworded Rewords Schema Shape Value)

/-! ## Entries -/

namespace TracedEntry

/-- Fields of an entry, in the order of its list form. -/
def fieldNames : List String := ["index", "msgName", "duration"]

/-- Whether a value shows an entry: it gives each field once. -/
structure ShownBy (entry : TracedEntry) (value : Value) : Prop where
  index : ∃ lexeme, value.Gives fieldNames "index" (some (.number lexeme)) ∧
    Numeral.read? 10 lexeme = some entry.index.toNat
  name : value.Gives fieldNames "msgName" (some (.text entry.name.toList))
  duration : value.Gives fieldNames "duration" (some (.text entry.duration.toList))

/-- Column of the index. -/
def indexColumn : Column EntryDraft :=
  ⟨"index", EntryDraft.index, fun draft a => { draft with index := some a }, Json.decides_index,
    fun _ _ => rfl⟩

/-- Column of the name. -/
def nameColumn : Column EntryDraft :=
  ⟨"msgName", EntryDraft.name, fun draft a => { draft with name := some a }, Json.decides_text,
    fun _ _ => rfl⟩

/-- Column of the duration. -/
def durationColumn : Column EntryDraft :=
  ⟨"duration", EntryDraft.duration, fun draft a => { draft with duration := some a },
    Json.decides_text, fun _ _ => rfl⟩

/-- Columns of an entry. -/
def columns : List (Column EntryDraft) := [indexColumn, nameColumn, durationColumn]

theorem isTable : shape.IsTable columns where
  nonempty := nofun
  fields := rfl
  apart := by simp [columns, indexColumn, nameColumn, durationColumn, Column.apart_iff]
  unset := by simp [columns, indexColumn, nameColumn, durationColumn, shape]
  ext := by
    rintro ⟨index, name, duration⟩ ⟨index', name', duration'⟩ same
    simpa [columns, indexColumn, nameColumn, durationColumn] using same

theorem finish_eq_ok_iff {draft : EntryDraft} {entry : TracedEntry} :
    shape.finish draft = .ok entry ↔
      draft = ⟨some entry.index, some entry.name, some entry.duration⟩ := by
  obtain ⟨index, name, duration⟩ := draft
  cases entry
  cases index <;> cases name <;> cases duration <;>
    simp [shape, Json.require, bind, Except.bind, pure, Except.pure]

theorem meaning_eq_some_iff {value : Value} {entry : TracedEntry} :
    shape.meaning columns value = some entry ↔ entry.ShownBy value := by
  have names : columns.map Column.name = fieldNames := rfl
  rw [Shape.meaning_eq_some_iff isTable, names]
  simp only [finish_eq_ok_iff, exists_eq_left, columns, List.forall_mem_cons]
  constructor
  · rintro ⟨index, name, duration, -⟩
    obtain ⟨item, gives, means⟩ := (Column.gives_iff_of_get rfl).mp index
    obtain ⟨lexeme, rfl, denotes⟩ := (Value.asIndex?_eq_some_iff _ _).mp means
    have givesName := (Column.gives_iff_of_form Value.asText?_eq_some_iff).mp name
    have givesDuration := (Column.gives_iff_of_form Value.asText?_eq_some_iff).mp duration
    exact ⟨⟨lexeme, gives, denotes⟩, givesName, givesDuration⟩
  · rintro ⟨⟨lexeme, gives, denotes⟩, name, duration⟩
    have means := (Value.asIndex?_eq_some_iff _ _).mpr ⟨lexeme, rfl, denotes⟩
    refine ⟨(Column.gives_iff_of_get rfl).mpr ⟨.number lexeme, gives, means⟩,
      (Column.gives_iff_of_form Value.asText?_eq_some_iff).mpr ?_,
      (Column.gives_iff_of_form Value.asText?_eq_some_iff).mpr ?_, nofun⟩
    · exact name
    · exact duration

/-- Outline of an entry. -/
def schema : Schema := .record true [("index", .index), ("msgName", .text), ("duration", .text)]

theorem describes : schema.Describes (shape.meaning columns) := by
  have fields : DescribesFields [("index", .index), ("msgName", .text), ("duration", .text)]
      columns :=
    .cons ⟨rfl, Json.describes_index⟩ (.cons ⟨rfl, Json.describes_text⟩
      (.cons ⟨rfl, Json.describes_text⟩ .nil))
  refine Json.describes_record isTable (fun _ draft entry finished => ?_) fields
  obtain rfl := finish_eq_ok_iff.mp finished
  simp [columns, indexColumn, nameColumn, durationColumn]

end TracedEntry

/-! ## Averages -/

namespace Average

/-- Fields of an average, in the order of its list form. -/
def fieldNames : List String := ["msgName", "averageTime"]

/-- Whether a value shows an average: it gives each field once. -/
structure ShownBy (average : Average) (value : Value) : Prop where
  name : value.Gives fieldNames "msgName" (some (.text average.name.toList))
  time : value.Gives fieldNames "averageTime" (some (.text average.time.toList))

/-- Column of the name. -/
def nameColumn : Column AverageDraft :=
  ⟨"msgName", AverageDraft.name, fun draft a => { draft with name := some a }, Json.decides_text,
    fun _ _ => rfl⟩

/-- Column of the time. -/
def timeColumn : Column AverageDraft :=
  ⟨"averageTime", AverageDraft.time, fun draft a => { draft with time := some a },
    Json.decides_text, fun _ _ => rfl⟩

/-- Columns of an average. -/
def columns : List (Column AverageDraft) := [nameColumn, timeColumn]

theorem isTable : shape.IsTable columns where
  nonempty := nofun
  fields := rfl
  apart := by simp [columns, nameColumn, timeColumn, Column.apart_iff]
  unset := by simp [columns, nameColumn, timeColumn, shape]
  ext := by
    rintro ⟨name, time⟩ ⟨name', time'⟩ same
    simpa [columns, nameColumn, timeColumn] using same

theorem finish_eq_ok_iff {draft : AverageDraft} {average : Average} :
    shape.finish draft = .ok average ↔ draft = ⟨some average.name, some average.time⟩ := by
  obtain ⟨name, time⟩ := draft
  cases average
  cases name <;> cases time <;>
    simp [shape, Json.require, bind, Except.bind, pure, Except.pure]

theorem meaning_eq_some_iff {value : Value} {average : Average} :
    shape.meaning columns value = some average ↔ average.ShownBy value := by
  have names : columns.map Column.name = fieldNames := rfl
  rw [Shape.meaning_eq_some_iff isTable, names]
  simp only [finish_eq_ok_iff, exists_eq_left, columns, List.forall_mem_cons]
  constructor
  · rintro ⟨name, time, -⟩
    have givesName := (Column.gives_iff_of_form Value.asText?_eq_some_iff).mp name
    have givesTime := (Column.gives_iff_of_form Value.asText?_eq_some_iff).mp time
    exact ⟨givesName, givesTime⟩
  · rintro ⟨name, time⟩
    refine ⟨(Column.gives_iff_of_form Value.asText?_eq_some_iff).mpr ?_,
      (Column.gives_iff_of_form Value.asText?_eq_some_iff).mpr ?_, nofun⟩
    · exact name
    · exact time

/-- Outline of an average. -/
def schema : Schema := .record true [("msgName", .text), ("averageTime", .text)]

theorem describes : schema.Describes (shape.meaning columns) := by
  have fields : DescribesFields [("msgName", .text), ("averageTime", .text)] columns :=
    .cons ⟨rfl, Json.describes_text⟩ (.cons ⟨rfl, Json.describes_text⟩ .nil)
  refine Json.describes_record isTable (fun _ draft average finished => ?_) fields
  obtain rfl := finish_eq_ok_iff.mp finished
  simp [columns, nameColumn, timeColumn]

end Average

/-! ## Traces -/

namespace Trace

/-- Fields of a trace, in the order of its list form. -/
def fieldNames : List String := ["tracedEntries", "averageTimes", "overall"]

/-- Whether a value shows a trace: it gives each field once, and the items of its lists show the
entries and the averages. -/
structure ShownBy (trace : Trace) (value : Value) : Prop where
  entries : ∃ items, value.Gives fieldNames "tracedEntries" (some (.list items)) ∧
    List.Forall₂ (fun item entry => TracedEntry.ShownBy entry item) items trace.entries
  averages : ∃ items, value.Gives fieldNames "averageTimes" (some (.list items)) ∧
    List.Forall₂ (fun item average => Average.ShownBy average item) items trace.averages
  overall : value.Gives fieldNames "overall" (some (.text trace.overall.toList))

/-- Column of the entries. -/
def entriesColumn : Column TraceDraft :=
  ⟨"tracedEntries", TraceDraft.entries, fun draft a => { draft with entries := some a },
    Json.decides_list (Json.decides_record TracedEntry.isTable), fun _ _ => rfl⟩

/-- Column of the averages. -/
def averagesColumn : Column TraceDraft :=
  ⟨"averageTimes", TraceDraft.averages, fun draft a => { draft with averages := some a },
    Json.decides_list (Json.decides_record Average.isTable), fun _ _ => rfl⟩

/-- Column of the overall time. -/
def overallColumn : Column TraceDraft :=
  ⟨"overall", TraceDraft.overall, fun draft a => { draft with overall := some a },
    Json.decides_text, fun _ _ => rfl⟩

/-- Columns of a trace. -/
def columns : List (Column TraceDraft) := [entriesColumn, averagesColumn, overallColumn]

theorem isTable : shape.IsTable columns where
  nonempty := nofun
  fields := rfl
  apart := by simp [columns, entriesColumn, averagesColumn, overallColumn, Column.apart_iff]
  unset := by simp [columns, entriesColumn, averagesColumn, overallColumn, shape]
  ext := by
    rintro ⟨entries, averages, overall⟩ ⟨entries', averages', overall'⟩ same
    simpa [columns, entriesColumn, averagesColumn, overallColumn] using same

theorem finish_eq_ok_iff {draft : TraceDraft} {trace : Trace} :
    shape.finish draft = .ok trace ↔
      draft = ⟨some trace.entries, some trace.averages, some trace.overall⟩ := by
  obtain ⟨entries, averages, overall⟩ := draft
  cases trace
  cases entries <;> cases averages <;> cases overall <;>
    simp [shape, Json.require, bind, Except.bind, pure, Except.pure]

theorem entriesColumn_meaning {value : Value} {entries : List TracedEntry} :
    entriesColumn.meaning value = some entries ↔ ∃ items, value = .list items ∧
      List.Forall₂ (fun item entry => TracedEntry.ShownBy entry item) items entries := by
  simp only [← TracedEntry.meaning_eq_some_iff]
  exact Value.asList?_eq_some_iff _ _ _

theorem averagesColumn_meaning {value : Value} {averages : List Average} :
    averagesColumn.meaning value = some averages ↔ ∃ items, value = .list items ∧
      List.Forall₂ (fun item average => Average.ShownBy average item) items averages := by
  simp only [← Average.meaning_eq_some_iff]
  exact Value.asList?_eq_some_iff _ _ _

theorem meaning_eq_some_iff {value : Value} {trace : Trace} :
    shape.meaning columns value = some trace ↔ trace.ShownBy value := by
  have names : columns.map Column.name = fieldNames := rfl
  rw [Shape.meaning_eq_some_iff isTable, names]
  simp only [finish_eq_ok_iff, exists_eq_left, columns, List.forall_mem_cons]
  constructor
  · rintro ⟨entries, averages, overall, -⟩
    obtain ⟨_, givesEntries, meansEntries⟩ := (Column.gives_iff_of_get rfl).mp entries
    obtain ⟨items, rfl, shownEntries⟩ := entriesColumn_meaning.mp meansEntries
    obtain ⟨_, givesAverages, meansAverages⟩ := (Column.gives_iff_of_get rfl).mp averages
    obtain ⟨others, rfl, shownAverages⟩ := averagesColumn_meaning.mp meansAverages
    have givesOverall := (Column.gives_iff_of_form Value.asText?_eq_some_iff).mp overall
    exact ⟨⟨items, givesEntries, shownEntries⟩, ⟨others, givesAverages, shownAverages⟩,
      givesOverall⟩
  · rintro ⟨⟨items, givesEntries, shownEntries⟩, ⟨others, givesAverages, shownAverages⟩, overall⟩
    have meansEntries := entriesColumn_meaning.mpr ⟨items, rfl, shownEntries⟩
    have meansAverages := averagesColumn_meaning.mpr ⟨others, rfl, shownAverages⟩
    refine ⟨(Column.gives_iff_of_get rfl).mpr ⟨_, givesEntries, meansEntries⟩,
      (Column.gives_iff_of_get rfl).mpr ⟨_, givesAverages, meansAverages⟩,
      (Column.gives_iff_of_form Value.asText?_eq_some_iff).mpr ?_, nofun⟩
    exact overall

/-- Outline of a trace. -/
def schema : Schema :=
  .record true [("tracedEntries", .list TracedEntry.schema), ("averageTimes", .list Average.schema),
    ("overall", .text)]

theorem describes : schema.Describes (shape.meaning columns) := by
  have fields : DescribesFields [("tracedEntries", .list TracedEntry.schema),
      ("averageTimes", .list Average.schema), ("overall", .text)] columns :=
    .cons ⟨rfl, Json.describes_list TracedEntry.describes⟩
      (.cons ⟨rfl, Json.describes_list Average.describes⟩
        (.cons ⟨rfl, Json.describes_text⟩ .nil))
  refine Json.describes_record isTable (fun _ draft trace finished => ?_) fields
  obtain rfl := finish_eq_ok_iff.mp finished
  simp [columns, entriesColumn, averagesColumn, overallColumn]

theorem toOption_ofJson {text : String} {value : Value} (isDocument : IsDocument text value) :
    (ofJson text).toOption = shape.meaning columns value :=
  (Json.decides_record isTable).document isDocument

/-- A document is read as the trace that it shows, if it shows one. It is refused if anything in it
does not fit, and rewording it changes nothing. -/
theorem ofJson_exact {text : String} {value : Value} (isDocument : IsDocument text value) :
    (∀ trace, ofJson text = .ok trace ↔ trace.ShownBy value) ∧
      (Misfit schema value → ∃ fault, ofJson text = .error fault) ∧
      ∀ ⦃otherText : String⦄ ⦃other : Value⦄, IsDocument otherText other →
        Reworded schema value other →
        ∀ trace, ofJson otherText = .ok trace ↔ ofJson text = .ok trace := by
  have read := toOption_ofJson isDocument
  refine ⟨fun trace => ?_, fun misfit => ?_, fun otherText other isOther reworded trace => ?_⟩
  · rw [← Json.toOption_eq_some_iff, read, meaning_eq_some_iff]
  · exact Json.exists_error_of_toOption (read.trans (describes.rejects misfit))
  · rw [← Json.toOption_eq_some_iff, ← Json.toOption_eq_some_iff, read, toOption_ofJson isOther,
      describes.eq_of_reworded reworded]

/-- Trace with one entry. -/
def sample : Trace := ⟨[⟨7, "load", "1ms"⟩], [], "1ms"⟩

/-- Value that shows the sample, with its members in the order of the fields. -/
def orderedValue : Value :=
  .object [("tracedEntries".toList, .list [.object [("index".toList, .number "7".toList),
      textMember "msgName" "load", textMember "duration" "1ms"]]),
    ("averageTimes".toList, .list []), textMember "overall" "1ms"]

/-- The same in another order behind an unknown member, and with the entry in list form. -/
def rewordedValue : Value :=
  .object [("note".toList, .list [.null, .object []]), textMember "overall" "1ms",
    ("averageTimes".toList, .list []), ("tracedEntries".toList,
      .list [.list [.number "7".toList, .text "load".toList, .text "1ms".toList]])]

theorem shownBy_rewordedValue : sample.ShownBy rewordedValue := by
  have entry : TracedEntry.ShownBy ⟨7, "load", "1ms"⟩
      (.list [.number "7".toList, .text "load".toList, .text "1ms".toList]) :=
    ⟨⟨_, ⟨_, rfl, rfl⟩, rfl⟩, ⟨_, rfl, rfl⟩, ⟨_, rfl, rfl⟩⟩
  exact ⟨⟨_, ⟨_, rfl, rfl⟩, .cons entry .nil⟩, ⟨[], ⟨_, rfl, rfl⟩, .nil⟩, ⟨_, rfl, rfl⟩⟩

theorem reworded_orderedValue : Reworded schema orderedValue rewordedValue := by
  have entry : Rewords TracedEntry.schema
      (.object [("index".toList, .number "7".toList), textMember "msgName" "load",
        textMember "duration" "1ms"])
      (.list [.number "7".toList, .text "load".toList, .text "1ms".toList]) :=
    @Rewords.form true [("index", .index), ("msgName", .text), ("duration", .text)]
      [.number "7".toList, .text "load".toList, .text "1ms".toList] rfl
  have entries : Rewords schema orderedValue _ :=
    @Rewords.member _ _ "tracedEntries" _ [] _ _ _ (by simp) (@Rewords.item _ [] [] _ _ entry)
  -- Then the members change places, and one is added.
  refine .trans _ _ _ (.rel _ _ entries) (.trans _ _ _ (.rel _ _ ?_) (.rel _ _ (.unknown ?_)))
  · exact .reorder (List.reverse_perm _).symm
  · decide

theorem printable_seven : (Value.number "7".toList).Printable := by
  have seven : Json.Digits ['7'] := ⟨nofun, by simp⟩
  exact Json.printable_number (seven.isNumber fun _ => Nat.le_refl 1)

theorem printable_orderedValue : orderedValue.Printable := by
  refine Json.printable_object ?_
  simp only [List.forall_mem_cons]
  refine ⟨Json.printable_list ?_, Json.printable_list nofun, Json.printable_text _, nofun⟩
  refine List.forall_mem_singleton.mpr (Json.printable_object ?_)
  simp only [List.forall_mem_cons]
  exact ⟨printable_seven, Json.printable_text _, Json.printable_text _, nofun⟩

theorem printable_rewordedValue : rewordedValue.Printable := by
  refine Json.printable_object ?_
  simp only [List.forall_mem_cons]
  refine ⟨Json.printable_list ?_, Json.printable_text _, Json.printable_list nofun,
    Json.printable_list ?_, nofun⟩
  · simp only [List.forall_mem_cons]
    exact ⟨fun _ => .null, Json.printable_object nofun, nofun⟩
  · refine List.forall_mem_singleton.mpr (Json.printable_list ?_)
    simp only [List.forall_mem_cons]
    exact ⟨printable_seven, Json.printable_text _, Json.printable_text _, nofun⟩

/-- The hypotheses of `ofJson_exact` at the sample, at a rewording, and at a misfit. -/
theorem ofJson_exact_sample :
    ofJson rewordedValue.pretty = .ok sample ∧
      (∃ fault, ofJson Value.null.pretty = .error fault) ∧
      ∀ trace,
        ofJson rewordedValue.pretty = .ok trace ↔ ofJson orderedValue.pretty = .ok trace := by
  have reworded := Json.isDocument_pretty printable_rewordedValue
  have ordered := Json.isDocument_pretty printable_orderedValue
  have null : IsDocument Value.null.pretty .null := Json.isDocument_pretty fun _ => .null
  refine ⟨((ofJson_exact reworded).1 sample).mpr shownBy_rewordedValue, ?_, ?_⟩
  · exact (ofJson_exact null).2.1 (.record rfl)
  · exact (ofJson_exact ordered).2.2 reworded reworded_orderedValue

end Trace

end PluginSupport
