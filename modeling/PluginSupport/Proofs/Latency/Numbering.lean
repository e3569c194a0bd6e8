import Mathlib.Data.List.DropRight
import Mathlib.Data.List.Induction
import PluginSupport.Latency.Tracer

/-!
# Numbering of ledger entries

What callers do to a tracer is a row of recordings and clearings, in the order in which they take
their turns. Two things evolve along such a row. The entries start anew at every clearing; the
number of the next entry does not, it tells how many recordings there were so far.

* `Ledger.nextIndex_after`, `Ledger.entries_after`: the two of them after any row of actions. The
  number stays at the largest index once it has got there.
* `Tracer.issued`: the indexes that a row of actions gives out, one for each recording.

Main result: `Tracer.snapshot_history`.
-/
namespace PluginSupport

/-- What a caller does to a tracer. -/
inductive TracerAction where
  | record (name : String) (duration : Duration)
  | clear
deriving DecidableEq, Repr

namespace TracerAction

/-- All that a row of actions records, oldest first. -/
def recorded (actions : List TracerAction) : List (String × Duration) :=
  actions.filterMap fun
    | record name duration => some (name, duration)
    | clear => none

/-- The actions behind the last clearing. -/
def sinceClear (actions : List TracerAction) : List TracerAction :=
  actions.rtakeWhile (· ≠ clear)

/-- The actions up to the last clearing, which is the last of them. -/
def untilClear (actions : List TracerAction) : List TracerAction :=
  actions.rdropWhile (· ≠ clear)

variable (actions : List TracerAction) (name : String) (duration : Duration)

theorem recorded_append (first second : List TracerAction) :
    recorded (first ++ second) = recorded first ++ recorded second :=
  List.filterMap_append

theorem recorded_record :
    recorded (actions ++ [record name duration]) = recorded actions ++ [(name, duration)] :=
  recorded_append _ _

theorem recorded_clear : recorded (actions ++ [clear]) = recorded actions :=
  (recorded_append _ _).trans (List.append_nil _)

theorem recorded_eq_append :
    recorded actions = recorded (untilClear actions) ++ recorded (sinceClear actions) := by
  rw [← recorded_append, untilClear, sinceClear, List.rdropWhile_append_rtakeWhile]

theorem sinceClear_record :
    sinceClear (actions ++ [record name duration]) =
      sinceClear actions ++ [record name duration] :=
  List.rtakeWhile_concat_pos _ _ _ (by simp)

theorem untilClear_record :
    untilClear (actions ++ [record name duration]) = untilClear actions :=
  List.rdropWhile_concat_pos _ _ _ (by simp)

theorem sinceClear_clear : sinceClear (actions ++ [clear]) = [] :=
  List.rtakeWhile_concat_neg _ _ _ (by simp)

/-- What came before a clearing does not count. -/
theorem sinceClear_append_clear (before more : List TracerAction) :
    sinceClear (before ++ clear :: more) = sinceClear more := by
  induction more using List.reverseRecOn with
  | nil => exact sinceClear_clear before
  | append_singleton more action ih =>
    rw [← List.cons_append, ← List.append_assoc]
    cases action with
    | record name duration => rw [sinceClear_record, sinceClear_record, ih]
    | clear => rw [sinceClear_clear, sinceClear_clear]

end TracerAction

open TracerAction (recorded sinceClear untilClear)

/-! ## Ledgers -/

namespace Ledger

/-- The largest index. -/
def maxIndex : Nat := UInt32.size - 1

/-- The ledger after an action. -/
def perform (ledger : Ledger) : TracerAction → Ledger
  | .record name duration => ledger.record name duration
  | .clear => ledger.clear

/-- The ledger after a row of actions. -/
def after (ledger : Ledger) (actions : List TracerAction) : Ledger :=
  actions.foldl perform ledger

/-- Entry of the recording that has `earlier` others before it. -/
def entryOf (earlier : Nat) (record : String × Duration) : LedgerEntry :=
  ⟨UInt32.ofNat (min (earlier + 1) maxIndex), record.1, record.2⟩

theorem after_concat (ledger : Ledger) (actions : List TracerAction) (action : TracerAction) :
    ledger.after (actions ++ [action]) = (ledger.after actions).perform action :=
  List.foldl_concat _ _ _ _

theorem toNat_successor (index : UInt32) :
    (successor index).toNat = min (index.toNat + 1) maxIndex := by
  have bound := index.toNat_lt
  have size : UInt32.size = 2 ^ 32 := rfl
  rw [successor, maxIndex]
  split
  · rw [UInt32.toNat_add, UInt32.toNat_one, Nat.mod_eq_of_lt (by omega)]
    omega
  · omega

/-- The number of the next entry counts all recordings, whatever clearings there were. -/
theorem nextIndex_after (actions : List TracerAction) :
    (empty.after actions).nextIndex.toNat = min ((recorded actions).length + 1) maxIndex := by
  induction actions using List.reverseRecOn with
  | nil => rfl
  | append_singleton actions action ih =>
    rw [after_concat]
    cases action with
    | record name duration =>
      rw [perform, record, toNat_successor, ih, TracerAction.recorded_record, List.length_append,
        List.length_singleton]
      omega
    | clear =>
      rw [perform, clear, TracerAction.recorded_clear]
      exact ih

/-- The entries are what was recorded since the last clearing, numbered on from there. -/
theorem entries_after (actions : List TracerAction) :
    (empty.after actions).entries =
      ((recorded (sinceClear actions)).zipIdx (recorded (untilClear actions)).length).map
        fun place => entryOf place.2 place.1 := by
  induction actions using List.reverseRecOn with
  | nil => rfl
  | append_singleton actions action ih =>
    rw [after_concat]
    cases action with
    | record name duration =>
      have counted := congrArg List.length (TracerAction.recorded_eq_append actions)
      rw [List.length_append] at counted
      have given : (empty.after actions).nextIndex =
          UInt32.ofNat (min ((recorded (untilClear actions)).length +
            (recorded (sinceClear actions)).length + 1) maxIndex) := by
        rw [← counted, ← nextIndex_after, UInt32.ofNat_toNat]
      rw [perform, record, TracerAction.sinceClear_record, TracerAction.untilClear_record,
        TracerAction.recorded_record, List.zipIdx_append, List.map_append, ih, given]
      rfl
    | clear =>
      rw [perform, clear, TracerAction.sinceClear_clear]
      rfl

/-- Names and durations of the entries are those of the recordings since the last clearing. -/
theorem records_after (actions : List TracerAction) :
    (empty.after actions).entries.map (fun entry => (entry.name, entry.duration)) =
      recorded (sinceClear actions) := by
  rw [entries_after, List.map_map]
  exact List.zipIdx_map_fst _ _

/-! ## What is shown -/

variable {ledger other : Ledger}

/-- Averages and overall time do not depend on the indexes. -/
theorem snapshot_congr
    (same : ledger.entries.map (fun entry => (entry.name, entry.duration)) =
      other.entries.map fun entry => (entry.name, entry.duration)) :
    ledger.snapshot.averages = other.snapshot.averages ∧
      ledger.snapshot.overall = other.snapshot.overall := by
  have totalsOf : ∀ entries : List LedgerEntry, totals entries =
      (entries.map fun entry => (entry.name, entry.duration)).foldl
        (fun totals record => addToTotals record.1 record.2.toNanos totals) [] := by
    intro entries
    rw [totals, List.foldl_map]
  have overallOf : ∀ entries : List LedgerEntry, overallNanos entries =
      (entries.map fun entry => (entry.name, entry.duration)).foldl
        (fun sum record => addNanos sum record.2.toNanos) 0 := by
    intro entries
    rw [overallNanos, List.foldl_map]
  simp only [snapshot, totalsOf, overallOf, same, and_self]

end Ledger

/-- A shown entry with its index as a number. -/
def TracedEntry.row (entry : TracedEntry) : Nat × String × String :=
  (entry.index.toNat, entry.name, entry.duration)

/-! ## Tracers -/

namespace Tracer

/-- The tracer after an action. -/
def perform (tracer : Tracer) : TracerAction → Tracer
  | .record name duration => tracer.record name duration
  | .clear => tracer.clear

/-- The tracer after a row of actions. -/
def after (tracer : Tracer) (actions : List TracerAction) : Tracer :=
  actions.foldl perform tracer

/-- The indexes that a row of actions gives out: each is the one that the last entry shows right
after it was recorded. -/
def issued (tracer : Tracer) : List TracerAction → List UInt32
  | [] => []
  | .record name duration :: actions =>
    let after := tracer.record name duration
    (after.snapshot.entries.getLast?.map TracedEntry.index).toList ++ after.issued actions
  | .clear :: actions => tracer.clear.issued actions

theorem after_append (tracer : Tracer) (first second : List TracerAction) :
    tracer.after (first ++ second) = (tracer.after first).after second :=
  List.foldl_append

theorem issued_append (tracer : Tracer) (first second : List TracerAction) :
    tracer.issued (first ++ second) =
      tracer.issued first ++ (tracer.after first).issued second := by
  induction first generalizing tracer with
  | nil => rfl
  | cons action first ih =>
    cases action with
    | record name duration =>
      rw [List.cons_append, issued, ih, issued, List.append_assoc]
      rfl
    | clear => exact ih tracer.clear

theorem after_new (name : String) (actions : List TracerAction) :
    (new name).after actions = .keeping name (Ledger.empty.after actions) := by
  induction actions using List.reverseRecOn with
  | nil => rfl
  | append_singleton actions action ih =>
    rw [after_append, ih, Ledger.after_concat]
    cases action <;> rfl

/-- What a new tracer shows is what its ledger shows. -/
theorem snapshot_after (name : String) (actions : List TracerAction) :
    ((new name).after actions).snapshot = (Ledger.empty.after actions).snapshot := by
  rw [after_new]
  rfl

variable {actions : List TracerAction}

/-- One more recording gets the number of recordings so far as its index. -/
theorem issued_record (name : String) (actions : List TracerAction) (entity : String)
    (duration : Duration) :
    ((new name).after actions).issued [.record entity duration] =
      [(Ledger.empty.after actions).nextIndex] := by
  rw [after_new]
  simp [issued, record, update, snapshot, Ledger.snapshot, Ledger.record, Ledger.showEntry]

/-- The indexes that are given out count the recordings. -/
theorem issued_new (name : String) (within : (recorded actions).length ≤ Ledger.maxIndex) :
    ((new name).issued actions).map UInt32.toNat = List.range' 1 (recorded actions).length := by
  induction actions using List.reverseRecOn with
  | nil => rfl
  | append_singleton actions action ih =>
    rw [issued_append, List.map_append]
    cases action with
    | record entity duration =>
      rw [TracerAction.recorded_record, List.length_append, List.length_singleton] at within ⊢
      rw [ih (Nat.le_of_succ_le within), issued_record, List.map_singleton,
        Ledger.nextIndex_after, Nat.min_eq_left within, List.range'_concat, Nat.one_mul,
        Nat.add_comm 1]
    | clear =>
      rw [TracerAction.recorded_clear] at within ⊢
      exact (List.append_nil _).trans (ih within)

/-- The entries that are shown are numbered one after the other. -/
theorem entries_snapshot (name : String) (within : (recorded actions).length ≤ Ledger.maxIndex) :
    ((new name).after actions).snapshot.entries.map TracedEntry.row =
      ((recorded (sinceClear actions)).zipIdx ((recorded (untilClear actions)).length + 1)).map
        fun place => (place.2, place.1.1, place.1.2.text) := by
  have counted := congrArg List.length (TracerAction.recorded_eq_append actions)
  rw [List.length_append] at counted
  rw [snapshot_after, Ledger.snapshot, Ledger.entries_after, List.map_map, List.map_map,
    List.zipIdx_succ, List.map_map]
  refine List.map_congr_left fun place member => ?_
  -- No index has got beyond the largest one.
  have below := List.snd_lt_of_mem_zipIdx member
  have small : min (place.2 + 1) Ledger.maxIndex = place.2 + 1 := by omega
  have fits : place.2 + 1 < UInt32.size := by
    have : Ledger.maxIndex = UInt32.size - 1 := rfl
    have : 0 < UInt32.size := by decide
    omega
  have index : (UInt32.ofNat (place.2 + 1)).toNat = place.2 + 1 := UInt32.toNat_ofNat_of_lt fits
  simp only [Function.comp, Ledger.entryOf, Ledger.showEntry, TracedEntry.row, small, index]

/-! ## Histories -/

/-- What a tracer shows after any row of recordings and clearings, as long as the recordings are no
more than there are indexes.

* The entries are what was recorded since the last clearing, in that order, with names and texts of
  the durations. The `k`-th recording of all has the index `k`, whatever clearings came before it;
  so the indexes that are shown go up by one from entry to entry.
* The indexes that were ever given out count the recordings. Later ones are larger, and none is
  given out twice.
* Behind a clearing all goes on as on a fresh tracer: averages and overall time are the same, and
  the indexes are larger by the number of recordings before it. -/
theorem snapshot_history (name : String) (actions : List TracerAction)
    (within : (recorded actions).length ≤ Ledger.maxIndex) :
    let shown := ((new name).after actions).snapshot
    let earlier := recorded (untilClear actions)
    let kept := recorded (sinceClear actions)
    recorded actions = earlier ++ kept ∧
      shown.entries.map TracedEntry.row =
        ((kept.zipIdx (earlier.length + 1)).map fun place =>
          (place.2, place.1.1, place.1.2.text)) ∧
      shown.entries.map (fun entry => entry.index.toNat) =
        List.range' (earlier.length + 1) kept.length ∧
      ((new name).issued actions).map UInt32.toNat = List.range' 1 (recorded actions).length ∧
      ((new name).issued actions).Pairwise (· < ·) ∧ ((new name).issued actions).Nodup ∧
      (∀ before more, actions = before ++ more →
        ∀ old ∈ (new name).issued before, ∀ index ∈ ((new name).after before).issued more,
          old < index) ∧
      ∀ other before more, actions = before ++ .clear :: more →
        let fresh := ((new other).after more).snapshot
        shown.averages = fresh.averages ∧ shown.overall = fresh.overall ∧
          shown.entries.map TracedEntry.row = fresh.entries.map fun entry =>
            (entry.index.toNat + (recorded before).length, entry.name, entry.duration) := by
  intro shown earlier kept
  have numbered := entries_snapshot name within
  have counted := issued_new name within
  have ascending : ((new name).issued actions).Pairwise (· < ·) := by
    have below : (((new name).issued actions).map UInt32.toNat).Pairwise (· < ·) :=
      counted ▸ List.pairwise_lt_range' 1
    exact (List.pairwise_map.mp below).imp UInt32.lt_iff_toNat_lt.mpr
  refine ⟨TracerAction.recorded_eq_append actions, numbered, ?_, counted, ascending,
    ascending.imp fun before => UInt32.ne_of_lt before, ?_, ?_⟩
  · have indexes := congrArg (List.map Prod.fst) numbered
    rw [List.map_map, List.map_map] at indexes
    exact indexes.trans (List.zipIdx_map_snd _ _)
  · rintro before more rfl old isOld index isLater
    rw [issued_append, List.pairwise_append] at ascending
    exact ascending.2.2 old isOld index isLater
  · rintro other before more rfl fresh
    have sameKept := TracerAction.sinceClear_append_clear before more
    have sameRecords : (Ledger.empty.after (before ++ .clear :: more)).entries.map
          (fun entry => (entry.name, entry.duration)) =
        (Ledger.empty.after more).entries.map fun entry => (entry.name, entry.duration) := by
      rw [Ledger.records_after, Ledger.records_after, sameKept]
    obtain ⟨sameAverages, sameOverall⟩ := Ledger.snapshot_congr sameRecords
    rw [← snapshot_after name, ← snapshot_after other] at sameAverages sameOverall
    refine ⟨sameAverages, sameOverall, ?_⟩
    have all : recorded (before ++ .clear :: more) = recorded before ++ recorded more :=
      TracerAction.recorded_append before (.clear :: more)
    have split := congrArg List.length (TracerAction.recorded_eq_append more)
    have whole := congrArg List.length (TracerAction.recorded_eq_append (before ++ .clear :: more))
    rw [all] at whole within
    simp only [List.length_append, sameKept] at split whole within
    have shift : (recorded (untilClear (before ++ .clear :: more))).length + 1 =
        (recorded before).length + ((recorded (untilClear more)).length + 1) := by omega
    have freshNumbered := entries_snapshot other (Nat.le_of_add_left_le within)
    calc shown.entries.map TracedEntry.row
        = ((recorded (sinceClear more)).zipIdx
            ((recorded before).length + ((recorded (untilClear more)).length + 1))).map
            fun place => (place.2, place.1.1, place.1.2.text) := by
          rw [numbered, sameKept, shift]
      _ = (fresh.entries.map TracedEntry.row).map fun row =>
            (row.1 + (recorded before).length, row.2) := by
          rw [freshNumbered, ← List.map_snd_add_zipIdx_eq_zipIdx, List.map_map, List.map_map]
          rfl
      _ = fresh.entries.map fun entry =>
            (entry.index.toNat + (recorded before).length, entry.name, entry.duration) := by
          rw [List.map_map]
          rfl

/-- Five recordings with a clearing among them. -/
theorem snapshot_history_cleared :
    let milliseconds (n : Nat) : Duration := Duration.ofNanos (n * 1000000)
    let actions : List TracerAction :=
      [.record "a" (milliseconds 10), .record "b" (milliseconds 30), .record "a" (milliseconds 20),
        .clear, .record "c" (milliseconds 1), .record "a" (milliseconds 4)]
    (recorded actions).length ≤ Ledger.maxIndex ∧
      ((new "calls").after actions).snapshot.entries.map TracedEntry.row =
        [(4, "c", (milliseconds 1).text), (5, "a", (milliseconds 4).text)] ∧
      ((new "calls").issued actions).map UInt32.toNat = [1, 2, 3, 4, 5] ∧
      ((new "calls").after actions).snapshot.averages =
        ((new "fresh").after (actions.drop 4)).snapshot.averages := by
  intro milliseconds actions
  have within : (recorded actions).length ≤ Ledger.maxIndex := by decide
  obtain ⟨-, numbered, -, counted, -, -, -, afresh⟩ := snapshot_history "calls" actions within
  have behind : actions = actions.take 3 ++ .clear :: actions.drop 4 := rfl
  exact ⟨within, numbered.trans rfl, counted.trans rfl, (afresh "fresh" _ _ behind).1⟩

end Tracer

end PluginSupport
