import Mathlib.Algebra.GroupWithZero.Nat
import Mathlib.Algebra.Order.BigOperators.Group.List
import Mathlib.Algebra.Order.Group.Nat
import PluginSupport.Latency.Tracer
import PluginSupport.Proofs.FirstAppearance

/-!
# Totals of a ledger

What a snapshot makes of all durations taken together, and of those under one name. Sums are kept in
a bounded number, which saturates: a running sum is the exact one, cut to the largest
(`overallNanos_eq`, `totals_eq`). A ledger of up to 2³⁴ entries stays below that bound however long
the entries are, so two things are left to see to:

* an average is no longer than the longest entry, hence a duration (`averages_exact`);
* the overall time may be more than any duration. Then the seconds stay at the largest number, and
  the nanoseconds go on as if they did not (`overall_exact`), so it can get shorter by one more
  entry (`overall_shrinks`).
-/
namespace PluginSupport

namespace Duration

/-- The longest duration. -/
def longest : Duration := ⟨UInt64.ofNat (UInt64.size - 1), ⟨nanosPerSecond - 1, by decide⟩⟩

theorem toNanos_longest : longest.toNanos = UInt64.size * nanosPerSecond - 1 := by decide

theorem toNanos_le_longest (d : Duration) : d.toNanos ≤ longest.toNanos := by
  have seconds : d.secs.toNat < UInt64.size := d.secs.toNat_lt
  have nanos := d.nanos.isLt
  rw [toNanos_longest, toNanos]
  simp only [nanosPerSecond, UInt64.size] at *
  omega

theorem secs_ofNanos (n : Nat) :
    (ofNanos n).secs.toNat = min (n / nanosPerSecond) (UInt64.size - 1) :=
  UInt64.toNat_ofNat_of_lt (Nat.lt_of_le_of_lt (Nat.min_le_right _ _) (by decide))

/-- A number of nanoseconds that is not too large is the length of its duration. -/
theorem toNanos_ofNanos {n : Nat} (fits : n ≤ longest.toNanos) : (ofNanos n).toNanos = n := by
  have seconds : n / nanosPerSecond ≤ UInt64.size - 1 := by
    rw [toNanos_longest] at fits
    simp only [nanosPerSecond, UInt64.size] at *
    omega
  rw [toNanos, secs_ofNanos, Nat.min_eq_left seconds]
  exact Nat.div_add_mod' n nanosPerSecond

/-- Any number of nanoseconds, cut to the longest duration, is met up to less than a second. -/
theorem toNanos_ofNanos_near (n : Nat) :
    (ofNanos n).toNanos ≤ min n longest.toNanos ∧
      min n longest.toNanos < (ofNanos n).toNanos + nanosPerSecond := by
  have nanos : ((ofNanos n).nanos : Nat) = n % nanosPerSecond := rfl
  rw [toNanos, secs_ofNanos, nanos, toNanos_longest]
  simp only [nanosPerSecond, UInt64.size]
  omega

/-- It is met exactly if it need not be cut, or if its part below a second is the largest. -/
theorem toNanos_ofNanos_eq_min_iff (n : Nat) :
    (ofNanos n).toNanos = min n longest.toNanos ↔
      n ≤ longest.toNanos ∨ n % nanosPerSecond = nanosPerSecond - 1 := by
  have nanos : ((ofNanos n).nanos : Nat) = n % nanosPerSecond := rfl
  rw [toNanos, secs_ofNanos, nanos, toNanos_longest]
  simp only [nanosPerSecond, UInt64.size]
  omega

/-- More nanoseconds never make fewer seconds. -/
theorem secs_ofNanos_mono {m n : Nat} (le : m ≤ n) : (ofNanos m).secs ≤ (ofNanos n).secs := by
  have quotients : m / nanosPerSecond ≤ n / nanosPerSecond := Nat.div_le_div_right le
  rw [UInt64.le_iff_toNat_le, secs_ofNanos, secs_ofNanos]
  omega

end Duration

open Duration (longest)

namespace Ledger

/-- Nanoseconds of entries. -/
def nanosOf (entries : List LedgerEntry) : Nat :=
  (entries.map fun entry => entry.duration.toNanos).sum

/-- The entries with a name. -/
def under (entries : List LedgerEntry) (name : String) : List LedgerEntry :=
  entries.filter fun entry => entry.name = name

variable {entries : List LedgerEntry} {name : String}

/-! ## Sums -/

theorem nanosOf_concat (entries : List LedgerEntry) (entry : LedgerEntry) :
    nanosOf (entries ++ [entry]) = nanosOf entries + entry.duration.toNanos := by
  simp [nanosOf]

theorem nanosOf_le (entries : List LedgerEntry) :
    nanosOf entries ≤ entries.length * longest.toNanos := by
  have bound := List.sum_le_card_nsmul (entries.map fun entry => entry.duration.toNanos)
    longest.toNanos
  rw [List.length_map] at bound
  refine bound fun nanos member => ?_
  obtain ⟨entry, -, rfl⟩ := List.mem_map.mp member
  exact entry.duration.toNanos_le_longest

/-- A sum of so few durations is kept exactly. -/
theorem nanosOf_le_maxSum (within : entries.length ≤ 2 ^ 34) : nanosOf entries ≤ maxSum :=
  calc nanosOf entries ≤ entries.length * longest.toNanos := nanosOf_le entries
    _ ≤ 2 ^ 34 * longest.toNanos := Nat.mul_le_mul_right _ within
    _ ≤ maxSum := by decide

/-- Cutting a sum on the way is as good as cutting it at the end. -/
theorem addNanos_min (a b : Nat) : addNanos (min a maxSum) b = min (a + b) maxSum := by
  rw [addNanos]
  omega

/-- The overall time is the sum of all entries, cut to the largest sum. -/
theorem overallNanos_eq (entries : List LedgerEntry) :
    overallNanos entries = min (nanosOf entries) maxSum := by
  induction entries using List.reverseRecOn with
  | nil => rfl
  | append_singleton entries entry ih =>
    rw [overallNanos, List.foldl_concat, ← overallNanos, ih, addNanos_min, nanosOf_concat]

/-! ## Totals by name -/

/-- The total of the entries with a name. -/
def totalOf (entries : List LedgerEntry) (name : String) : Total :=
  ⟨name, min (nanosOf (under entries name)) maxSum, (under entries name).length⟩

/-- One more entry goes to the total of its name, and no other. -/
theorem totalOf_concat (entries : List LedgerEntry) (entry : LedgerEntry) (name : String) :
    totalOf (entries ++ [entry]) name =
      if entry.name = name then
        ⟨name, addNanos (totalOf entries name).nanos entry.duration.toNanos,
          (totalOf entries name).count + 1⟩
      else totalOf entries name := by
  split
  · rename_i here
    have added : under (entries ++ [entry]) name = under entries name ++ [entry] := by
      simp [under, here]
    simp only [totalOf, added, nanosOf_concat, addNanos_min, List.length_append,
      List.length_singleton]
  · rename_i elsewhere
    have same : under (entries ++ [entry]) name = under entries name := by
      simp [under, elsewhere]
    rw [totalOf, same, totalOf]

/-- A name that is new gets its first total. -/
theorem totalOf_of_new {entry : LedgerEntry}
    (new : entry.name ∉ entries.map LedgerEntry.name) :
    totalOf (entries ++ [entry]) entry.name =
      ⟨entry.name, addNanos 0 entry.duration.toNanos, 1⟩ := by
  have none : under entries entry.name = [] := by
    refine List.filter_eq_nil_iff.mpr fun other member same => new ?_
    exact List.mem_map.mpr ⟨other, member, by simpa using same⟩
  rw [totalOf_concat, if_pos rfl, totalOf, none]
  rfl

/-- Adding to totals that are there for distinct names. -/
theorem addToTotals_map {names : List String} (distinct : names.Nodup) (total : String → Total)
    (named : ∀ name, (total name).name = name) (name : String) (nanos : Nat) :
    addToTotals name nanos (names.map total) =
      if name ∈ names then
        names.map fun other => if name = other then
          ⟨other, addNanos (total other).nanos nanos, (total other).count + 1⟩
        else total other
      else names.map total ++ [⟨name, addNanos 0 nanos, 1⟩] := by
  induction names with
  | nil => rfl
  | cons first names ih =>
    obtain ⟨notLater, rest⟩ := List.nodup_cons.mp distinct
    rw [List.map_cons, addToTotals, named]
    by_cases here : first = name
    · subst here
      have untouched : ∀ other ∈ names, first ≠ other :=
        fun other member same => notLater (same ▸ member)
      rw [if_pos rfl, if_pos List.mem_cons_self, List.map_cons, if_pos rfl]
      congr 1
      refine List.map_congr_left fun other member => ?_
      rw [if_neg (untouched other member)]
    · rw [if_neg here, ih rest]
      by_cases later : name ∈ names
      · simp [later, Ne.symm here]
      · simp [later, Ne.symm here]

/-- The totals are those of the names, in the order of first appearance. -/
theorem totals_eq (entries : List LedgerEntry) :
    totals entries = (entries.map LedgerEntry.name).eraseDups.map (totalOf entries) := by
  induction entries using List.reverseRecOn with
  | nil => rfl
  | append_singleton entries entry ih =>
    have distinct := List.nodup_eraseDups (entries.map LedgerEntry.name)
    rw [totals, List.foldl_concat, ← totals, ih,
      addToTotals_map distinct (totalOf entries) (fun _ => rfl), List.map_append,
      List.map_singleton, List.eraseDups_concat]
    simp only [List.mem_eraseDups]
    split
    · exact List.map_congr_left fun name _ => (totalOf_concat entries entry name).symm
    · rename_i new
      rw [List.map_append, List.map_singleton, totalOf_of_new new]
      congr 1
      refine List.map_congr_left fun name member => ?_
      have different : entry.name ≠ name :=
        fun same => new (same ▸ List.mem_eraseDups.mp member)
      rw [totalOf_concat, if_neg different]

/-! ## What is shown -/

/-- The overall time that is shown is that of the exact sum. -/
theorem overall_snapshot {ledger : Ledger} (within : ledger.entries.length ≤ 2 ^ 34) :
    ledger.snapshot.overall = (Duration.ofNanos (nanosOf ledger.entries)).text := by
  rw [snapshot, overallNanos_eq, Nat.min_eq_left (nanosOf_le_maxSum within)]

/-- The overall time that is shown of a ledger with up to 2³⁴ entries.

* Its seconds are those of the sum, cut to the largest number; its nanoseconds are those of the sum.
* So it is the sum, as long as this is a duration. Of a larger sum it falls short of the longest
  duration, by less than a second; it reaches that duration just in case the nanoseconds of the sum
  happen to be the largest ones.
* One more entry never makes fewer seconds, nor a shorter time as long as the sum is a duration. -/
theorem overall_exact (ledger : Ledger) (within : ledger.entries.length ≤ 2 ^ 34) :
    let total := nanosOf ledger.entries
    ∃ shown : Duration, ledger.snapshot.overall = shown.text ∧
      shown.secs.toNat = min (total / nanosPerSecond) (UInt64.size - 1) ∧
      shown.nanos.val = total % nanosPerSecond ∧
      (total ≤ longest.toNanos → shown.toNanos = total) ∧
      shown.toNanos ≤ min total longest.toNanos ∧
      min total longest.toNanos < shown.toNanos + nanosPerSecond ∧
      (shown.toNanos = min total longest.toNanos ↔
        total ≤ longest.toNanos ∨ total % nanosPerSecond = nanosPerSecond - 1) ∧
      ∀ name duration, ledger.entries.length < 2 ^ 34 →
        ∃ next : Duration, (ledger.record name duration).snapshot.overall = next.text ∧
          shown.secs ≤ next.secs ∧
          (total + duration.toNanos ≤ longest.toNanos → shown.toNanos ≤ next.toNanos) := by
  intro total
  obtain ⟨short, near⟩ := Duration.toNanos_ofNanos_near total
  refine ⟨.ofNanos total, overall_snapshot within, Duration.secs_ofNanos total, rfl,
    Duration.toNanos_ofNanos, short, near, Duration.toNanos_ofNanos_eq_min_iff total, ?_⟩
  intro name duration room
  have recorded : nanosOf (ledger.record name duration).entries = total + duration.toNanos :=
    nanosOf_concat _ _
  have stillWithin : (ledger.record name duration).entries.length ≤ 2 ^ 34 := by
    simpa [record] using Nat.succ_le_of_lt room
  refine ⟨_, recorded ▸ overall_snapshot stillWithin,
    Duration.secs_ofNanos_mono (Nat.le_add_right _ _), fun fits => ?_⟩
  rw [Duration.toNanos_ofNanos fits, Duration.toNanos_ofNanos (Nat.le_of_add_right_le fits)]
  exact Nat.le_add_right _ _

/-- A ledger whose only entry is as long as an entry can be. -/
def brimful : Ledger := empty.record "a" longest

theorem overall_exact_brimful :
    brimful.entries.length ≤ 2 ^ 34 ∧
      (∃ shown : Duration, brimful.snapshot.overall = shown.text ∧
        shown.toNanos = longest.toNanos) ∧
      ∃ shown : Duration, (brimful.record "b" longest).snapshot.overall = shown.text ∧
        shown.secs = longest.secs ∧ shown.nanos.val = nanosPerSecond - 2 := by
  obtain ⟨full, isShown, -, -, exact, -⟩ := overall_exact brimful (by decide)
  obtain ⟨overfull, isShownOver, seconds, nanos, -⟩ :=
    overall_exact (brimful.record "b" longest) (by decide)
  refine ⟨by decide, ⟨full, isShown, exact (by decide)⟩, overfull, isShownOver, ?_, nanos⟩
  exact UInt64.toNat_inj.mp seconds

/-- Another entry of a nanosecond makes the overall time shorter: it is not the sum cut to the
longest duration any more. -/
theorem overall_shrinks :
    let overfull := brimful.record "b" (.ofNanos 1)
    overfull.entries.length ≤ 2 ^ 34 ∧
      brimful.snapshot.overall = longest.text ∧
      overfull.snapshot.overall = (⟨longest.secs, 0⟩ : Duration).text ∧
      (⟨longest.secs, 0⟩ : Duration).toNanos < longest.toNanos ∧
      overfull.snapshot.overall ≠
        (Duration.ofNanos (min (nanosOf overfull.entries) longest.toNanos)).text := by
  decide +kernel

/-! ## Averages -/

theorem under_ne_nil_iff : under entries name ≠ [] ↔ name ∈ entries.map LedgerEntry.name := by
  simp [under]

/-- The totals of so few entries are exact. -/
theorem totalOf_of_within (within : entries.length ≤ 2 ^ 34) (name : String) :
    totalOf entries name =
      ⟨name, nanosOf (under entries name), (under entries name).length⟩ := by
  have fewer : (under entries name).length ≤ 2 ^ 34 :=
    Nat.le_trans (List.length_filter_le _ _) within
  rw [totalOf, Nat.min_eq_left (nanosOf_le_maxSum fewer)]

/-- An average is no longer than the longest entry can be. -/
theorem mean_le_longest (entries : List LedgerEntry) :
    nanosOf entries / entries.length ≤ longest.toNanos :=
  Nat.div_le_of_le_mul (nanosOf_le entries)

/-- The averages are those of the names, in the order of first appearance. -/
theorem averages_snapshot {ledger : Ledger} (within : ledger.entries.length ≤ 2 ^ 34) :
    ledger.snapshot.averages =
      (ledger.entries.map LedgerEntry.name).eraseDups.map fun name =>
        ⟨name, (Duration.ofNanos (nanosOf (under ledger.entries name) /
          (under ledger.entries name).length)).text⟩ := by
  rw [snapshot, totals_eq, List.map_map]
  refine List.map_congr_left fun name _ => ?_
  rw [Function.comp_apply, totalOf_of_within within, averageOf]

/-- What a trace says of the averages of some names, each once. -/
theorem averageFor_of_averages {trace : Trace} {names : List String} {time : String → String}
    (shown : trace.averages = names.map fun name => ⟨name, time name⟩) (name : String) :
    trace.averageFor name = if name ∈ names then some (time name) else none := by
  rw [Trace.averageFor, shown]
  clear shown
  induction names with
  | nil => rfl
  | cons first names ih =>
    by_cases here : first = name
    · simp [here]
    · rw [List.map_cons, List.find?_cons_of_neg (by simpa using here), ih]
      simp [Ne.symm here]

/-- The averages that are shown of a ledger with up to 2³⁴ entries.

* There is one for each name that stands in the ledger, in the order of first appearance.
* Sums and counts are exact, and no count is zero.
* An average is the sum of the nanoseconds of all entries with its name, divided by their number and
  rounded down, which is the length of a duration; its text is the text of that duration.
* The average told for a name is the one shown of it, and there is none for other names. -/
theorem averages_exact (ledger : Ledger) (within : ledger.entries.length ≤ 2 ^ 34) :
    let names := ledger.entries.map LedgerEntry.name
    let averages := ledger.snapshot.averages
    ((averages.map Average.name).Pairwise fun a b => names.idxOf a < names.idxOf b) ∧
      (averages.map Average.name).Nodup ∧
      (∀ name, name ∈ averages.map Average.name ↔ name ∈ names) ∧
      (∀ total ∈ totals ledger.entries,
        total.nanos = nanosOf (under ledger.entries total.name) ∧
          total.count = (under ledger.entries total.name).length ∧ 0 < total.count) ∧
      (∀ average ∈ averages, ∃ mean : Duration,
        mean.toNanos = nanosOf (under ledger.entries average.name) /
            (under ledger.entries average.name).length ∧
          average.time = mean.text) ∧
      ∀ name,
        (name ∈ names → ∃ mean : Duration,
          mean.toNanos = nanosOf (under ledger.entries name) /
              (under ledger.entries name).length ∧
            ledger.snapshot.averageFor name = some mean.text) ∧
          (name ∉ names → ledger.snapshot.averageFor name = none) := by
  intro names averages
  have shown : averages = _ := averages_snapshot within
  have shownNames : averages.map Average.name = names.eraseDups := by
    rw [shown, List.map_map]
    exact List.map_id _
  have told := averageFor_of_averages shown
  refine ⟨shownNames ▸ List.pairwise_idxOf_eraseDups names,
    shownNames ▸ List.nodup_eraseDups names, ?_, ?_, ?_, ?_⟩
  · intro name
    rw [shownNames, List.mem_eraseDups]
  · rw [totals_eq]
    intro total member
    obtain ⟨name, isName, rfl⟩ := List.mem_map.mp member
    rw [totalOf_of_within within]
    refine ⟨rfl, rfl, List.length_pos_iff.mpr (under_ne_nil_iff.mpr ?_)⟩
    exact List.mem_eraseDups.mp isName
  · rw [shown]
    intro average member
    obtain ⟨name, -, rfl⟩ := List.mem_map.mp member
    exact ⟨_, Duration.toNanos_ofNanos (mean_le_longest _), rfl⟩
  · intro name
    constructor
    · intro present
      refine ⟨_, Duration.toNanos_ofNanos (mean_le_longest (under ledger.entries name)), ?_⟩
      rw [told, if_pos (List.mem_eraseDups.mpr present)]
    · intro absent
      rw [told, if_neg fun present => absent (List.mem_eraseDups.mp present)]

/-- Names that take turns, with entries as long as they can be. -/
def alternating : Ledger :=
  (((empty.record "b" longest).record "a" (.ofNanos 7)).record "b" longest).record "a" (.ofNanos 2)

theorem averages_exact_alternating :
    alternating.entries.length ≤ 2 ^ 34 ∧
      (∃ mean : Duration, mean.toNanos = longest.toNanos ∧
        alternating.snapshot.averageFor "b" = some mean.text) ∧
      (∃ mean : Duration, mean.toNanos = 4 ∧
        alternating.snapshot.averageFor "a" = some mean.text) ∧
      alternating.snapshot.averageFor "c" = none ∧
      (alternating.snapshot.averages.map Average.name).Nodup := by
  have within : alternating.entries.length ≤ 2 ^ 34 := by decide
  obtain ⟨-, nodup, -, -, -, told⟩ := averages_exact alternating within
  refine ⟨within, ?_, ?_, (told "c").2 (by decide), nodup⟩
  · obtain ⟨mean, exact, shown⟩ := (told "b").1 (by decide)
    exact ⟨mean, exact.trans (by decide), shown⟩
  · obtain ⟨mean, exact, shown⟩ := (told "a").1 (by decide)
    exact ⟨mean, exact.trans (by decide), shown⟩

end Ledger

end PluginSupport
