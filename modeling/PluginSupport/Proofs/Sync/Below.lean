import Mathlib.Data.List.Basic
import PluginSupport.Sync.Store

/-!
# Values below a prefix

Keys that start with a prefix stand in one block of an ascending row (`isPrefix_of_between`), and
the block begins at the first key that is not before the prefix. So reading that block finds every
value whose key starts with the prefix, and no other (`Store.below_eq_filter`).
-/
namespace PluginSupport

/-! ## Blocks of keys -/

/-- What lies between a prefix and a text that starts with it starts with it too. -/
theorem isPrefix_of_between {stem first second : List Char} (notBefore : ¬ first < stem)
    (before : first < second) (starts : stem <+: second) : stem <+: first := by
  induction stem generalizing first second with
  | nil => exact List.nil_prefix
  | cons head stem ih =>
    obtain ⟨rest, rfl⟩ := starts
    cases first with
    | nil => exact absurd (List.nil_lt_cons head stem) notBefore
    | cons other first =>
      rw [List.cons_append, List.cons_lt_cons_iff] at before
      rw [List.cons_lt_cons_iff] at notBefore
      rcases before with smaller | ⟨rfl, before⟩
      · exact absurd (.inl smaller) notBefore
      · refine List.cons_prefix_cons.mpr ⟨rfl, ih ?_ before (List.prefix_append _ _)⟩
        exact fun smaller => notBefore (.inr ⟨rfl, smaller⟩)

theorem hasStem_iff (stem key : String) : hasStem stem key = true ↔ stem.toList <+: key.toList := by
  simp [hasStem]

/-- A key is not before a prefix that it starts with. -/
theorem not_lt_of_hasStem {stem key : String} (starts : hasStem stem key = true) : ¬ key < stem :=
  ((hasStem_iff stem key).mp starts).le

theorem hasStem_of_between {stem first second : String} (notBefore : ¬ first < stem)
    (before : first < second) (starts : hasStem stem second = true) :
    hasStem stem first = true := by
  rw [hasStem_iff] at starts ⊢
  exact isPrefix_of_between notBefore before starts

/-! ## Rows of records -/

/-- In a row that is not before a prefix, the block stands first. -/
theorem takeWhile_hasStem {records : List KeyValue} (ascending : Ascending records) {stem : String}
    (notBefore : ∀ record ∈ records, ¬ record.key < stem) :
    records.takeWhile (fun record => hasStem stem record.key) =
      records.filter fun record => hasStem stem record.key := by
  induction records with
  | nil => rfl
  | cons record records ih =>
    obtain ⟨first, rest⟩ := List.pairwise_cons.mp ascending
    obtain ⟨here, later⟩ := List.forall_mem_cons.mp notBefore
    by_cases starts : hasStem stem record.key = true
    · simp only [List.takeWhile_cons, List.filter_cons, starts, if_true, ih rest later]
    · -- The block is over, or was empty: no later key can start with the prefix again.
      have none : ∀ other ∈ records, ¬ hasStem stem other.key = true :=
        fun other member othersStart =>
          starts (hasStem_of_between here (first other member) othersStart)
      simp only [List.takeWhile_cons, List.filter_cons, starts, Bool.false_eq_true, if_false]
      exact (List.filter_eq_nil_iff.mpr none).symm

namespace Store

/-- The values below a prefix are those whose keys start with it. -/
theorem below_eq_filter (store : Store) (stem : String) :
    store.below stem = store.records.filter fun record => hasStem stem record.key := by
  obtain ⟨records, ascending⟩ := store
  simp only [below]
  induction records with
  | nil => rfl
  | cons record records ih =>
    obtain ⟨first, rest⟩ := List.pairwise_cons.mp ascending
    by_cases before : record.key < stem
    · have misses : ¬ hasStem stem record.key = true :=
        fun starts => not_lt_of_hasStem starts before
      simp only [List.dropWhile_cons, before, decide_true, if_true, ih rest, List.filter_cons,
        misses, Bool.false_eq_true, if_false]
    · have notBefore : ∀ other ∈ record :: records, ¬ other.key < stem := by
        intro other member otherBefore
        rcases List.mem_cons.mp member with rfl | later
        · exact before otherBefore
        · exact before (String.lt_trans (first other later) otherBefore)
      rw [List.dropWhile_cons_of_neg (by simpa using before), takeWhile_hasStem ascending notBefore]

theorem mem_below {store : Store} {stem : String} {record : KeyValue} :
    record ∈ store.below stem ↔
      record ∈ store.records ∧ stem.toList <+: record.key.toList := by
  rw [below_eq_filter, List.mem_filter, hasStem_iff]

theorem mem_distinctStems {stems : List String} {stem : String} :
    stem ∈ distinctStems stems ↔ stem ∈ stems := by
  simp [distinctStems]

/-- Each key is stored once. -/
theorem find?_eq_some_iff {store : Store} {key : String} {record : KeyValue} :
    store.find? key = some record ↔ record ∈ store.records ∧ record.key = key := by
  obtain ⟨records, ascending⟩ := store
  simp only [find?]
  constructor
  · intro found
    exact ⟨List.mem_of_find?_eq_some found, by simpa using List.find?_some found⟩
  · rintro ⟨member, rfl⟩
    induction records with
    | nil => cases member
    | cons other others ih =>
      obtain ⟨first, rest⟩ := List.pairwise_cons.mp ascending
      rcases List.mem_cons.mp member with rfl | later
      · simp
      · have different : other.key ≠ record.key := by
          intro same
          exact String.lt_irrefl _ (same ▸ first record later)
        rw [List.find?_cons_of_neg (by simpa using different)]
        exact ih rest later

end Store

end PluginSupport
