import PluginSupport.Sync.Event

/-!
# Key-value stores

Stored values in ascending order of their keys, each key once. Keys with a common prefix stand in
one block, so the values below a prefix are found by going to the first key that is not before the
prefix and reading on as long as keys start with it.

Keys are ordered by their code points, which is also the order of their UTF-8 bytes.

Results: `find?_insert` and `find?_erase` say what a changed store holds under every key.
-/
namespace PluginSupport

/-- Whether a key starts with a prefix. -/
def hasStem (stem key : String) : Bool :=
  stem.toList.isPrefixOf key.toList

/-! ## Rows of records -/

/-- Records in ascending order with one more; it takes the place of one with the same key. -/
def insertRecord (record : KeyValue) : List KeyValue → List KeyValue
  | [] => [record]
  | other :: others =>
    if record.key < other.key then record :: other :: others
    else if record.key = other.key then record :: others
    else other :: insertRecord record others

/-- Whether records stand in ascending order of their keys. -/
def Ascending (records : List KeyValue) : Prop :=
  records.Pairwise fun a b => a.key < b.key

theorem mem_insertRecord {record x : KeyValue} {records : List KeyValue}
    (member : x ∈ insertRecord record records) : x = record ∨ x ∈ records := by
  induction records with
  | nil => simpa [insertRecord] using member
  | cons other others ih =>
    simp only [insertRecord] at member
    split at member
    · simpa using member
    · split at member
      · exact (List.mem_cons.mp member).imp_right (List.mem_cons_of_mem _)
      · rcases List.mem_cons.mp member with same | inRest
        · exact .inr (same ▸ List.mem_cons_self)
        · exact (ih inRest).imp_right (List.mem_cons_of_mem _)

theorem ascending_insertRecord (record : KeyValue) {records : List KeyValue}
    (ascending : Ascending records) : Ascending (insertRecord record records) := by
  induction records with
  | nil => exact List.pairwise_singleton _ _
  | cons other others ih =>
    obtain ⟨first, rest⟩ := List.pairwise_cons.mp ascending
    simp only [insertRecord]
    split
    · rename_i before
      refine List.pairwise_cons.mpr ⟨fun x member => ?_, ascending⟩
      rcases List.mem_cons.mp member with same | inRest
      · exact same ▸ before
      · exact String.lt_trans before (first x inRest)
    · split
      · rename_i same
        exact List.pairwise_cons.mpr ⟨fun x member => same ▸ first x member, rest⟩
      · rename_i notBefore different
        refine List.pairwise_cons.mpr ⟨fun x member => ?_, ih rest⟩
        rcases mem_insertRecord member with same | inRest
        · subst same
          refine String.not_le.mp fun reverse => different ?_
          exact String.le_antisymm reverse (String.not_lt.mp notBefore)
        · exact first x inRest

theorem find?_insertRecord (record : KeyValue) (records : List KeyValue) (key : String) :
    (insertRecord record records).find? (fun x => x.key = key) =
      if record.key = key then some record else records.find? fun x => x.key = key := by
  induction records with
  | nil => by_cases here : record.key = key <;> simp [insertRecord, here]
  | cons other others ih =>
    simp only [insertRecord]
    split
    · by_cases here : record.key = key <;> simp [here]
    · split
      · rename_i same
        by_cases here : record.key = key <;> simp [same ▸ here, here]
      · rename_i different
        by_cases there : other.key = key
        · simp [there, there ▸ different]
        · simp [there, ih]

/-! ## Stores -/

/-- Stored values in ascending order of their keys, each key once. -/
structure Store where
  records : List KeyValue
  ascending : Ascending records
deriving DecidableEq, Repr

namespace Store

/-- A store without values. -/
def empty : Store := ⟨[], .nil⟩

/-- Value stored under a key, with its revision. -/
def find? (store : Store) (key : String) : Option KeyValue :=
  store.records.find? fun record => record.key = key

/-- The store with one more value; it takes the place of one with the same key. -/
def insert (store : Store) (record : KeyValue) : Store :=
  ⟨insertRecord record store.records, ascending_insertRecord record store.ascending⟩

/-- The store without the value of a key. -/
def erase (store : Store) (key : String) : Store :=
  ⟨store.records.filter fun record => record.key ≠ key, store.ascending.filter _⟩

theorem find?_insert (store : Store) (record : KeyValue) (key : String) :
    (store.insert record).find? key =
      if record.key = key then some record else store.find? key :=
  find?_insertRecord record store.records key

theorem find?_erase (store : Store) (erased key : String) :
    (store.erase erased).find? key = if erased = key then none else store.find? key := by
  simp only [find?, erase, List.find?_filter]
  by_cases same : erased = key
  · simp [same]
  · rw [if_neg same]
    congr 1
    funext record
    by_cases here : record.key = key
    · simp [here, Ne.symm same]
    · simp [here]

/-- Values whose keys start with a prefix, in ascending order: the block that begins at the
prefix. -/
def below (store : Store) (stem : String) : List KeyValue :=
  (store.records.dropWhile fun record => record.key < stem).takeWhile fun record =>
    hasStem stem record.key

/-- Prefixes in ascending order, each once. -/
def distinctStems (stems : List String) : List String :=
  stems.eraseDups.mergeSort fun a b => a ≤ b

/-- The state below prefixes: one group for each of them. -/
def resync (store : Store) (stems : List String) : ResyncEvent :=
  ⟨(distinctStems stems).map fun stem => ⟨stem, store.below stem⟩⟩

end Store

end PluginSupport
