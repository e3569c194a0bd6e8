import Mathlib.Data.List.Count
import PluginSupport.Address.Diff
import PluginSupport.Proofs.Address.Order

/-!
# The difference of address lists is a multiset difference

`AddressDiff.between_exact`: the addresses to add are those of `new` less those of `old`, each as
often as it is left over, and the addresses to delete are the other way round.

One cursor on either list goes ahead at a time. What it passes by alone is before everything that
the other one has yet to see, because both lists are sorted, so it can be counted there and then
(`count_toAdd_merge`). The two results are mirror images (`merge_swap`), so what holds of the first
one holds of the second.
-/
namespace PluginSupport

namespace AddressDiff

/-- The difference the other way round. -/
def swap (diff : AddressDiff) : AddressDiff :=
  ⟨diff.toAdd, diff.toDelete⟩

/-! ## Merging -/

theorem merge_nil (new : List NetAddr) : merge new [] = ⟨[], new⟩ := by
  cases new <;> simp [merge]

theorem merge_swap (new old : List NetAddr) : merge old new = (merge new old).swap := by
  induction new, old using merge.induct with
  | case1 old => rw [merge_nil, merge, swap]
  | case2 new notNil => rw [merge_nil, merge, swap]
  | case3 a new b old same ih =>
    have mirrored : NetAddr.order b a = .eq := Std.OrientedCmp.eq_symm same
    simp [merge, same, mirrored, ih]
  | case4 a new b old before ih =>
    have mirrored : NetAddr.order b a = .gt := Std.OrientedCmp.gt_of_lt before
    simp [merge, before, mirrored, ih, adding, deleting, swap]
  | case5 a new b old after ih =>
    have mirrored : NetAddr.order b a = .lt := Std.OrientedCmp.lt_of_gt after
    simp [merge, after, mirrored, ih, adding, deleting, swap]

theorem toAdd_merge_sublist (new old : List NetAddr) : (merge new old).toAdd.Sublist new := by
  induction new, old using merge.induct with
  | case1 old => simp [merge]
  | case2 new notNil => simp [merge_nil]
  | case3 a new b old same ih => simpa [merge, same] using ih.cons a
  | case4 a new b old before ih => simpa [merge, before, adding] using ih.cons_cons a
  | case5 a new b old after ih => simpa [merge, after, deleting] using ih

theorem count_toAdd_merge {new old : List NetAddr} (newSorted : NetAddr.Sorted new)
    (oldSorted : NetAddr.Sorted old) (addr : NetAddr) :
    (merge new old).toAdd.count addr = new.count addr - old.count addr := by
  induction new, old using merge.induct with
  | case1 old => simp [merge]
  | case2 new notNil => simp [merge_nil]
  | case3 a new b old same ih =>
    obtain rfl := Std.LawfulEqCmp.eq_of_compare same
    simp only [merge, same]
    rw [ih newSorted.of_cons oldSorted.of_cons, List.count_cons, List.count_cons]
    omega
  | case4 a new b old before ih =>
    -- `a` is before all of the old addresses, so none of them is left to cancel it.
    have counted := ih newSorted.of_cons oldSorted
    simp only [merge, before, adding]
    by_cases here : a = addr
    · subst here
      have fresh := List.count_eq_zero.mpr (NetAddr.not_mem_of_lt oldSorted before)
      rw [List.count_cons_self, List.count_cons_self, counted, fresh]
      omega
    · rw [List.count_cons_of_ne here, List.count_cons_of_ne here, counted]
  | case5 a new b old after ih =>
    have counted := ih newSorted oldSorted.of_cons
    simp only [merge, after, deleting]
    by_cases here : b = addr
    · subst here
      have before : NetAddr.order b a = .lt := Std.OrientedCmp.lt_of_gt after
      have missing := List.count_eq_zero.mpr (NetAddr.not_mem_of_lt newSorted before)
      rw [counted, missing]
      omega
    · rw [counted, List.count_cons_of_ne here]

/-! ## Any lists -/

theorem between_swap (new old : List NetAddr) : between old new = (between new old).swap :=
  merge_swap (NetAddr.sort new) (NetAddr.sort old)

theorem toDelete_between (new old : List NetAddr) :
    (between new old).toDelete = (between old new).toAdd := by
  rw [between_swap new old, swap]

theorem count_toAdd (new old : List NetAddr) (addr : NetAddr) :
    (between new old).toAdd.count addr = new.count addr - old.count addr := by
  rw [between, count_toAdd_merge (NetAddr.sorted_sort new) (NetAddr.sorted_sort old),
    (NetAddr.sort_perm new).count_eq, (NetAddr.sort_perm old).count_eq]

theorem count_toDelete (new old : List NetAddr) (addr : NetAddr) :
    (between new old).toDelete.count addr = old.count addr - new.count addr := by
  rw [toDelete_between, count_toAdd]

theorem sorted_toAdd (new old : List NetAddr) : NetAddr.Sorted (between new old).toAdd :=
  (NetAddr.sorted_sort new).sublist (toAdd_merge_sublist _ _)

/-- No address is both added and deleted. -/
theorem disjoint_between (new old : List NetAddr) {addr : NetAddr}
    (added : addr ∈ (between new old).toAdd) : addr ∉ (between new old).toDelete := by
  intro deleted
  rw [← List.count_pos_iff, count_toAdd] at added
  rw [← List.count_pos_iff, count_toDelete] at deleted
  omega

/-- All that is deleted was there. -/
theorem toDelete_subperm (new old : List NetAddr) : (between new old).toDelete.Subperm old := by
  refine List.subperm_ext_iff.mpr fun addr _ => ?_
  rw [count_toDelete]
  exact Nat.sub_le _ _

/-- Carrying the difference out leads from the old addresses to the new ones. -/
theorem diff_append_perm (new old : List NetAddr) :
    (old.diff (between new old).toDelete ++ (between new old).toAdd).Perm new := by
  refine List.perm_iff_count.mpr fun addr => ?_
  rw [List.count_append, List.count_diff, count_toDelete, count_toAdd]
  omega

/-- The difference of two lists is their multiset difference in either direction, in ascending
order:

* an address is added as often as `new` has it more often than `old`, and deleted as often as `old`
  has it more often than `new`, so none is both;
* deleting and adding leads from `old` to `new`;
* the two lists change roles when `new` and `old` do;
* the order of `new` and of `old` does not matter. -/
theorem between_exact (new old : List NetAddr) :
    let diff := between new old
    (∀ addr, diff.toAdd.count addr = new.count addr - old.count addr ∧
        diff.toDelete.count addr = old.count addr - new.count addr) ∧
      diff.toAdd.Pairwise (fun a b => NetAddr.le a b = true) ∧
      diff.toDelete.Pairwise (fun a b => NetAddr.le a b = true) ∧
      (∀ addr ∈ diff.toAdd, addr ∉ diff.toDelete) ∧
      diff.toDelete.Subperm old ∧ (old.diff diff.toDelete ++ diff.toAdd).Perm new ∧
      between old new = ⟨diff.toAdd, diff.toDelete⟩ ∧
      ∀ otherNew otherOld : List NetAddr, otherNew.Perm new → otherOld.Perm old →
        between otherNew otherOld = diff := by
  intro diff
  refine ⟨fun addr => ⟨count_toAdd new old addr, count_toDelete new old addr⟩,
    sorted_toAdd new old, ?_, fun addr => disjoint_between new old, toDelete_subperm new old,
    diff_append_perm new old, between_swap new old, ?_⟩
  · rw [toDelete_between]
    exact sorted_toAdd old new
  · intro otherNew otherOld newPerm oldPerm
    rw [between, NetAddr.sort_eq_of_perm newPerm, NetAddr.sort_eq_of_perm oldPerm]
    rfl

theorem between_exact_mixed :
    let v4 : NetAddr := ⟨.v4 ⟨10, 0, 0, 1⟩, 24, by decide⟩
    let v6 : NetAddr := ⟨.v6 ⟨0xfe80, 0, 0, 0, 0, 0, 0, 1⟩, 64, by decide⟩
    [v4, v6, v4, v4].Perm [v6, v4, v4, v4] ∧ [v6, v4].Perm [v4, v6] ∧
      (between [v4, v6, v4, v4] [v6, v4]).toAdd.count v4 = 2 := by
  intro v4 v6
  have newPerm : [v4, v6, v4, v4].Perm [v6, v4, v4, v4] := .swap _ _ _
  have oldPerm : [v6, v4].Perm [v4, v6] := .swap _ _ _
  obtain ⟨counts, -, -, -, -, -, -, reordered⟩ := between_exact [v6, v4, v4, v4] [v4, v6]
  refine ⟨newPerm, oldPerm, ?_⟩
  rw [reordered _ _ newPerm oldPerm, (counts v4).1]
  decide

end AddressDiff

end PluginSupport
