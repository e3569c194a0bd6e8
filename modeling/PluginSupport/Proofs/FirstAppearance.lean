import Mathlib.Data.List.Basic
import Mathlib.Data.List.Induction

/-!
# First appearances

`List.eraseDups` keeps of every element the first occurrence: what is left stands in the order of
first appearance, and nothing stands twice.
-/
namespace List

variable {α : Type} [BEq α] [LawfulBEq α]

/-- One more element is kept if it has not been there before. -/
theorem eraseDups_concat (row : List α) (a : α) :
    (row ++ [a]).eraseDups = if a ∈ row then row.eraseDups else row.eraseDups ++ [a] := by
  rw [eraseDups_append]
  by_cases present : a ∈ row <;> simp [removeAll, present, eraseDups_cons]

theorem pairwise_idxOf_eraseDups (row : List α) :
    row.eraseDups.Pairwise fun a b => row.idxOf a < row.idxOf b := by
  induction row using List.reverseRecOn with
  | nil => exact .nil
  | append_singleton row a ih =>
    have kept : ∀ b ∈ row.eraseDups, (row ++ [a]).idxOf b = row.idxOf b := by
      intro b member
      exact idxOf_append_of_mem (mem_eraseDups.mp member)
    have front : row.eraseDups.Pairwise fun b c =>
        (row ++ [a]).idxOf b < (row ++ [a]).idxOf c := by
      refine ih.imp_of_mem fun memberB memberC before => ?_
      rw [kept _ memberB, kept _ memberC]
      exact before
    rw [eraseDups_concat]
    split
    · exact front
    · rename_i absent
      refine pairwise_append.mpr ⟨front, pairwise_singleton _ _, fun b member c isLast => ?_⟩
      obtain rfl := mem_singleton.mp isLast
      rw [kept b member, idxOf_append_of_notMem absent]
      exact Nat.lt_of_lt_of_le (idxOf_lt_length_of_mem (mem_eraseDups.mp member))
        (Nat.le_add_right _ _)

theorem nodup_eraseDups (row : List α) : row.eraseDups.Nodup := by
  refine (pairwise_idxOf_eraseDups row).imp fun before same => ?_
  subst same
  exact Nat.lt_irrefl _ before

end List
