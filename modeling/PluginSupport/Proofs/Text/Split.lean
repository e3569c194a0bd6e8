import PluginSupport.Text.Split

/-!
# Pieces and separators

Cutting at a separator is the standard `splitOn` and joining the standard `intercalate`. The pieces
of a text are the one row of pieces without separators that join to it (`onChar_eq_iff`).

The first pair of separators in a text is looked for behind what has no pair of its own:
`onFirstPair_append` passes over a piece, `onFirstPair_sep_cons` over a lone separator.
-/
namespace PluginSupport.Split

variable {sep : Char}

/-! ## Single separators -/

theorem onChar_eq_splitOn (sep : Char) (cs : List Char) : onChar sep cs = cs.splitOn sep := by
  induction cs with
  | nil => rfl
  | cons c cs ih =>
    rw [List.splitOn_cons_eq_if_modifyHead, onChar, ih]
    by_cases here : c = sep
    · simp [here]
    · rw [if_neg here, if_neg (by simpa using here)]
      cases pieces : cs.splitOn sep with
      | nil => exact absurd pieces (List.splitOn_ne_nil sep cs)
      | cons piece pieces => rfl

theorem join_eq_intercalate (sep : List Char) (pieces : List (List Char)) :
    join sep pieces = sep.intercalate pieces := by
  induction pieces with
  | nil => rfl
  | cons piece pieces ih =>
    cases pieces with
    | nil => simp [join]
    | cons next rest =>
      rw [join, ih, List.intercalate_cons_of_ne_nil (List.cons_ne_nil next rest)]
      exact List.cons_ne_nil next rest

/-- One separator in front of joined pieces is one in front of each. -/
theorem cons_join (sep : Char) {pieces : List (List Char)} (notEmpty : pieces ≠ []) :
    sep :: join [sep] pieces = pieces.flatMap fun piece => sep :: piece := by
  induction pieces with
  | nil => exact absurd rfl notEmpty
  | cons piece pieces ih =>
    cases pieces with
    | nil => simp [join]
    | cons next rest =>
      rw [join, List.flatMap_cons, ← ih (List.cons_ne_nil next rest), List.append_assoc]
      · rfl
      · exact List.cons_ne_nil next rest

theorem onChar_append_cons {cs : List Char} (clean : sep ∉ cs) (rest : List Char) :
    onChar sep (cs ++ sep :: rest) = cs :: onChar sep rest := by
  rw [onChar_eq_splitOn, onChar_eq_splitOn, List.splitOn_append_cons_self_of_not_mem clean]

theorem onChar_of_not_mem {cs : List Char} (clean : sep ∉ cs) : onChar sep cs = [cs] := by
  rw [onChar_eq_splitOn, List.splitOn_eq_singleton clean]

theorem not_mem_of_mem_onChar {cs piece : List Char} (member : piece ∈ onChar sep cs) :
    sep ∉ piece := by
  induction cs generalizing piece with
  | nil =>
    rw [List.mem_singleton.mp member]
    exact List.not_mem_nil
  | cons c cs ih =>
    rw [onChar] at member
    split at member
    · rcases List.mem_cons.mp member with rfl | later
      · exact List.not_mem_nil
      · exact ih later
    · rename_i different
      cases pieces : onChar sep cs with
      | nil => exact absurd pieces (onChar_ne_nil sep cs)
      | cons first rest =>
        rw [pieces] at member ih
        rcases List.mem_cons.mp member with rfl | later
        · have inFirst := ih List.mem_cons_self
          simp [Ne.symm different, inFirst]
        · exact ih (List.mem_cons_of_mem _ later)

theorem onChar_eq_iff {cs : List Char} {pieces : List (List Char)} :
    onChar sep cs = pieces ↔
      pieces ≠ [] ∧ (∀ piece ∈ pieces, sep ∉ piece) ∧ [sep].intercalate pieces = cs := by
  constructor
  · rintro rfl
    refine ⟨onChar_ne_nil sep cs, fun piece => not_mem_of_mem_onChar, ?_⟩
    rw [← join_eq_intercalate, join_onChar]
  · rintro ⟨notEmpty, clean, rfl⟩
    rw [onChar_eq_splitOn, List.splitOn_intercalate sep clean notEmpty]

/-! ## Pairs of separators -/

theorem onFirstPair_cons_of_ne {c : Char} (different : c ≠ sep) (cs : List Char) :
    onFirstPair sep (c :: cs) =
      (onFirstPair sep cs).map fun (front, back) => (c :: front, back) := by
  cases cs with
  | nil => rfl
  | cons d cs => rw [onFirstPair, if_neg fun both => different both.1]

theorem onFirstPair_sep_cons {c : Char} (different : c ≠ sep) (cs : List Char) :
    onFirstPair sep (sep :: c :: cs) =
      (onFirstPair sep (c :: cs)).map fun (front, back) => (sep :: front, back) := by
  rw [onFirstPair, if_neg fun both => different both.2]

theorem onFirstPair_append {cs : List Char} (clean : sep ∉ cs) (rest : List Char) :
    onFirstPair sep (cs ++ rest) =
      (onFirstPair sep rest).map fun (front, back) => (cs ++ front, back) := by
  induction cs with
  | nil => simp
  | cons c cs ih =>
    obtain ⟨first, others⟩ : sep ≠ c ∧ sep ∉ cs := by simpa using clean
    rw [List.cons_append, onFirstPair_cons_of_ne (Ne.symm first), ih others, Option.map_map]
    rfl

/-- A pair that was found stands where it was found. -/
theorem append_of_onFirstPair {cs front back : List Char}
    (found : onFirstPair sep cs = some (front, back)) : front ++ sep :: sep :: back = cs := by
  fun_induction onFirstPair sep cs generalizing front with
  | case1 => cases found
  | case2 => cases found
  | case3 c d cs both =>
    cases found
    rw [both.1, both.2, List.nil_append]
  | case4 c d cs notBoth ih =>
    obtain ⟨⟨before, after⟩, later, same⟩ := Option.map_eq_some_iff.mp found
    cases same
    rw [List.cons_append, ih later]

end PluginSupport.Split
