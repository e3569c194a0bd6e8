/-!
# Splitting text

Cuts at a separator. `onChar` keeps every piece, empty ones included, so the pieces joined by the
separator give the text back (`join_onChar`).
-/
namespace PluginSupport.Split

/-- Pieces of a text between the occurrences of `sep`; one more piece than separators. -/
def onChar (sep : Char) : List Char → List (List Char)
  | [] => [[]]
  | c :: cs =>
    if c = sep then [] :: onChar sep cs
    else
      match onChar sep cs with
      | [] => [[c]]
      | piece :: pieces => (c :: piece) :: pieces

/-- Text before and after the first occurrence of two separators in a row. -/
def onFirstPair (sep : Char) : List Char → Option (List Char × List Char)
  | [] => none
  | [_] => none
  | c :: d :: cs =>
    if c = sep ∧ d = sep then some ([], cs)
    else (onFirstPair sep (d :: cs)).map fun (front, back) => (c :: front, back)

/-- Pieces with the separator between them. -/
def join (sep : List Char) : List (List Char) → List Char
  | [] => []
  | [piece] => piece
  | piece :: pieces => piece ++ sep ++ join sep pieces

theorem onChar_ne_nil (sep : Char) (cs : List Char) : onChar sep cs ≠ [] := by
  cases cs with
  | nil => simp [onChar]
  | cons c cs =>
    simp only [onChar]
    split
    · simp
    · split <;> simp

theorem join_onChar (sep : Char) (cs : List Char) : join [sep] (onChar sep cs) = cs := by
  induction cs with
  | nil => rfl
  | cons c cs ih =>
    simp only [onChar]
    split
    · rename_i h
      subst h
      cases hp : onChar c cs with
      | nil => exact absurd hp (onChar_ne_nil c cs)
      | cons piece pieces => rw [hp] at ih; simp [join, ih]
    · cases hp : onChar sep cs with
      | nil => exact absurd hp (onChar_ne_nil sep cs)
      | cons piece pieces =>
        rw [hp] at ih
        cases pieces with
        | nil => simp [join] at ih ⊢; exact ih
        | cons next rest => simp [join] at ih ⊢; exact ih

end PluginSupport.Split
