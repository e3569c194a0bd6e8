import PluginSupport.Text.Lowercase.Table

/-!
# Lowercase

Full lowercase of a text. Every character is mapped on its own, with two exceptions: capital I with
a dot becomes two characters, and a capital sigma becomes the final form at the end of a word. A
word ends at a sigma when, case-ignorable characters aside, a cased character comes before it and
none comes after it.
-/
namespace PluginSupport.Lowercase

/-- Whether a code point lies in one of the ranges. -/
def inRanges (ranges : List (Nat × Nat)) (n : Nat) : Bool :=
  ranges.any fun (first, last) => first ≤ n ∧ n ≤ last

/-- Whether a character has the property Cased. -/
def isCased (c : Char) : Bool := inRanges casedRanges c.toNat

/-- Whether a character has the property Case_Ignorable. -/
def isIgnorable (c : Char) : Bool := inRanges ignorableRanges c.toNat

/-- Whether a row of the table maps a code point. -/
def Row.covers (row : Row) (n : Nat) : Bool :=
  row.first ≤ n ∧ n ≤ row.last ∧ (n - row.first) % row.step = 0

/-- Lowercase of a character on its own. -/
def ofChar (c : Char) : Char :=
  match rows.find? (·.covers c.toNat) with
  | some row => Char.ofNat (c.toNat + row.shift).toNat
  | none => c

/-- Whether the first character that is not case-ignorable is cased. -/
def startsCased (cs : List Char) : Bool :=
  match cs.dropWhile isIgnorable with
  | [] => false
  | c :: _ => isCased c

/-- Lowercase of a capital sigma between what stands before it, nearest first, and after it. -/
def sigma (before after : List Char) : Char :=
  if startsCased before && !startsCased after then 'ς' else 'σ'

/-- Lowercase of a text that follows `before`, given nearest first. -/
def mapAfter (before : List Char) : List Char → List Char
  | [] => []
  | c :: cs =>
    let image :=
      if c = 'Σ' then [sigma before cs]
      else if c = 'İ' then ['i', '\u0307']
      else [ofChar c]
    image ++ mapAfter (c :: before) cs

/-- Lowercase of a text. -/
def map (cs : List Char) : List Char :=
  mapAfter [] cs

end PluginSupport.Lowercase
