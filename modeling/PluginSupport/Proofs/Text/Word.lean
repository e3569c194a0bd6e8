import Mathlib.Data.List.DropRight
import Mathlib.Tactic.ByContra
import PluginSupport.Text.Blank
import PluginSupport.Text.Lowercase.Mapping

/-!
# Words that a text spells

A text spells a word if, without the white space around it, it is that word up to the case of ASCII
letters (`Word.Spells`). Trimming and full lowercase find exactly the texts that spell a word
(`Word.map_trim_eq_iff`), as long as the word consists of ASCII characters other than k. The Kelvin
sign, whose lowercase is that letter, is the only character beyond ASCII that ends up in ASCII;
capital I with a dot leaves a combining dot behind its i.
-/
namespace PluginSupport

/-! ## White space around a text -/

namespace Blank

/-- A text is a core with white space around it, and the core neither begins nor ends with any. -/
structure Surrounds (cs core : List Char) : Prop where
  around : ∃ front back, (∀ c ∈ front, isBlank c = true) ∧ (∀ c ∈ back, isBlank c = true) ∧
    cs = front ++ (core ++ back)
  first : ∀ c ∈ core.head?, isBlank c = false
  last : ∀ c ∈ core.getLast?, isBlank c = false

theorem dropWhile_append {front rest : List Char} (blank : ∀ c ∈ front, isBlank c = true)
    (stops : ∀ c ∈ rest.head?, isBlank c = false) : (front ++ rest).dropWhile isBlank = rest := by
  rw [List.dropWhile_append_of_pos blank]
  cases rest with
  | nil => rfl
  | cons c rest => rw [List.dropWhile_cons_of_neg (by simpa using stops c rfl)]

theorem not_blank_of_head?_dropWhile {cs : List Char} {c : Char}
    (first : (cs.dropWhile isBlank).head? = some c) : isBlank c = false := by
  have stops := List.head?_dropWhile_not isBlank cs
  rwa [first] at stops

theorem surrounds_trim (cs : List Char) : Surrounds cs (trim cs) := by
  have leading : cs.takeWhile isBlank ++ cs.dropWhile isBlank = cs :=
    List.takeWhile_append_dropWhile
  have trailing : trim cs ++ (cs.dropWhile isBlank).rtakeWhile isBlank = cs.dropWhile isBlank :=
    List.rdropWhile_append_rtakeWhile
  constructor
  case around =>
    refine ⟨cs.takeWhile isBlank, (cs.dropWhile isBlank).rtakeWhile isBlank, ?_, ?_, ?_⟩
    · exact fun c => List.mem_takeWhile_imp
    · exact fun c => List.mem_rtakeWhile_imp
    · rw [trailing, leading]
  case first =>
    -- The core begins as the text without leading white space does.
    intro c first
    have same : (cs.dropWhile isBlank).head? = some c := by
      rw [← trailing, List.head?_append, first]
      rfl
    exact not_blank_of_head?_dropWhile same
  case last =>
    intro c last
    rw [trim, List.getLast?_reverse] at last
    exact not_blank_of_head?_dropWhile last

theorem trim_eq_iff {cs core : List Char} : trim cs = core ↔ Surrounds cs core := by
  constructor
  · rintro rfl
    exact surrounds_trim cs
  · rintro ⟨⟨front, back, blankFront, blankBack, rfl⟩, first, last⟩
    have blankReverse : ∀ c ∈ back.reverse, isBlank c = true := by
      simpa using blankBack
    have lastReverse : ∀ c ∈ core.reverse.head?, isBlank c = false := by
      rwa [List.head?_reverse]
    cases core with
    | nil =>
      rw [trim, List.nil_append, List.dropWhile_append_of_pos blankFront,
        List.dropWhile_eq_nil_iff.mpr blankBack]
      rfl
    | cons c core =>
      rw [trim, dropWhile_append blankFront (by simpa using first), List.reverse_append,
        dropWhile_append blankReverse lastReverse, List.reverse_reverse]

end Blank

/-! ## Lowercase in ASCII -/

namespace Lowercase

/-- Where the rows of the table lead: one maps the ASCII capitals, one the Kelvin sign, and all
others map characters beyond ASCII to such characters. -/
theorem row_cases : ∀ row ∈ rows,
    row = ⟨0x41, 0x5A, 1, 32⟩ ∨ row = ⟨0x212A, 0x212A, 1, -8383⟩ ∨
      128 ≤ row.first ∧ 128 ≤ row.first + row.shift ∧
        (row.last + row.shift < 0xD800 ∨
          0xE000 ≤ row.first + row.shift ∧ row.last + row.shift < 0x110000) := by
  decide +kernel

theorem le_of_covers {row : Row} {n : Nat} (covered : row.covers n = true) :
    row.first ≤ n ∧ n ≤ row.last := by
  simp only [Row.covers, decide_eq_true_eq] at covered
  exact ⟨covered.1, covered.2.1⟩

theorem toLower_of_not_capital {c : Char} (other : ¬ (0x41 ≤ c.toNat ∧ c.toNat ≤ 0x5A)) :
    c.toLower = c := by
  unfold Char.toLower
  exact dif_neg fun ⟨atLeast, atMost⟩ => other ⟨atLeast, atMost⟩

theorem ofChar_of_ascii {c : Char} (ascii : c.toNat < 128) : ofChar c = c.toLower := by
  by_cases capital : 0x41 ≤ c.toNat ∧ c.toNat ≤ 0x5A
  · have table : ∀ n : Fin 26,
        ofChar (Char.ofNat (0x41 + n)) = (Char.ofNat (0x41 + n)).toLower := by
      decide
    have here := table ⟨c.toNat - 0x41, by omega⟩
    rwa [Nat.add_sub_cancel' capital.1, Char.ofNat_toNat] at here
  · -- No row covers any other ASCII character.
    have uncovered : rows.find? (·.covers c.toNat) = none := by
      refine List.find?_eq_none.mpr fun row member covered => ?_
      obtain ⟨first, last⟩ := le_of_covers covered
      rcases row_cases row member with rfl | rfl | ⟨beyond, -⟩
      · exact capital ⟨first, last⟩
      · exact absurd ascii (Nat.not_lt.mpr (Nat.le_trans (by decide) first))
      · omega
    rw [ofChar, uncovered, toLower_of_not_capital capital]

/-- Lowercase leads from beyond ASCII to ASCII only for the Kelvin sign. -/
theorem ofChar_of_not_ascii {c : Char} (beyond : 128 ≤ c.toNat) :
    128 ≤ (ofChar c).toNat ∨ ofChar c = 'k' := by
  unfold ofChar
  split
  · rename_i row found
    have covered := List.find?_some found
    obtain ⟨first, last⟩ := le_of_covers covered
    rcases row_cases row (List.mem_of_find?_eq_some found) with rfl | rfl | ⟨-, above, inRange⟩
    · dsimp only at last
      omega
    · have kelvin : c.toNat = 0x212A := Nat.le_antisymm last first
      rw [kelvin]
      exact .inr rfl
    · generalize image : (c.toNat + row.shift).toNat = n
      have valid : n.isValidChar := by
        unfold Nat.isValidChar
        omega
      have same : (Char.ofNat n).toNat = n := by
        rw [Char.ofNat, dif_pos valid]
        rfl
      omega
  · exact .inl beyond

theorem mapAfter_of_ascii {cs : List Char} (ascii : ∀ c ∈ cs, c.toNat < 128) (before : List Char) :
    mapAfter before cs = cs.map Char.toLower := by
  induction cs generalizing before with
  | nil => rfl
  | cons c cs ih =>
    obtain ⟨here, rest⟩ := List.forall_mem_cons.mp ascii
    have noSigma : c ≠ 'Σ' := by
      rintro rfl
      exact absurd here (by decide)
    have noDotted : c ≠ 'İ' := by
      rintro rfl
      exact absurd here (by decide)
    rw [mapAfter, if_neg noSigma, if_neg noDotted, ofChar_of_ascii here, ih rest, List.map_cons,
      List.singleton_append]

/-- Whatever is beyond ASCII leaves a trace in the lowercase of the text. -/
theorem trace_of_not_ascii {c : Char} {cs : List Char} (member : c ∈ cs) (beyond : 128 ≤ c.toNat)
    (before : List Char) : ∃ d ∈ mapAfter before cs, 128 ≤ d.toNat ∨ d = 'k' := by
  induction cs generalizing before with
  | nil => cases member
  | cons first cs ih =>
    rw [mapAfter]
    rcases List.mem_cons.mp member with rfl | later
    · simp only [List.mem_append]
      split
      · refine ⟨sigma before cs, .inl (List.mem_singleton_self _), .inl ?_⟩
        unfold sigma
        split <;> decide
      · split
        · exact ⟨'\u0307', .inl (by simp), .inl (by decide)⟩
        · exact ⟨ofChar c, .inl (List.mem_singleton_self _), ofChar_of_not_ascii beyond⟩
    · obtain ⟨d, inside, trace⟩ := ih later (first :: before)
      exact ⟨d, List.mem_append_right _ inside, trace⟩

/-- A word of ASCII characters other than k is the lowercase of nothing but its own spellings. -/
theorem map_eq_iff {cs word : List Char} (ascii : ∀ c ∈ word, c.toNat < 128) (noK : 'k' ∉ word) :
    map cs = word ↔ cs.map Char.toLower = word := by
  rw [map]
  constructor
  · rintro rfl
    have allAscii : ∀ c ∈ cs, c.toNat < 128 := by
      intro c member
      by_contra beyond
      obtain ⟨d, inside, foreign | rfl⟩ := trace_of_not_ascii member (Nat.le_of_not_lt beyond) []
      · exact absurd (ascii d inside) (Nat.not_lt_of_le foreign)
      · exact noK inside
    exact (mapAfter_of_ascii allAscii []).symm
  · rintro rfl
    refine mapAfter_of_ascii (fun c member => ?_) []
    by_contra beyond
    have kept : c.toLower = c := toLower_of_not_capital (by omega)
    exact beyond (kept ▸ ascii _ (List.mem_map_of_mem member))

/-- Words with a k are left out because of the Kelvin sign. -/
example : map ['\u212A'] = ['k'] ∧ ['\u212A'].map Char.toLower ≠ ['k'] := by
  decide +kernel

end Lowercase

/-! ## Words -/

namespace Word

/-- Whether a text is a word, the white space around it and the case of its ASCII letters aside.
`Char.toLower` changes no other characters. -/
def Spells (cs word : List Char) : Prop :=
  ∃ core, Blank.Surrounds cs core ∧ core.map Char.toLower = word

theorem map_trim_eq_iff {cs word : List Char} (ascii : ∀ c ∈ word, c.toNat < 128)
    (noK : 'k' ∉ word) : Lowercase.map (Blank.trim cs) = word ↔ Spells cs word := by
  rw [Lowercase.map_eq_iff ascii noK]
  constructor
  · intro spelled
    exact ⟨Blank.trim cs, Blank.surrounds_trim cs, spelled⟩
  · rintro ⟨core, surrounds, spelled⟩
    rwa [Blank.trim_eq_iff.mpr surrounds]

end Word

end PluginSupport
