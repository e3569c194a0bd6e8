import PluginSupport.Address.Mac
import PluginSupport.Proofs.Text.Numeral
import PluginSupport.Proofs.Text.Split
import PluginSupport.Proofs.Text.Utf8

/-!
# MAC texts encode 48 bits

`Mac.Denotes` says which number a text of six groups of two lowercase hexadecimal digits denotes,
without regard to how such texts are written.

* `Mac.denotes_text_iff`: the text of a number denotes its low 48 bits and nothing else.
* `Mac.text_lt_iff`: texts are in the order of the numbers that they denote.

Main result: `Mac.text_exact`.
-/
namespace PluginSupport

namespace Mac

/-! ## What a text denotes -/

/-- Lowercase hexadecimal digits in the order of their values. -/
def digits : List Char := "0123456789abcdef".toList

/-- Two lowercase hexadecimal digits. -/
def IsGroup (group : List Char) : Prop :=
  group.length = 2 ∧ ∀ c ∈ group, c ∈ digits

/-- Number of a row of hexadecimal digits, most significant first. -/
def groupValue (group : List Char) : Nat :=
  Numeral.value 16 (group.map digits.idxOf)

/-- Whether a text consists of six groups with colons between them that denote a number, the most
significant group first. -/
def Denotes (text : String) (n : Nat) : Prop :=
  ∃ groups : List (List Char), groups.length = 6 ∧ (∀ group ∈ groups, IsGroup group) ∧
    text.toList = [':'].intercalate groups ∧ Numeral.value 256 (groups.map groupValue) = n

/-- The groups are the pieces between the colons. -/
theorem onChar_of_groups {groups : List (List Char)} (six : groups.length = 6)
    (areGroups : ∀ group ∈ groups, IsGroup group) :
    Split.onChar ':' ([':'].intercalate groups) = groups := by
  refine Split.onChar_eq_iff.mpr ⟨?_, ?_, rfl⟩
  · rintro rfl
    cases six
  · intro group member colon
    exact absurd ((areGroups group member).2 _ colon) (by decide)

/-- A text denotes one number at most. -/
theorem Denotes.unique {text : String} {m n : Nat} (denotes : Denotes text m)
    (denotesOther : Denotes text n) : m = n := by
  obtain ⟨groups, six, areGroups, spelled, rfl⟩ := denotes
  obtain ⟨others, sixOthers, areOthers, spelledOthers, rfl⟩ := denotesOther
  have same : groups = others := by
    rw [← onChar_of_groups six areGroups, ← spelled, spelledOthers,
      onChar_of_groups sixOthers areOthers]
  rw [same]

/-! ## Octets -/

theorem digitChar_mem {d : Nat} (small : d < 16) :
    Numeral.digitChar d ∈ digits ∧ digits.idxOf (Numeral.digitChar d) = d := by
  have table : ∀ d : Fin 16, Numeral.digitChar d ∈ digits ∧
      digits.idxOf (Numeral.digitChar d) = d.val := by decide
  exact table ⟨d, small⟩

theorem isGroup_hexPair (octet : Nat) : IsGroup (Numeral.hexPair octet) := by
  refine ⟨rfl, ?_⟩
  simp only [Numeral.hexPair, List.forall_mem_cons]
  exact ⟨(digitChar_mem (Nat.mod_lt _ (by decide))).1, (digitChar_mem (Nat.mod_lt _ (by decide))).1,
    nofun⟩

theorem groupValue_hexPair {octet : Nat} (small : octet < 256) :
    groupValue (Numeral.hexPair octet) = octet := by
  have high := (digitChar_mem (Nat.mod_lt (octet / 16) (by decide))).2
  have low := (digitChar_mem (Nat.mod_lt octet (by decide))).2
  simp only [groupValue, Numeral.hexPair, List.map_cons, List.map_nil, high, low, Numeral.value,
    List.foldl_cons, List.foldl_nil]
  omega

theorem map_groupValue_hexPair {os : List Nat} (small : ∀ octet ∈ os, octet < 256) :
    (os.map Numeral.hexPair).map groupValue = os := by
  induction os with
  | nil => rfl
  | cons octet os ih =>
    obtain ⟨here, rest⟩ := List.forall_mem_cons.mp small
    rw [List.map_cons, List.map_cons, groupValue_hexPair here, ih rest]

theorem lt_of_mem_octets {mac : UInt64} {octet : Nat} (member : octet ∈ octets mac) :
    octet < 256 :=
  Numeral.lt_of_mem_lowDigits (by decide) member

theorem toList_text (mac : UInt64) :
    (text mac).toList = Split.join [':'] ((octets mac).map Numeral.hexPair) :=
  String.toList_ofList

/-- The text of a number denotes its low 48 bits. -/
theorem denotes_text (mac : UInt64) : Denotes (text mac) (mac.toNat % 2 ^ 48) := by
  refine ⟨(octets mac).map Numeral.hexPair, ?_, ?_, ?_, ?_⟩
  · rw [List.length_map, octets, Numeral.length_lowDigits]
  · exact List.forall_mem_map.mpr fun octet _ => isGroup_hexPair octet
  · rw [toList_text, Split.join_eq_intercalate]
  · rw [map_groupValue_hexPair fun octet => lt_of_mem_octets, octets, Numeral.value_lowDigits]
    rfl

theorem denotes_text_iff (mac : UInt64) (n : Nat) :
    Denotes (text mac) n ↔ n = mac.toNat % 2 ^ 48 := by
  constructor
  · exact fun denotes => denotes.unique (denotes_text mac)
  · rintro rfl
    exact denotes_text mac

/-! ## Order -/

theorem digitChar_lt {d e : Nat} (order : d < e) (small : e < 16) :
    Numeral.digitChar d < Numeral.digitChar e := by
  have table : ∀ d e : Fin 16, d < e → Numeral.digitChar d < Numeral.digitChar e := by decide
  exact table ⟨d, Nat.lt_trans order small⟩ ⟨e, small⟩ order

/-- Where octets differ, their digits decide, whatever comes behind them. -/
theorem hexPair_append_lt {m n : Nat} (order : m < n) (small : n < 256) (s t : List Char) :
    Numeral.hexPair m ++ s < Numeral.hexPair n ++ t := by
  simp only [Numeral.hexPair, List.cons_append, List.nil_append, List.cons_lt_cons_iff]
  rcases Nat.lt_or_ge (m / 16) (n / 16) with high | notHigh
  · exact .inl (digitChar_lt (by omega) (by omega))
  · have sameHigh : m / 16 = n / 16 := by omega
    exact .inr ⟨by rw [sameHigh], .inl (digitChar_lt (by omega) (by omega))⟩

theorem cons_toList_text (mac : UInt64) :
    ':' :: (text mac).toList = (octets mac).flatMap fun octet => ':' :: Numeral.hexPair octet := by
  have notEmpty : (octets mac).map Numeral.hexPair ≠ [] := by
    refine List.ne_nil_of_length_pos ?_
    rw [List.length_map, octets, Numeral.length_lowDigits]
    decide
  rw [toList_text, Split.cons_join ':' notEmpty, List.flatMap_map]

theorem text_lt_of_lt {mac other : UInt64}
    (smaller : mac.toNat % 2 ^ 48 < other.toNat % 2 ^ 48) : text mac < text other := by
  have positive : 0 < 256 := by decide
  have before : octets mac < octets other := (Numeral.lowDigits_lt_iff positive).mpr smaller
  have written : (octets mac).flatMap (fun octet => ':' :: Numeral.hexPair octet) <
      (octets other).flatMap fun octet => ':' :: Numeral.hexPair octet := by
    refine flatMap_lt_flatMap (fun n _ => List.cons_ne_nil _ _) (fun n member m order s t => ?_)
      before
    exact List.cons_lt_cons_iff.mpr
      (.inr ⟨rfl, hexPair_append_lt order (lt_of_mem_octets member) s t⟩)
  rw [← cons_toList_text, ← cons_toList_text] at written
  refine String.lt_iff.mpr ?_
  simpa using written

theorem text_eq_iff {mac other : UInt64} :
    text mac = text other ↔ mac.toNat % 2 ^ 48 = other.toNat % 2 ^ 48 := by
  constructor
  · intro same
    exact (denotes_text_iff other _).mp (same ▸ denotes_text mac)
  · intro same
    have positive : 0 < 256 := by decide
    have sameOctets : octets mac = octets other := (Numeral.lowDigits_eq_iff positive).mpr same
    rw [text, sameOctets, text]

theorem text_lt_iff {mac other : UInt64} :
    text mac < text other ↔ mac.toNat % 2 ^ 48 < other.toNat % 2 ^ 48 := by
  constructor
  · intro before
    rcases Nat.lt_trichotomy (mac.toNat % 2 ^ 48) (other.toNat % 2 ^ 48) with
      smaller | same | larger
    · exact smaller
    · rw [text_eq_iff.mpr same] at before
      exact absurd before (String.lt_irrefl _)
    · exact absurd (text_lt_of_lt larger) (String.lt_asymm before)
  · exact text_lt_of_lt

/-- The text of a number encodes its low 48 bits.

* It consists of six groups of two lowercase hexadecimal digits, with colons between them, and read
  from the most significant group on it denotes the number modulo 2 ^ 48.
* Two numbers have the same text just in case they agree modulo 2 ^ 48.
* Byte by byte, texts are in the order of the numbers modulo 2 ^ 48. -/
theorem text_exact (mac other : UInt64) :
    (∀ n, Denotes (text mac) n ↔ n = mac.toNat % 2 ^ 48) ∧
      (text mac = text other ↔ mac.toNat % 2 ^ 48 = other.toNat % 2 ^ 48) ∧
      (Utf8.encode (text mac) < Utf8.encode (text other) ↔
        mac.toNat % 2 ^ 48 < other.toNat % 2 ^ 48) :=
  ⟨denotes_text_iff mac, text_eq_iff, Utf8.encode_lt_encode_iff.trans text_lt_iff⟩

end Mac

end PluginSupport
