import PluginSupport.Pem.Base64
import PluginSupport.Proofs.Text.Numeral

/-!
# Bytes out of values of six bits

A row of values of six bits carries bytes if its bits, one value after the other, are the bits of
these bytes (`Base64.Carries`). Bits that are left over behind the last byte are not looked at, and
there are fewer of them than a value has.

Main results: `Base64.Carries.unique`, and how a group of up to four values is taken apart
(`Base64.carries_quad`, `Base64.carries_iff_take`).
-/
namespace PluginSupport.Base64

open Utf8 (Bytes)

/-! ## Bits -/

/-- Bits of a byte, most significant first. -/
def byteBits (b : UInt8) : List Nat :=
  Numeral.lowDigits 2 8 b.toNat

/-- Whether values of six bits carry these bytes: their bits are the bits of the bytes, with fewer
bits left over than a value has. -/
def Carries (sextets : List Nat) (contents : Bytes) : Prop :=
  ∃ spare : List Nat, spare.length < 6 ∧
    sextets.flatMap (Numeral.lowDigits 2 6) = contents.flatMap byteBits ++ spare

theorem length_byteBits (b : UInt8) : (byteBits b).length = 8 :=
  Numeral.length_lowDigits 2 8 b.toNat

theorem byteBits_ofNat (n : Nat) : byteBits (UInt8.ofNat n) = Numeral.lowDigits 2 8 n := by
  rw [byteBits, UInt8.toNat_ofNat']
  exact Numeral.lowDigits_mod (by decide) 8 n

theorem byteBits_injective {a b : UInt8} (same : byteBits a = byteBits b) : a = b := by
  have residues := (Numeral.lowDigits_eq_iff (by decide)).mp same
  refine UInt8.toNat_inj.mp ?_
  rwa [Nat.mod_eq_of_lt a.toNat_lt, Nat.mod_eq_of_lt b.toNat_lt] at residues

theorem length_flatMap_byteBits (contents : Bytes) :
    (contents.flatMap byteBits).length = 8 * contents.length := by
  induction contents with
  | nil => rfl
  | cons b contents ih =>
    rw [List.flatMap_cons, List.length_append, ih, length_byteBits, List.length_cons]
    omega

theorem flatMap_byteBits_injective {contents others : Bytes}
    (same : contents.flatMap byteBits = others.flatMap byteBits) : contents = others := by
  have sameLength := congrArg List.length same
  rw [length_flatMap_byteBits, length_flatMap_byteBits] at sameLength
  induction contents generalizing others with
  | nil => exact (List.eq_nil_of_length_eq_zero (by simpa using sameLength.symm)).symm
  | cons b contents ih =>
    cases others with
    | nil => simp at sameLength
    | cons c others =>
      rw [List.flatMap_cons, List.flatMap_cons] at same
      obtain ⟨first, rest⟩ := List.append_inj same (by rw [length_byteBits, length_byteBits])
      rw [byteBits_injective first, ih rest (by simpa using sameLength)]

theorem Carries.unique {sextets : List Nat} {contents others : Bytes}
    (carries : Carries sextets contents) (carriesOther : Carries sextets others) :
    contents = others := by
  obtain ⟨spare, few, bits⟩ := carries
  obtain ⟨otherSpare, otherFew, otherBits⟩ := carriesOther
  have same := bits.symm.trans otherBits
  have length := congrArg List.length same
  rw [List.length_append, List.length_append, length_flatMap_byteBits, length_flatMap_byteBits]
    at length
  refine flatMap_byteBits_injective (List.append_inj same ?_).1
  rw [length_flatMap_byteBits, length_flatMap_byteBits]
  omega

theorem length_sextetBits (sextets : List Nat) :
    (sextets.flatMap (Numeral.lowDigits 2 6)).length = 6 * sextets.length := by
  induction sextets with
  | nil => rfl
  | cons n sextets ih =>
    rw [List.flatMap_cons, List.length_append, ih, Numeral.length_lowDigits, List.length_cons]
    omega

theorem Carries.length {sextets : List Nat} {contents : Bytes}
    (carries : Carries sextets contents) :
    ∃ spare < 6, 6 * sextets.length = 8 * contents.length + spare := by
  obtain ⟨spare, few, bits⟩ := carries
  have length := congrArg List.length bits
  rw [List.length_append, length_sextetBits, length_flatMap_byteBits] at length
  exact ⟨spare.length, few, length⟩

/-! ## Groups of four -/

theorem bits_quad {a b c d : Nat} (bSmall : b < 64) (cSmall : c < 64) (dSmall : d < 64)
    (rest : List Symbol) :
    (quad (.sextet a :: .sextet b :: .sextet c :: .sextet d :: rest)).flatMap byteBits =
      [a, b, c, d].flatMap (Numeral.lowDigits 2 6) := by
  obtain ⟨word, isWord⟩ : ∃ word, word = ((a * 64 + b) * 64 + c) * 64 + d := ⟨_, rfl⟩
  have bytes : (quad (.sextet a :: .sextet b :: .sextet c :: .sextet d :: rest)) =
      [UInt8.ofNat (word / 65536), UInt8.ofNat (word / 256 % 256), UInt8.ofNat (word % 256)] := by
    rw [isWord]
    rfl
  have inBytes : Numeral.lowDigits 2 24 word = Numeral.lowDigits 2 8 (word / 65536) ++
      (Numeral.lowDigits 2 8 (word / 256) ++ Numeral.lowDigits 2 8 word) := by
    rw [Numeral.lowDigits_add 2 8 16, Numeral.lowDigits_add 2 8 8]
    rfl
  have inSextets : Numeral.lowDigits 2 24 word = Numeral.lowDigits 2 6 (word / 262144) ++
      (Numeral.lowDigits 2 6 (word / 4096) ++
        (Numeral.lowDigits 2 6 (word / 64) ++ Numeral.lowDigits 2 6 word)) := by
    rw [Numeral.lowDigits_add 2 6 18, Numeral.lowDigits_add 2 6 12, Numeral.lowDigits_add 2 6 6]
    rfl
  have sextet : ∀ {m n : Nat}, m % 64 = n % 64 →
      Numeral.lowDigits 2 6 m = Numeral.lowDigits 2 6 n := fun same =>
    (Numeral.lowDigits_eq_iff (by decide)).mpr same
  have octet : ∀ n, Numeral.lowDigits 2 8 (n % 256) = Numeral.lowDigits 2 8 n := fun n =>
    Numeral.lowDigits_mod (by decide) 8 n
  simp only [bytes, List.flatMap_cons, List.flatMap_nil, List.append_nil, byteBits_ofNat, octet,
    ← inBytes]
  rw [inSextets, sextet (by omega : word / 262144 % 64 = a % 64),
    sextet (by omega : word / 4096 % 64 = b % 64), sextet (by omega : word / 64 % 64 = c % 64),
    sextet (by omega : word % 64 = d % 64)]

theorem carries_quad {a b c d : Nat} (bSmall : b < 64) (cSmall : c < 64) (dSmall : d < 64)
    {sextets : List Nat} {contents : Bytes} :
    Carries (a :: b :: c :: d :: sextets) contents ↔
      ∃ rest, contents = quad [.sextet a, .sextet b, .sextet c, .sextet d] ++ rest ∧
        Carries sextets rest := by
  have split : (a :: b :: c :: d :: sextets).flatMap (Numeral.lowDigits 2 6) =
      (quad [.sextet a, .sextet b, .sextet c, .sextet d]).flatMap byteBits ++
        sextets.flatMap (Numeral.lowDigits 2 6) := by
    rw [bits_quad bSmall cSmall dSmall, ← List.flatMap_append]
    rfl
  constructor
  · intro carries
    obtain ⟨_, _, length⟩ := carries.length
    obtain ⟨spare, few, bits⟩ := carries
    have long : 3 ≤ contents.length := by
      simp only [List.length_cons] at length
      omega
    rw [← List.take_append_drop 3 contents, List.flatMap_append, split, List.append_assoc] at bits
    have three : (contents.take 3).length = 3 := List.length_take_of_le long
    obtain ⟨front, back⟩ := List.append_inj bits (by
      rw [length_flatMap_byteBits, length_flatMap_byteBits, three]
      rfl)
    refine ⟨contents.drop 3, ?_, spare, few, back⟩
    rw [flatMap_byteBits_injective front, List.take_append_drop]
  · rintro ⟨rest, rfl, spare, few, bits⟩
    exact ⟨spare, few, by rw [split, bits, List.flatMap_append, List.append_assoc]⟩

theorem carries_nil {contents : Bytes} : Carries [] contents ↔ contents = [] := by
  have empty : Carries [] [] := ⟨[], by decide, rfl⟩
  exact ⟨fun carries => carries.unique empty, fun none => none ▸ empty⟩

/-- Values carry the front bytes of what they make together with others behind them. -/
theorem carries_take {sextets others : List Nat} {bytes : Bytes} {count : Nat}
    (bits : (sextets ++ others).flatMap (Numeral.lowDigits 2 6) = bytes.flatMap byteBits)
    (atLeast : 8 * count ≤ 6 * sextets.length) (few : 6 * sextets.length < 8 * count + 6) :
    Carries sextets (bytes.take count) := by
  have length := congrArg List.length bits
  rw [length_sextetBits, length_flatMap_byteBits, List.length_append] at length
  have taken : (bytes.take count).length = count := List.length_take_of_le (by omega)
  refine ⟨((bytes.drop count).flatMap byteBits).take (6 * sextets.length - 8 * count),
    by rw [List.length_take]; omega, ?_⟩
  have front := congrArg (List.take (6 * sextets.length)) bits
  rw [List.flatMap_append, List.take_left' (length_sextetBits sextets),
    ← List.take_append_drop count bytes, List.flatMap_append, List.take_append,
    length_flatMap_byteBits, taken, List.take_of_length_le] at front
  · exact front
  · rw [length_flatMap_byteBits, taken]
    exact atLeast

/-- Two symbols hold one byte. -/
theorem carries_pair {a b : Nat} (small : b < 64) {contents : Bytes} :
    Carries [a, b] contents ↔ contents = (quad [.sextet a, .sextet b]).take 1 := by
  have whole := @bits_quad a _ _ _ small (by decide : 0 < 64) (by decide : 0 < 64) []
  have pair : Carries [a, b] ((quad [.sextet a, .sextet b]).take 1) :=
    @carries_take [a, b] [0, 0] _ 1 whole.symm (Nat.le_add_right 8 4) (Nat.le_add_right 13 1)
  exact ⟨fun carries => carries.unique pair, fun same => same ▸ pair⟩

/-- Three symbols hold two bytes. -/
theorem carries_triple {a b c : Nat} (bSmall : b < 64) (cSmall : c < 64) {contents : Bytes} :
    Carries [a, b, c] contents ↔
      contents = (quad [.sextet a, .sextet b, .sextet c]).take 2 := by
  have whole := @bits_quad a _ _ _ bSmall cSmall (by decide : 0 < 64) []
  have triple : Carries [a, b, c] ((quad [.sextet a, .sextet b, .sextet c]).take 2) :=
    @carries_take [a, b, c] [0] _ 2 whole.symm (Nat.le_add_right 16 2) (Nat.le_add_right 19 3)
  exact ⟨fun carries => carries.unique triple, fun same => same ▸ triple⟩

/-- A group of values carries as many whole bytes as it has bits for, if every value counts. -/
theorem carries_iff_take {sextets : List Nat} (short : sextets.length ≤ 4)
    (small : ∀ n ∈ sextets, n < 64) {contents : Bytes} :
    Carries sextets contents ↔ sextets.length ≠ 1 ∧
      contents = (quad (sextets.map .sextet)).take (6 * sextets.length / 8) := by
  match sextets with
  | [] => simp [carries_nil]
  | [a] =>
    refine iff_of_false (fun carries => ?_) (fun one => one.1 rfl)
    obtain ⟨spare, few, length⟩ := carries.length
    simp only [List.length_cons, List.length_nil] at length
    omega
  | [a, b] =>
    rw [carries_pair (small b (by simp))]
    simp
  | [a, b, c] =>
    rw [carries_triple (small b (by simp)) (small c (by simp))]
    simp
  | [a, b, c, d] =>
    rw [carries_quad (small b (by simp)) (small c (by simp)) (small d (by simp))]
    simp [carries_nil, quad]
  | _ :: _ :: _ :: _ :: _ :: _ =>
    simp only [List.length_cons] at short
    omega

end PluginSupport.Base64
