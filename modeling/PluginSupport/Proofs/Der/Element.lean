import PluginSupport.Der.Element
import PluginSupport.Proofs.Text.Numeral

/-!
# Elements are read as they are written

A DER element has exactly one form: reading takes what `Der.wrap` writes off the front of a row, and
nothing else (`Der.read?_eq_some_iff`). So it is for an element that stands alone
(`Der.readOnly?_eq_some_iff`) and for a bit string (`Der.readBitString?_eq_some_iff`).
-/
namespace PluginSupport.Der

open Utf8 (Bytes)

/-! ## Numbers -/

theorem number_eq_value (bytes : Bytes) :
    number bytes = Numeral.value 256 (bytes.map UInt8.toNat) := by
  rw [number, Numeral.value, List.foldl_map]

theorem toNat_lt_of_mem_map {bytes : Bytes} : ∀ d ∈ bytes.map UInt8.toNat, d < 256 := by
  intro d member
  obtain ⟨b, -, rfl⟩ := List.mem_map.mp member
  exact b.toNat_lt

theorem length_fixedWidth (width n : Nat) : (fixedWidth width n).length = width := by
  rw [fixedWidth, List.length_map, Numeral.length_lowDigits]

theorem number_fixedWidth (width n : Nat) : number (fixedWidth width n) = n % 256 ^ width := by
  have digits : ((Numeral.lowDigits 256 width n).map UInt8.ofNat).map UInt8.toNat =
      Numeral.lowDigits 256 width n := by
    rw [List.map_map]
    refine (List.map_congr_left fun d member => ?_).trans (List.map_id _)
    exact UInt8.toNat_ofNat_of_lt' (Numeral.lt_of_mem_lowDigits (by decide) member)
  rw [number_eq_value, fixedWidth, digits, Numeral.value_lowDigits]

theorem fixedWidth_number (bytes : Bytes) : fixedWidth bytes.length (number bytes) = bytes := by
  have digits := Numeral.lowDigits_value (@toNat_lt_of_mem_map bytes)
  rw [List.length_map] at digits
  rw [fixedWidth, number_eq_value, digits, List.map_map]
  exact (List.map_congr_left fun b _ => UInt8.ofNat_toNat).trans (List.map_id bytes)

theorem number_lt (bytes : Bytes) : number bytes < 256 ^ bytes.length := by
  have below := Numeral.value_lt (@toNat_lt_of_mem_map bytes)
  rwa [← number_eq_value, List.length_map] at below

/-- A number fits so many bytes if it has no more. -/
theorem byteCount_le_iff {n count : Nat} : byteCount n ≤ count ↔ n < 256 ^ count := by
  rw [byteCount]
  split
  · rename_i zero
    rw [zero]
    exact iff_of_true (Nat.zero_le count) (Nat.pow_pos (by decide))
  · rename_i some
    have power : 256 ^ count = 2 ^ (8 * count) := by rw [Nat.pow_mul]
    rw [power, ← Nat.log2_lt some]
    omega

/-! ## Lengths -/

theorem writeLength_of_lt {length : Nat} (short : length < 128) :
    writeLength length = [UInt8.ofNat length] :=
  if_pos short

theorem writeLength_of_le {length : Nat} (long : 128 ≤ length) :
    writeLength length =
      UInt8.ofNat (0x80 + byteCount length) :: fixedWidth (byteCount length) length :=
  if_neg (Nat.not_lt.mpr long)

theorem toNat_ofNat {n : Nat} (small : n < 256) : (UInt8.ofNat n).toNat = n :=
  UInt8.toNat_ofNat_of_lt' small

theorem lt_mark_iff {b : UInt8} : b < 0x80 ↔ b.toNat < 128 :=
  UInt8.lt_iff_toNat_lt

/-- Fewest bytes that a length of the long form may have. -/
theorem least_le_iff {length : Nat} (long : 128 ≤ length) {count : Nat} (some : count ≠ 0)
    (fits : length < 256 ^ count) :
    (if count = 1 then 128 else Nat.pow 256 (count - 1)) ≤ length ↔ byteCount length = count := by
  have most := byteCount_le_iff.mpr fits
  have least : byteCount length ≤ count - 1 ↔ length < 256 ^ (count - 1) := byteCount_le_iff
  split
  · rename_i one
    subst one
    rw [Nat.sub_self, Nat.pow_zero] at least
    omega
  · show 256 ^ (count - 1) ≤ length ↔ _
    omega

/-- Lengths of up to `limits.lengthBytes` bytes are read as they are written. -/
theorem readLength?_writeLength {limits : Limits} (few : limits.lengthBytes < 128) {length : Nat}
    (fits : length < 256 ^ limits.lengthBytes) (rest : Bytes) :
    readLength? limits (writeLength length ++ rest) = some (length, rest) := by
  rcases Nat.lt_or_ge length 128 with short | long
  · have byte : (UInt8.ofNat length).toNat = length := toNat_ofNat (by omega)
    rw [writeLength_of_lt short, List.singleton_append, readLength?,
      if_pos (lt_mark_iff.mpr (byte.trans_lt short)), byte]
  · have count := byteCount_le_iff.mpr fits
    have byte : (UInt8.ofNat (0x80 + byteCount length)).toNat = 0x80 + byteCount length :=
      toNat_ofNat (by omega)
    have marked : ¬ UInt8.ofNat (0x80 + byteCount length) < 0x80 := by
      rw [lt_mark_iff, byte]
      omega
    have notZero : byteCount length ≠ 0 := fun none => by
      have zero := byteCount_le_iff.mp none.le
      rw [Nat.pow_zero] at zero
      omega
    have whole : length < 256 ^ byteCount length := byteCount_le_iff.mp (Nat.le_refl _)
    have shortest := (least_le_iff long notZero whole).mpr rfl
    have width := length_fixedWidth (byteCount length) length
    simp only [writeLength_of_le long, List.cons_append, readLength?, if_neg marked, byte,
      Nat.add_sub_cancel_left, List.take_left' width, List.drop_left' width, number_fixedWidth,
      Nat.mod_eq_of_lt whole, if_neg (Nat.not_lt.mpr shortest)]
    rw [if_neg]
    rw [List.length_append, width]
    omega

theorem eq_of_readLength? {limits : Limits} {row rest : Bytes} {length : Nat}
    (taken : readLength? limits row = some (length, rest)) : row = writeLength length ++ rest := by
  cases row with
  | nil => cases taken
  | cons b row =>
    rw [readLength?] at taken
    split at taken
    · rename_i short
      cases taken
      rw [writeLength_of_lt (lt_mark_iff.mp short), UInt8.ofNat_toNat]
      rfl
    · rename_i marked
      rw [lt_mark_iff] at marked
      simp only [] at taken
      split at taken
      · cases taken
      · rename_i bounded
        generalize isLeast :
          (if b.toNat - 0x80 = 1 then 128 else Nat.pow 256 (b.toNat - 0x80 - 1)) = least at taken
        split at taken
        · cases taken
        · rename_i shortest
          rw [Option.some.injEq, Prod.mk.injEq] at taken
          obtain ⟨rfl, rfl⟩ := taken
          obtain ⟨count, isCount⟩ : ∃ count, b.toNat - 0x80 = count := ⟨_, rfl⟩
          rw [isCount] at bounded isLeast shortest ⊢
          have width : (row.take count).length = count := by
            rw [List.length_take]
            omega
          have fits := number_lt (row.take count)
          rw [width] at fits
          rw [← isLeast, Nat.not_lt] at shortest
          have long : 128 ≤ number (row.take count) := by
            refine Nat.le_trans ?_ shortest
            split
            · exact Nat.le_refl _
            · have more : 1 ≤ count - 1 := by omega
              exact Nat.le_trans (by decide : 128 ≤ 256 ^ 1) (Nat.pow_le_pow_right (by decide) more)
          have exact := (least_le_iff long (by omega) fits).mp shortest
          have bytes := fixedWidth_number (row.take count)
          rw [width] at bytes
          rw [writeLength_of_le long, exact, bytes, List.cons_append, List.take_append_drop,
            ← isCount, Nat.add_sub_cancel' (Nat.not_lt.mp marked), UInt8.ofNat_toNat]

theorem length_writeLength_pos (length : Nat) : 0 < (writeLength length).length := by
  rw [writeLength]
  split <;> exact Nat.succ_pos _

/-! ## Elements -/

/-- Contents are shorter than their element. -/
theorem length_lt_wrap (tag : UInt8) (contents : Bytes) :
    contents.length + 1 < (wrap tag contents).length := by
  have some := length_writeLength_pos contents.length
  rw [wrap, List.length_append, List.length_cons]
  omega

variable {limits : Limits} {tag : UInt8} {row contents rest : Bytes}

/-- What a reader of elements must allow: one byte marks how many bytes a length has, and these
suffice for all contents that are short enough. -/
structure Limits.Sound (limits : Limits) : Prop where
  few : limits.lengthBytes < 128
  enough : limits.bound ≤ 256 ^ limits.lengthBytes

theorem read?_wrap (sound : limits.Sound) (plain : tag &&& 0x1F ≠ 0x1F)
    (short : contents.length < limits.bound) (rest : Bytes) :
    read? limits tag (wrap tag contents ++ rest) = some (contents, rest) := by
  have length := readLength?_writeLength sound.few (Nat.lt_of_lt_of_le short sound.enough)
    (contents ++ rest)
  have element : readElement? limits (wrap tag contents ++ rest) = some ⟨tag, contents, rest⟩ := by
    rw [wrap, List.append_assoc, List.cons_append, readElement?, if_neg plain, length]
    simp [Nat.not_le.mpr short]
  rw [read?, element]
  exact if_pos rfl

theorem eq_of_readElement? {element : Element}
    (taken : readElement? limits row = some element) :
    row = wrap element.tag element.contents ++ element.rest ∧
      element.contents.length < limits.bound := by
  cases row with
  | nil => cases taken
  | cons b row =>
    rw [readElement?] at taken
    split at taken
    · cases taken
    · split at taken
      · cases taken
      · rename_i length behind isLength
        split at taken
        · cases taken
        · rename_i bounded
          cases taken
          have width : (behind.take length).length = length := by
            rw [List.length_take]
            omega
          refine ⟨?_, ?_⟩
          · show b :: row = wrap b (behind.take length) ++ behind.drop length
            rw [eq_of_readLength? isLength, wrap, width, List.append_assoc, List.cons_append,
              List.take_append_drop]
          · show (behind.take length).length < limits.bound
            omega

/-- Reading takes what writing makes of contents that are short enough. -/
theorem read?_eq_some_iff (sound : limits.Sound) (plain : tag &&& 0x1F ≠ 0x1F) :
    read? limits tag row = some (contents, rest) ↔
      row = wrap tag contents ++ rest ∧ contents.length < limits.bound := by
  constructor
  · intro taken
    rw [read?] at taken
    split at taken
    · rename_i element isElement
      split at taken
      · rename_i tagged
        cases taken
        rw [← tagged]
        exact eq_of_readElement? isElement
      · cases taken
    · cases taken
  · rintro ⟨rfl, short⟩
    exact read?_wrap sound plain short rest

theorem readOnly?_eq_some_iff (sound : limits.Sound) (plain : tag &&& 0x1F ≠ 0x1F) :
    readOnly? limits tag row = some contents ↔
      row = wrap tag contents ∧ contents.length < limits.bound := by
  have whole := @read?_eq_some_iff limits tag row contents [] sound plain
  rw [List.append_nil] at whole
  rw [readOnly?, ← whole]
  split
  · rename_i found isFound
    rw [isFound, Option.some.injEq, Option.some.injEq, Prod.mk.injEq]
    simp
  · rename_i other
    refine iff_of_false nofun fun found => ?_
    exact other contents found

theorem readBitString?_eq_some_iff (sound : limits.Sound) (plain : tag &&& 0x1F ≠ 0x1F) :
    readBitString? limits tag row = some (contents, rest) ↔
      row = wrap tag (0 :: contents) ++ rest ∧ (0 :: contents : Bytes).length < limits.bound := by
  rw [← read?_eq_some_iff sound plain, readBitString?]
  cases read? limits tag row with
  | none => simp
  | some found =>
    obtain ⟨bytes, behind⟩ := found
    cases bytes with
    | nil => simp [wholeBytes?]
    | cons b bytes =>
      by_cases zero : b = 0
      · simp [wholeBytes?, zero]
      · simp [wholeBytes?, zero]

theorem startsWith_wrap (other : UInt8) (contents rest : Bytes) :
    startsWith tag (wrap other contents ++ rest) = decide (other = tag) := by
  simp [startsWith, wrap]

end PluginSupport.Der
