import PluginSupport.Proofs.Der.Element

/-!
# Integers are read as they are written

A natural number has exactly one form as an integer element: its fewest bytes, with a zero in front
of them where their first bit would be taken for a sign.

Main results: `Der.readNatural?_eq_some_iff` and `Der.readSmall?_eq_some_iff`.
-/
namespace PluginSupport.Der

open Utf8 (Bytes)

/-! ## Fewest bytes -/

/-- Whether bytes are the fewest that hold their number: the first one is not zero, or else it is
the only one. -/
def Shortest (bytes : Bytes) : Prop :=
  bytes = [0] ∨ bytes ≠ [] ∧ bytes.head? ≠ some 0

/-- Content bytes of an integer that is not negative. -/
def unsigned (bytes : Bytes) : Bytes :=
  if bytes.head?.any (0x80 ≤ ·) then 0 :: bytes else bytes

theorem shortest_cons {b : UInt8} (notZero : b ≠ 0) (bytes : Bytes) : Shortest (b :: bytes) :=
  .inr ⟨List.cons_ne_nil _ _, fun same => notZero (Option.some.inj same)⟩

theorem shortest_singleton (b : UInt8) : Shortest [b] := by
  by_cases zero : b = 0
  · exact .inl (congrArg (· :: []) zero)
  · exact shortest_cons zero []

theorem wrapNatural_eq (n : Nat) :
    wrapNatural n = wrap integerTag (unsigned (fixedWidth (n.log2 / 8 + 1) n)) :=
  rfl

theorem unsigned_of_high {b : UInt8} (high : 0x80 ≤ b) (bytes : Bytes) :
    unsigned (b :: bytes) = 0 :: b :: bytes :=
  if_pos (decide_eq_true high)

theorem unsigned_of_low {b : UInt8} (low : b < 0x80) (bytes : Bytes) :
    unsigned (b :: bytes) = b :: bytes :=
  if_neg fun high => UInt8.not_le.mpr low (of_decide_eq_true high)

theorem magnitude?_unsigned {bytes : Bytes} (shortest : Shortest bytes) :
    magnitude? (unsigned bytes) = some bytes := by
  rcases shortest with rfl | ⟨notEmpty, notZero⟩
  · rfl
  · cases bytes with
    | nil => exact absurd rfl notEmpty
    | cons b bytes =>
      have first : b ≠ 0 := fun zero => notZero (congrArg some zero)
      by_cases high : 0x80 ≤ b
      · rw [unsigned_of_high high, magnitude?, if_pos rfl, if_pos high]
      · have low : b < 0x80 := UInt8.not_le.mp high
        rw [unsigned_of_low low]
        cases bytes with
        | nil => rw [magnitude?, if_pos low]
        | cons c bytes => rw [magnitude?, if_neg first, if_pos low]

theorem magnitude?_eq_some_iff {contents bytes : Bytes} :
    magnitude? contents = some bytes ↔ Shortest bytes ∧ contents = unsigned bytes := by
  constructor
  · intro found
    match contents with
    | [b] =>
      rw [magnitude?] at found
      split at found
      · rename_i low
        cases found
        exact ⟨shortest_singleton b, (unsigned_of_low low []).symm⟩
      · cases found
    | b :: c :: rest =>
      rw [magnitude?] at found
      split at found
      · rename_i zero
        split at found
        · rename_i high
          cases found
          have notZero : c ≠ 0 := fun same => absurd high (same ▸ by decide)
          exact ⟨shortest_cons notZero rest, by rw [zero, unsigned_of_high high]⟩
        · cases found
      · rename_i notZero
        split at found
        · rename_i low
          cases found
          exact ⟨shortest_cons notZero _, (unsigned_of_low low _).symm⟩
        · cases found
  · rintro ⟨shortest, rfl⟩
    exact magnitude?_unsigned shortest

/-! ## Natural numbers -/

theorem number_bytes (n : Nat) : number (fixedWidth (n.log2 / 8 + 1) n) = n := by
  rw [number_fixedWidth]
  refine Nat.mod_eq_of_lt ?_
  rw [← byteCount_le_iff, byteCount]
  split <;> omega

theorem shortest_bytes (n : Nat) : Shortest (fixedWidth (n.log2 / 8 + 1) n) := by
  have width := length_fixedWidth (n.log2 / 8 + 1) n
  have value := number_bytes n
  revert width value
  generalize fixedWidth (n.log2 / 8 + 1) n = bytes
  intro width value
  cases bytes with
  | nil => cases width
  | cons b bytes =>
    by_cases zero : b = 0
    · subst zero
      refine .inl ?_
      have rest : number (0 :: bytes) = number bytes := rfl
      have small := number_lt bytes
      rw [← rest, value, ← byteCount_le_iff, byteCount] at small
      rw [List.length_cons] at width
      split at small
      · rename_i isZero
        rw [isZero] at width
        rw [List.eq_nil_of_length_eq_zero (Nat.succ.inj width)]
      · omega
    · exact shortest_cons zero bytes

/-- A number has one shortest row of bytes. -/
theorem bytes_of_shortest {bytes : Bytes} (shortest : Shortest bytes) :
    fixedWidth ((number bytes).log2 / 8 + 1) (number bytes) = bytes := by
  rcases shortest with rfl | ⟨notEmpty, notZero⟩
  · rfl
  · cases bytes with
    | nil => exact absurd rfl notEmpty
    | cons b bytes =>
      have positive : 0 < b.toNat := by
        refine Nat.pos_of_ne_zero fun zero => notZero ?_
        exact congrArg some (UInt8.toNat_inj.mp zero)
      have least : 256 ^ bytes.length ≤ number (b :: bytes) := by
        rw [number_eq_value, List.map_cons, Numeral.value_cons, List.length_map]
        calc 256 ^ bytes.length ≤ b.toNat * 256 ^ bytes.length := Nat.le_mul_of_pos_left _ positive
          _ ≤ _ := Nat.le_add_right _ _
      have some : number (b :: bytes) ≠ 0 :=
        Nat.ne_of_gt (Nat.lt_of_lt_of_le (Nat.pow_pos (by decide)) least)
      have most : byteCount (number (b :: bytes)) ≤ (b :: bytes).length :=
        byteCount_le_iff.mpr (number_lt _)
      have more : ¬ byteCount (number (b :: bytes)) ≤ bytes.length :=
        mt byteCount_le_iff.mp (Nat.not_lt.mpr least)
      have width : (number (b :: bytes)).log2 / 8 + 1 = (b :: bytes).length := by
        rw [byteCount, if_neg some] at most more
        rw [List.length_cons] at most ⊢
        omega
      rw [width, fixedWidth_number]

/-! ## Reading -/

variable {limits : Limits} {row rest : Bytes}

theorem readMagnitude?_eq_some_iff (sound : limits.Sound) {bytes : Bytes} :
    readMagnitude? limits row = some (bytes, rest) ↔ Shortest bytes ∧
      row = wrap integerTag (unsigned bytes) ++ rest ∧ (unsigned bytes).length < limits.bound := by
  have plain : integerTag &&& 0x1F ≠ 0x1F := by decide
  rw [← read?_eq_some_iff sound plain, readMagnitude?]
  constructor
  · intro taken
    split at taken
    · rename_i contents behind isFound
      obtain ⟨found, isMagnitude, same⟩ := Option.map_eq_some_iff.mp taken
      cases same
      obtain ⟨shortest, rfl⟩ := magnitude?_eq_some_iff.mp isMagnitude
      exact ⟨shortest, isFound⟩
    · cases taken
  · rintro ⟨shortest, isFound⟩
    simp only [isFound, magnitude?_unsigned shortest, Option.map_some]

/-- A natural number is read off a row that is short enough as it is written. -/
theorem readNatural?_eq_some_iff (sound : limits.Sound) (short : row.length < limits.bound)
    {n : Nat} : readNatural? limits row = some (n, rest) ↔ row = wrapNatural n ++ rest := by
  rw [readNatural?, Option.map_eq_some_iff, wrapNatural_eq]
  simp only [Prod.exists, readMagnitude?_eq_some_iff sound, Prod.mk.injEq]
  constructor
  · rintro ⟨bytes, _, ⟨shortest, rfl, -⟩, rfl, rfl⟩
    rw [bytes_of_shortest shortest]
  · rintro rfl
    have shorter := length_lt_wrap integerTag (unsigned (fixedWidth (n.log2 / 8 + 1) n))
    rw [List.length_append] at short
    exact ⟨_, _, ⟨shortest_bytes n, rfl, by omega⟩, number_bytes n, rfl⟩

theorem wrapNatural_toNat (b : UInt8) : wrapNatural b.toNat = wrap integerTag (unsigned [b]) := by
  have single : number [b] = b.toNat := Nat.zero_add _
  rw [wrapNatural_eq, ← single, bytes_of_shortest (shortest_singleton b)]

/-- A number of one byte is read as it is written. -/
theorem readSmall?_eq_some_iff (sound : limits.Sound) (room : 2 < limits.bound) {b : UInt8} :
    readSmall? limits row = some (b, rest) ↔ row = wrapNatural b.toNat ++ rest := by
  have fits : (unsigned [b]).length < limits.bound := by
    rw [unsigned]
    split
    · exact room
    · exact Nat.lt_trans (Nat.lt_succ_self 1) room
  have single := @readMagnitude?_eq_some_iff limits row rest sound [b]
  rw [and_iff_left fits, and_iff_right (shortest_singleton b), ← wrapNatural_toNat] at single
  rw [← single, readSmall?]
  split
  · rename_i found behind isFound
    rw [isFound]
    simp
  · rename_i other
    exact iff_of_false nofun (other b rest)

end PluginSupport.Der
