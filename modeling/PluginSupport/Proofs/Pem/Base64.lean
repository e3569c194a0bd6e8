import PluginSupport.Proofs.Pem.Sextets

/-!
# What a body stands for

A body stands for bytes (`Stands`) if it consists, but for white space, of symbols whose values
carry the bytes, and of pads behind them. Pads fill the last group of four up, or are left out.

Decoding takes symbols in blocks of eight and holds the last ones back. What is held back counts
like symbols that are still to come (`decodeAfter_eq_ok_iff`).

Main results: `decode_eq_ok_iff`, and `stands_encode`, by which every row of bytes has a body; so
decoding reads back what encoding writes (`decode_encode`).
-/
namespace PluginSupport.Base64

open Utf8 (Bytes)

/-! ## Bodies -/

/-- Symbols, in the order of their values. -/
def alphabet : Bytes :=
  "ABCDEFGHIJKLMNOPQRSTUVWXYZabcdefghijklmnopqrstuvwxyz0123456789+/".toList.map fun c =>
    UInt8.ofNat c.toNat

/-- White space. -/
def blanks : Bytes := [9, 10, 11, 12, 13, 32]

/-- The pad. -/
def padding : UInt8 := 61

/-- Whether a number of pads is right behind a number of symbols: either there are none, or they
fill up the last group of four. -/
def FillsUp (symbols pads : Nat) : Prop :=
  pads = 0 ∨ pads < 4 ∧ (symbols + pads) % 4 = 0

instance (symbols pads : Nat) : Decidable (FillsUp symbols pads) :=
  inferInstanceAs (Decidable (pads = 0 ∨ pads < 4 ∧ (symbols + pads) % 4 = 0))

/-- Whether a body stands for these bytes. -/
def Stands (body contents : Bytes) : Prop :=
  ∃ symbols pads, (∀ b ∈ symbols, b ∈ alphabet) ∧ FillsUp symbols.length pads ∧
    body.filter (fun b => decide (b ∉ blanks)) = symbols ++ List.replicate pads padding ∧
    Carries (symbols.map alphabet.idxOf) contents

/-! ## Roles of bytes -/

theorem solid_of_mem_alphabet : ∀ b ∈ alphabet, b ∉ blanks := by
  decide +kernel

theorem solid_padding : padding ∉ blanks := by
  decide

theorem role_eq (b : UInt8) :
    role b =
      if b ∈ blanks then .blank
      else if b ∈ alphabet then .symbol (.sextet (alphabet.idxOf b))
      else if b = padding then .symbol .pad
      else .invalid := by
  have table : ∀ n : Fin 256, role (UInt8.ofNat n.val) =
      if UInt8.ofNat n.val ∈ blanks then .blank
      else if UInt8.ofNat n.val ∈ alphabet then
        .symbol (.sextet (alphabet.idxOf (UInt8.ofNat n.val)))
      else if UInt8.ofNat n.val = padding then .symbol .pad
      else .invalid := by
    decide +kernel
  have here := table ⟨b.toNat, b.toNat_lt⟩
  rwa [UInt8.ofNat_toNat] at here

theorem bits_of_role {b : UInt8} {s : Symbol} (isSymbol : role b = .symbol s) : s.bits < 64 := by
  rw [role_eq] at isSymbol
  split at isSymbol
  · cases isSymbol
  · split at isSymbol
    · rename_i member
      cases isSymbol
      exact List.idxOf_lt_length_of_mem member
    · split at isSymbol <;> cases isSymbol
      decide

theorem role_eq_blank_iff {b : UInt8} : role b = .blank ↔ b ∈ blanks := by
  rw [role_eq]
  split
  · simpa
  · rename_i solid
    refine iff_of_false ?_ solid
    split
    · nofun
    · split <;> nofun

theorem role_symbol_iff {b : UInt8} {s : Symbol} : role b = .symbol s ↔
    b ∈ alphabet ∧ s = .sextet (alphabet.idxOf b) ∨ b = padding ∧ s = .pad := by
  have padOutside : padding ∉ alphabet := by decide
  rw [role_eq]
  constructor
  · intro isSymbol
    split at isSymbol
    · cases isSymbol
    · split at isSymbol
      · cases isSymbol
        exact .inl ⟨‹_›, rfl⟩
      · split at isSymbol <;> cases isSymbol
        exact .inr ⟨‹_›, rfl⟩
  · rintro (⟨member, rfl⟩ | ⟨rfl, rfl⟩)
    · rw [if_neg (solid_of_mem_alphabet b member), if_pos member]
    · rw [if_neg solid_padding, if_neg padOutside, if_pos rfl]

/-! ## Rows of symbols -/

/-- Whether a row of symbols means these bytes: it consists of values that carry them, and of pads
that fill the last group up or are left out. -/
def Means (symbols : List Symbol) (contents : Bytes) : Prop :=
  ∃ sextets pads, symbols = sextets.map .sextet ++ List.replicate pads .pad ∧
    FillsUp sextets.length pads ∧ Carries sextets contents

theorem sextets_eq_cons {sextets : List Nat} {pads n : Nat} {symbols : List Symbol} :
    .sextet n :: symbols = sextets.map Symbol.sextet ++ List.replicate pads .pad ↔
      ∃ more, sextets = n :: more ∧
        symbols = more.map Symbol.sextet ++ List.replicate pads .pad := by
  cases sextets with
  | nil => cases pads <;> simp [List.replicate_succ]
  | cons m more =>
    simp only [List.map_cons, List.cons_append, List.cons.injEq, Symbol.sextet.injEq]
    constructor
    · rintro ⟨rfl, same⟩
      exact ⟨more, ⟨rfl, rfl⟩, same⟩
    · rintro ⟨_, ⟨rfl, rfl⟩, same⟩
      exact ⟨rfl, same⟩

/-- A group of four values stands for three bytes, whatever follows. -/
theorem means_quad {a b c d : Nat} (bSmall : b < 64) (cSmall : c < 64) (dSmall : d < 64)
    {symbols : List Symbol} {contents : Bytes} :
    Means (.sextet a :: .sextet b :: .sextet c :: .sextet d :: symbols) contents ↔
      ∃ rest, contents = quad [.sextet a, .sextet b, .sextet c, .sextet d] ++ rest ∧
        Means symbols rest := by
  have fills : ∀ {count pads : Nat}, FillsUp (count + 1 + 1 + 1 + 1) pads ↔ FillsUp count pads := by
    intro count pads
    unfold FillsUp
    omega
  constructor
  · rintro ⟨sextets, pads, same, fillsUp, carries⟩
    obtain ⟨_, rfl, behindA⟩ := sextets_eq_cons.mp same
    obtain ⟨_, rfl, behindB⟩ := sextets_eq_cons.mp behindA
    obtain ⟨_, rfl, behindC⟩ := sextets_eq_cons.mp behindB
    obtain ⟨sextets, rfl, behindD⟩ := sextets_eq_cons.mp behindC
    obtain ⟨rest, whole, carries⟩ := (carries_quad bSmall cSmall dSmall).mp carries
    exact ⟨rest, whole, sextets, pads, behindD, fills.mp fillsUp, carries⟩
  · rintro ⟨rest, whole, sextets, pads, rfl, fillsUp, carries⟩
    exact ⟨a :: b :: c :: d :: sextets, pads, rfl, fills.mpr fillsUp,
      (carries_quad bSmall cSmall dSmall).mpr ⟨rest, whole, carries⟩⟩

/-- Nothing may follow a group with a pad. -/
theorem Means.length_le {symbols : List Symbol} {contents : Bytes} (means : Means symbols contents)
    (padded : (symbols.take 4).any Symbol.isPad = true) : symbols.length ≤ 4 := by
  obtain ⟨sextets, pads, rfl, fillsUp, -⟩ := means
  have early : sextets.length < 4 := by
    by_contra late
    rw [List.take_append_of_le_length (by simpa using late)] at padded
    simp [← List.map_take, Symbol.isPad] at padded
  rw [List.length_append, List.length_map, List.length_replicate]
  unfold FillsUp at fillsUp
  omega

/-! ## The last group -/

theorem map_bits {symbols : List Symbol} (noPad : ∀ s ∈ symbols, s.isPad = false) :
    (symbols.map Symbol.bits).map Symbol.sextet = symbols := by
  rw [List.map_map]
  refine (List.map_congr_left fun s member => ?_).trans (List.map_id symbols)
  cases s with
  | sextet n => rfl
  | pad => cases noPad _ member

theorem exists_sextets {symbols : List Symbol} (count pads : Nat)
    (shape : symbols.map Symbol.isPad = List.replicate count false ++ List.replicate pads true) :
    ∃ (sextets : List Nat) (pads : Nat),
      symbols = sextets.map .sextet ++ List.replicate pads .pad := by
  obtain ⟨front, back, rfl, frontShape, backShape⟩ := List.map_eq_append_iff.mp shape
  have frontLength := congrArg List.length frontShape
  have backLength := congrArg List.length backShape
  rw [List.length_map, List.length_replicate] at frontLength backLength
  have areSextets : ∀ s ∈ front, s.isPad = false := by
    rw [← frontLength] at frontShape
    exact List.map_eq_replicate_iff.mp frontShape
  have arePads : ∀ s ∈ back, s = .pad := by
    rw [← backLength] at backShape
    intro s member
    cases s with
    | pad => rfl
    | sextet n => cases List.map_eq_replicate_iff.mp backShape _ member
  refine ⟨front.map Symbol.bits, pads, ?_⟩
  rw [map_bits areSextets, List.eq_replicate_iff.mpr ⟨backLength, arePads⟩]

/-- A row of symbols splits into values and pads in one way only. -/
theorem split_unique {sextets others : List Nat} {pads otherPads : Nat}
    (same : sextets.map Symbol.sextet ++ List.replicate pads .pad =
      others.map Symbol.sextet ++ List.replicate otherPads .pad) :
    sextets = others ∧ pads = otherPads := by
  induction sextets generalizing others with
  | nil =>
    cases others with
    | nil => exact ⟨rfl, by simpa using congrArg List.length same⟩
    | cons n others => cases pads <;> simp [List.replicate_succ] at same
  | cons n sextets ih =>
    obtain ⟨others, rfl, behind⟩ := sextets_eq_cons.mp same
    obtain ⟨rfl, samePads⟩ := ih behind
    exact ⟨rfl, samePads⟩

theorem means_iff {sextets : List Nat} {pads : Nat} {contents : Bytes} :
    Means (sextets.map .sextet ++ List.replicate pads .pad) contents ↔
      FillsUp sextets.length pads ∧ Carries sextets contents := by
  constructor
  · rintro ⟨others, otherPads, same, fillsUp, carries⟩
    obtain ⟨rfl, rfl⟩ := split_unique same
    exact ⟨fillsUp, carries⟩
  · rintro ⟨fillsUp, carries⟩
    exact ⟨sextets, pads, rfl, fillsUp, carries⟩

/-- Padding counts as zero, as what is missing does. -/
theorem quad_append_pads (symbols : List Symbol) (pads : Nat) :
    quad (symbols ++ List.replicate pads .pad) = quad symbols := by
  have bits : ∀ i : Nat, ((symbols ++ List.replicate pads Symbol.pad)[i]?.map Symbol.bits).getD 0 =
      (symbols[i]?.map Symbol.bits).getD 0 := by
    intro i
    rw [List.getElem?_append]
    split
    · rfl
    · rename_i beyond
      rw [List.getElem?_eq_none (Nat.le_of_not_lt beyond), List.getElem?_replicate]
      split <;> rfl
  simp only [quad, bits]

theorem lastQuad_pads {sextets : List Nat} {pads : Nat} (short : sextets.length + pads ≤ 4) :
    lastQuad (sextets.map .sextet ++ List.replicate pads .pad) =
      if sextets.length ≠ 1 ∧ FillsUp sextets.length pads then
        .ok ((quad (sextets.map .sextet)).take (6 * sextets.length / 8))
      else .error .invalidTrailingPadding := by
  have shape : (sextets.map Symbol.sextet ++ List.replicate pads Symbol.pad).map Symbol.isPad =
      List.replicate sextets.length false ++ List.replicate pads true := by
    rw [List.map_append, List.map_map, List.map_replicate, ← List.map_const']
    rfl
  rw [lastQuad, shape, quad_append_pads]
  generalize sextets.length = count at short
  have countSmall : count ≤ 4 := by omega
  have padsSmall : pads ≤ 4 := by omega
  interval_cases count <;> interval_cases pads <;> rfl

theorem exists_of_lastQuad {group : List Symbol} {contents : Bytes}
    (decoded : lastQuad group = .ok contents) :
    ∃ (sextets : List Nat) (pads : Nat),
      group = sextets.map .sextet ++ List.replicate pads .pad := by
  unfold lastQuad at decoded
  split at decoded
  case h_1 none => exact exists_sextets 0 0 none
  case h_2 four => exact exists_sextets 4 0 four
  case h_3 padded => exact exists_sextets 3 1 padded
  case h_4 three => exact exists_sextets 3 0 three
  case h_5 padded => exact exists_sextets 2 2 padded
  case h_6 two => exact exists_sextets 2 0 two
  case h_7 => cases decoded

theorem lastQuad_eq_ok_iff {group : List Symbol} (short : group.length ≤ 4)
    (small : ∀ s ∈ group, s.bits < 64) {contents : Bytes} :
    lastQuad group = .ok contents ↔ Means group contents := by
  have decided : ∀ (sextets : List Nat) (pads : Nat),
      group = sextets.map .sextet ++ List.replicate pads .pad →
      (lastQuad group = .ok contents ↔ Means group contents) := by
    rintro sextets pads rfl
    rw [List.length_append, List.length_map, List.length_replicate] at short
    have smallSextets : ∀ n ∈ sextets, n < 64 := fun n member =>
      small _ (List.mem_append_left _ (List.mem_map_of_mem member))
    rw [lastQuad_pads short, means_iff, carries_iff_take (by omega) smallSextets]
    split
    · rename_i valid
      simp [valid, eq_comm]
    · rename_i invalid
      simp only [reduceCtorEq, false_iff]
      rintro ⟨fillsUp, several, -⟩
      exact invalid ⟨several, fillsUp⟩
  constructor
  · intro decoded
    obtain ⟨sextets, pads, same⟩ := exists_of_lastQuad decoded
    exact (decided sextets pads same).mp decoded
  · intro means
    have ⟨sextets, pads, same, _⟩ := means
    exact (decided sextets pads same).mpr means

/-! ## Blocks -/

theorem exists_four {symbols : List Symbol} (long : 4 ≤ symbols.length)
    (unpadded : (symbols.take 4).any Symbol.isPad = false) :
    ∃ a b c d, symbols =
      .sextet a :: .sextet b :: .sextet c :: .sextet d :: symbols.drop 4 := by
  match symbols with
  | one :: two :: three :: four :: rest =>
    cases one <;> cases two <;> cases three <;> cases four <;>
      simp_all [Symbol.isPad]

/-- A group that is followed is four values. -/
theorem means_front {symbols : List Symbol} (followed : 4 < symbols.length)
    (small : ∀ s ∈ symbols.take 4, s.bits < 64) {contents : Bytes} :
    Means symbols contents ↔ (symbols.take 4).any Symbol.isPad = false ∧
      ∃ rest, contents = quad symbols ++ rest ∧ Means (symbols.drop 4) rest := by
  cases padded : (symbols.take 4).any Symbol.isPad with
  | true =>
    refine iff_of_false (fun means => ?_) (fun unpadded => by cases unpadded.1)
    have short := means.length_le padded
    omega
  | false =>
    obtain ⟨a, b, c, d, same⟩ := exists_four (Nat.le_of_lt followed) padded
    rw [same] at small
    have bSmall : b < 64 := small (.sextet b) (by simp)
    have cSmall : c < 64 := small (.sextet c) (by simp)
    have dSmall : d < 64 := small (.sextet d) (by simp)
    rw [same, means_quad bSmall cSmall dSmall]
    simp only [true_and]
    rfl

theorem map_append_eq_ok_iff {result : Except DecodeError Bytes} {front contents : Bytes} :
    result.map (front ++ ·) = .ok contents ↔
      ∃ rest, contents = front ++ rest ∧ result = .ok rest := by
  cases result <;> simp [Except.map, eq_comm]

theorem lastBlock_eq_ok_iff {block : List Symbol} (short : block.length ≤ 8)
    (small : ∀ s ∈ block, s.bits < 64) {contents : Bytes} :
    lastBlock block = .ok contents ↔ Means block contents := by
  unfold lastBlock
  split
  · rename_i long
    have smallRest : ∀ s ∈ block.drop 4, s.bits < 64 := fun s member =>
      small s (List.mem_of_mem_drop member)
    have shortRest : (block.drop 4).length ≤ 4 := by
      rw [List.length_drop]
      omega
    rw [means_front long fun s member => small s (List.mem_of_mem_take member)]
    split
    · rename_i padded
      simp [padded]
    · rename_i unpadded
      rw [Bool.not_eq_true] at unpadded
      simp only [unpadded, true_and, map_append_eq_ok_iff, lastQuad_eq_ok_iff shortRest smallRest]
  · exact lastQuad_eq_ok_iff (by omega) small

theorem quad_append {symbols : List Symbol} (long : 4 ≤ symbols.length) (others : List Symbol) :
    quad (symbols ++ others) = quad symbols := by
  have bits : ∀ i < 4, (symbols ++ others)[i]? = symbols[i]? := fun i small =>
    List.getElem?_append_left (by omega)
  simp only [quad, bits 0 (by decide), bits 1 (by decide), bits 2 (by decide), bits 3 (by decide)]

/-- A group with symbols behind it is four values, whatever they are. -/
theorem means_group {group : List Symbol} (four : group.length = 4)
    (small : ∀ s ∈ group, s.bits < 64) {s : Symbol} {symbols : List Symbol} {contents : Bytes} :
    Means (group ++ s :: symbols) contents ↔ group.any Symbol.isPad = false ∧
      ∃ rest, contents = quad group ++ rest ∧ Means (s :: symbols) rest := by
  have front : (group ++ s :: symbols).take 4 = group := List.take_left' four
  have followed : 4 < (group ++ s :: symbols).length := by
    rw [List.length_append, four, List.length_cons]
    omega
  rw [means_front followed (by rwa [front]), front, List.drop_left' four, quad_append four.ge]

/-- A full block that is followed has no pad. -/
theorem means_block {block : List Symbol} (full : block.length = 8)
    (small : ∀ s ∈ block, s.bits < 64) {s : Symbol} {symbols : List Symbol} {contents : Bytes} :
    Means (block ++ s :: symbols) contents ↔ block.any Symbol.isPad = false ∧
      ∃ rest, contents = (quad block ++ quad (block.drop 4)) ++ rest ∧
        Means (s :: symbols) rest := by
  obtain ⟨one, two, rfl, first, second⟩ : ∃ one two, block = one ++ two ∧ one.length = 4 ∧
      two.length = 4 :=
    ⟨block.take 4, block.drop 4, (List.take_append_drop 4 block).symm, by simp [full],
      by simp [full]⟩
  obtain ⟨smallOne, smallTwo⟩ := List.forall_mem_append.mp small
  have two_eq : ∃ t rest, two = t :: rest := List.exists_cons_of_length_eq_add_one second
  obtain ⟨t, rest, isTwo⟩ := two_eq
  rw [List.append_assoc, isTwo, List.cons_append, means_group first smallOne, ← List.cons_append,
    ← isTwo, List.drop_left' first, quad_append first.ge, List.any_append, Bool.or_eq_false_iff]
  simp only [means_group second smallTwo]
  constructor
  · rintro ⟨unpadded, _, rfl, unpaddedToo, rest, rfl, means⟩
    exact ⟨⟨unpadded, unpaddedToo⟩, rest, (List.append_assoc _ _ _).symm, means⟩
  · rintro ⟨⟨unpadded, unpaddedToo⟩, rest, rfl, means⟩
    exact ⟨unpadded, _, List.append_assoc _ _ _, unpaddedToo, rest, rfl, means⟩

/-! ## Symbols of a body -/

/-- Whether a body spells these symbols, with white space between them. -/
def Spells (body : Bytes) (symbols : List Symbol) : Prop :=
  (body.filter fun b => decide (b ∉ blanks)).map role = symbols.map Role.symbol

theorem spells_nil {symbols : List Symbol} : Spells [] symbols ↔ symbols = [] :=
  eq_comm.trans List.map_eq_nil_iff

theorem spells_blank {b : UInt8} (isBlank : role b = .blank) {body : Bytes}
    {symbols : List Symbol} : Spells (b :: body) symbols ↔ Spells body symbols := by
  have blank := role_eq_blank_iff.mp isBlank
  rw [Spells, List.filter_cons_of_neg (by simpa using blank), Spells]

theorem spells_solid {b : UInt8} (solid : role b ≠ .blank) {body : Bytes}
    {symbols : List Symbol} : Spells (b :: body) symbols ↔
      ∃ s rest, symbols = s :: rest ∧ role b = .symbol s ∧ Spells body rest := by
  have notBlank : b ∉ blanks := fun blank => solid (role_eq_blank_iff.mpr blank)
  rw [Spells, List.filter_cons_of_pos (by simpa using notBlank), List.map_cons, eq_comm,
    List.map_eq_cons_iff]
  exact ⟨fun ⟨s, rest, same, isRole, spells⟩ => ⟨s, rest, same, isRole.symm, spells.symm⟩,
    fun ⟨s, rest, same, isRole, spells⟩ => ⟨s, rest, same, isRole.symm, spells.symm⟩⟩

theorem spells_symbol {b : UInt8} {s : Symbol} (isSymbol : role b = .symbol s) {body : Bytes}
    {symbols : List Symbol} :
    Spells (b :: body) symbols ↔ ∃ rest, symbols = s :: rest ∧ Spells body rest := by
  rw [spells_solid (by rw [isSymbol]; nofun)]
  constructor
  · rintro ⟨_, rest, rfl, isRole, spells⟩
    cases isSymbol.symm.trans isRole
    exact ⟨rest, rfl, spells⟩
  · rintro ⟨rest, rfl, spells⟩
    exact ⟨s, rest, rfl, isSymbol, spells⟩

/-- What is held back counts like symbols that are still to come: by induction on the body, where
the block is what has been read of it. -/
theorem decodeAfter_eq_ok_iff {block : List Symbol} (short : block.length ≤ 8)
    (small : ∀ s ∈ block, s.bits < 64) {body contents : Bytes} :
    decodeAfter block body = .ok contents ↔
      ∃ symbols, Spells body symbols ∧ Means (block ++ symbols) contents := by
  induction body generalizing block contents with
  | nil =>
    rw [decodeAfter, lastBlock_eq_ok_iff short small]
    simp only [spells_nil, exists_eq_left, List.append_nil]
  | cons b body ih =>
    rw [decodeAfter]
    split
    case h_1 isBlank =>
      rw [ih short small]
      simp only [spells_blank isBlank]
    case h_2 isInvalid =>
      refine iff_of_false nofun ?_
      rintro ⟨symbols, spells, -⟩
      obtain ⟨s, -, -, isSymbol, -⟩ := (spells_solid (by rw [isInvalid]; nofun)).mp spells
      cases isInvalid.symm.trans isSymbol
    case h_3 s isSymbol =>
      have smallHere : ∀ t ∈ [s], t.bits < 64 :=
        List.forall_mem_singleton.mpr (bits_of_role isSymbol)
      have shift : (∃ symbols, Spells (b :: body) symbols ∧ Means (block ++ symbols) contents) ↔
          ∃ rest, Spells body rest ∧ Means (block ++ s :: rest) contents := by
        simp only [spells_symbol isSymbol]
        constructor
        · rintro ⟨_, ⟨rest, rfl, spells⟩, means⟩
          exact ⟨rest, spells, means⟩
        · rintro ⟨rest, spells, means⟩
          exact ⟨_, ⟨rest, rfl, spells⟩, means⟩
      rw [shift]
      split
      · rename_i full
        simp only [means_block full small]
        split
        · rename_i padded
          simp [padded]
        · rename_i unpadded
          rw [Bool.not_eq_true] at unpadded
          have oneShort : [s].length ≤ 8 := Nat.succ_le_of_lt (Nat.zero_lt_succ 7)
          simp only [unpadded, true_and, map_append_eq_ok_iff, ih oneShort smallHere,
            List.singleton_append]
          constructor
          · rintro ⟨rest, rfl, symbols, spells, means⟩
            exact ⟨symbols, spells, rest, rfl, means⟩
          · rintro ⟨symbols, spells, rest, rfl, means⟩
            exact ⟨rest, rfl, symbols, spells, means⟩
      · rename_i room
        have shortHere : (block ++ [s]).length ≤ 8 := by
          rw [List.length_append, List.length_singleton]
          omega
        rw [ih shortHere (List.forall_mem_append.mpr ⟨small, smallHere⟩)]
        simp only [List.append_assoc, List.singleton_append]

/-! ## What a body stands for -/

theorem map_role_sextets {symbols : Bytes} {sextets : List Nat} :
    symbols.map role = (sextets.map Symbol.sextet).map Role.symbol ↔
      (∀ b ∈ symbols, b ∈ alphabet) ∧ sextets = symbols.map alphabet.idxOf := by
  induction symbols generalizing sextets with
  | nil => simp [eq_comm]
  | cons b symbols ih =>
    cases sextets with
    | nil => simp
    | cons n sextets =>
      simp only [List.map_cons, List.cons.injEq, ih, List.forall_mem_cons, role_symbol_iff,
        Symbol.sextet.injEq, reduceCtorEq, and_false, or_false]
      tauto

theorem map_role_pads {bytes : Bytes} {pads : Nat} :
    bytes.map role = (List.replicate pads Symbol.pad).map Role.symbol ↔
      bytes = List.replicate pads padding := by
  induction bytes generalizing pads with
  | nil => cases pads <;> simp [List.replicate_succ]
  | cons b bytes ih =>
    cases pads with
    | zero => simp
    | succ pads =>
      simp only [List.replicate_succ, List.map_cons, List.cons.injEq, ih, role_symbol_iff,
        reduceCtorEq, and_false, false_or, and_true]

/-- Decoding answers exactly the bodies that stand for bytes, with those bytes. -/
theorem decode_eq_ok_iff {body contents : Bytes} :
    decode body = .ok contents ↔ Stands body contents := by
  have none : ∀ s ∈ ([] : List Symbol), s.bits < 64 := nofun
  rw [decode, decodeAfter_eq_ok_iff (by decide) none]
  simp only [List.nil_append]
  constructor
  · rintro ⟨_, spells, sextets, pads, rfl, fillsUp, carries⟩
    rw [Spells, List.map_append] at spells
    obtain ⟨symbols, rest, whole, areSextets, arePads⟩ := List.map_eq_append_iff.mp spells
    obtain ⟨inAlphabet, rfl⟩ := map_role_sextets.mp areSextets
    rw [map_role_pads.mp arePads] at whole
    rw [List.length_map] at fillsUp
    exact ⟨symbols, pads, inAlphabet, fillsUp, whole, carries⟩
  · rintro ⟨symbols, pads, inAlphabet, fillsUp, whole, carries⟩
    refine ⟨(symbols.map alphabet.idxOf).map .sextet ++ List.replicate pads .pad, ?_, _, pads, rfl,
      by rwa [List.length_map], carries⟩
    rw [Spells, whole, List.map_append, List.map_append,
      map_role_sextets.mpr ⟨inAlphabet, rfl⟩, map_role_pads.mpr rfl]

/-- What stands for bytes consists of symbols, pads and white space. -/
theorem Stands.bytes {body contents : Bytes} (stands : Stands body contents) :
    ∀ b ∈ body, b ∈ blanks ∨ b ∈ alphabet ∨ b = padding := by
  obtain ⟨symbols, pads, inAlphabet, -, whole, -⟩ := stands
  intro b member
  by_cases blank : b ∈ blanks
  · exact .inl blank
  · have solid : b ∈ symbols ++ List.replicate pads padding :=
      whole ▸ List.mem_filter.mpr ⟨member, decide_eq_true blank⟩
    rcases List.mem_append.mp solid with isSymbol | isPad
    · exact .inr (.inl (inAlphabet b isSymbol))
    · exact .inr (.inr (List.mem_replicate.mp isPad).2)

/-! ## Encodings -/

/-- Values of the symbols of three bytes. -/
def sextets (a b c : UInt8) : List Nat :=
  let word := (a.toNat * 256 + b.toNat) * 256 + c.toNat
  [word / 262144, word / 4096 % 64, word / 64 % 64, word % 64]

theorem quad_sextets (a b c : UInt8) : quad ((sextets a b c).map .sextet) = [a, b, c] := by
  have first := a.toNat_lt
  have second := b.toNat_lt
  have third := c.toNat_lt
  obtain ⟨word, isWord⟩ : ∃ word, word = (a.toNat * 256 + b.toNat) * 256 + c.toNat := ⟨_, rfl⟩
  have whole : ((word / 262144 * 64 + word / 4096 % 64) * 64 + word / 64 % 64) * 64 + word % 64 =
      word := by
    omega
  simp only [quad, sextets, ← isWord, List.map_cons, List.map_nil, List.getElem?_cons_zero,
    List.getElem?_cons_succ, Option.map_some, Option.getD_some, Symbol.bits, whole]
  have bytes : word / 65536 = a.toNat ∧ word / 256 % 256 = b.toNat ∧ word % 256 = c.toNat := by
    omega
  rw [bytes.1, bytes.2.1, bytes.2.2, UInt8.ofNat_toNat, UInt8.ofNat_toNat, UInt8.ofNat_toNat]

theorem sextets_small (a b c : UInt8) : ∀ n ∈ sextets a b c, n < 64 := by
  have first := a.toNat_lt
  have second := b.toNat_lt
  have third := c.toNat_lt
  simp only [sextets, List.forall_mem_cons, List.not_mem_nil, false_implies, implies_true, and_true]
  omega

theorem bits_sextets (a b c : UInt8) :
    (sextets a b c).flatMap (Numeral.lowDigits 2 6) = [a, b, c].flatMap byteBits := by
  have small := sextets_small a b c
  rw [← quad_sextets a b c]
  refine (bits_quad ?_ ?_ ?_ []).symm <;> exact small _ (by simp [sextets])

theorem byteOf_mem_alphabet {n : Nat} (small : n < 64) :
    byteOf n ∈ alphabet ∧ alphabet.idxOf (byteOf n) = n := by
  have table : ∀ n : Fin 64,
      byteOf n.val ∈ alphabet ∧ alphabet.idxOf (byteOf n.val) = n.val := by
    decide +kernel
  exact table ⟨n, small⟩

theorem map_idxOf_byteOf {values : List Nat} (small : ∀ n ∈ values, n < 64) :
    (values.map byteOf).map alphabet.idxOf = values := by
  rw [List.map_map]
  exact (List.map_congr_left fun n member => (byteOf_mem_alphabet (small n member)).2).trans
    (List.map_id values)

/-- Symbols and pads of an encoding. -/
theorem exists_encode (contents : Bytes) :
    ∃ values pads, (∀ n ∈ values, n < 64) ∧ FillsUp values.length pads ∧
      encode contents = values.map byteOf ++ List.replicate pads padding ∧
      Carries values contents := by
  fun_induction encode contents with
  | case1 => exact ⟨[], 0, nofun, .inl rfl, rfl, carries_nil.mpr rfl⟩
  | case2 a =>
    -- The last two values of three bytes, two of them zero, are not written.
    refine ⟨(sextets a 0 0).take 2, 2, fun n member =>
      sextets_small a 0 0 n (List.mem_of_mem_take member), .inr ⟨by decide, by simp [sextets]⟩,
      rfl, ?_⟩
    exact @carries_take _ ((sextets a 0 0).drop 2) [a, 0, 0] 1 (bits_sextets a 0 0)
      (Nat.le_add_right 8 4) (Nat.le_add_right 13 1)
  | case3 a b =>
    refine ⟨(sextets a b 0).take 3, 1, fun n member =>
      sextets_small a b 0 n (List.mem_of_mem_take member), .inr ⟨by decide, by simp [sextets]⟩,
      rfl, ?_⟩
    exact @carries_take _ ((sextets a b 0).drop 3) [a, b, 0] 2 (bits_sextets a b 0)
      (Nat.le_add_right 16 2) (Nat.le_add_right 19 3)
  | case4 a b c rest ih =>
    obtain ⟨values, pads, small, fillsUp, encoded, carries⟩ := ih
    refine ⟨sextets a b c ++ values, pads,
      List.forall_mem_append.mpr ⟨sextets_small a b c, small⟩, ?_, ?_, ?_⟩
    · have four : (sextets a b c).length = 4 := rfl
      unfold FillsUp at fillsUp ⊢
      rw [List.length_append, four]
      omega
    · rw [encoded, List.map_append, List.append_assoc]
      rfl
    · obtain ⟨spare, few, bits⟩ := carries
      refine ⟨spare, few, ?_⟩
      rw [List.flatMap_append, bits_sextets, bits, ← List.append_assoc, ← List.flatMap_append]
      rfl

theorem mem_alphabet_of_byteOf {values : List Nat} (small : ∀ n ∈ values, n < 64) :
    ∀ b ∈ values.map byteOf, b ∈ alphabet := by
  intro b member
  obtain ⟨n, isValue, rfl⟩ := List.mem_map.mp member
  exact (byteOf_mem_alphabet (small n isValue)).1

/-- An encoding has no white space. -/
theorem solid_encode (contents : Bytes) : ∀ b ∈ encode contents, b ∉ blanks := by
  obtain ⟨values, pads, small, -, encoded, -⟩ := exists_encode contents
  rw [encoded]
  refine List.forall_mem_append.mpr ⟨fun b member => ?_, fun b member => ?_⟩
  · exact solid_of_mem_alphabet b (mem_alphabet_of_byteOf small b member)
  · rw [(List.mem_replicate.mp member).2]
    exact solid_padding

/-- An encoding with white space behind it stands for what is encoded. -/
theorem stands_encode (contents : Bytes) {space : Bytes} (blank : ∀ b ∈ space, b ∈ blanks) :
    Stands (encode contents ++ space) contents := by
  obtain ⟨values, pads, small, fillsUp, encoded, carries⟩ := exists_encode contents
  refine ⟨values.map byteOf, pads, mem_alphabet_of_byteOf small, by rwa [List.length_map], ?_, ?_⟩
  · have gone : space.filter (fun b => decide (b ∉ blanks)) = [] :=
      List.filter_eq_nil_iff.mpr fun b member => by simpa using blank b member
    have kept : (encode contents).filter (fun b => decide (b ∉ blanks)) = encode contents :=
      List.filter_eq_self.mpr fun b member => decide_eq_true (solid_encode contents b member)
    rw [List.filter_append, gone, kept, List.append_nil, encoded]
  · rwa [map_idxOf_byteOf small]

theorem decode_encode (contents : Bytes) : decode (encode contents) = .ok contents := by
  have stands := @stands_encode contents [] nofun
  rw [List.append_nil] at stands
  exact decode_eq_ok_iff.mpr stands

end PluginSupport.Base64
