import PluginSupport.Address.Basic
import PluginSupport.Proofs.Text.Numeral
import PluginSupport.Proofs.Text.Split

/-!
# Spellings of addresses

The grammar of address texts, and that reading follows it.

* An IPv4 address has one spelling: four octets in decimal, without leading zeros, with dots between
  them (`Ipv4.spelling`).
* An IPv6 address has many (`Ipv6.Spells`): groups of one to four hexadecimal digits in either case
  with colons between them, an IPv4 spelling in place of the last two groups, and `::` for at least
  one zero group.

Results:
1. `Ipv4.read?_eq_some_iff`, `Ipv6.read?_eq_some_iff`: the readers accept exactly the spellings, and
   find the address that is spelled.
2. `IpVersion.ofText?_of_spells`: the family that a spelling looks like is the family that it has.
-/
namespace PluginSupport

/-! ## IPv4 -/

namespace Ipv4

/-- Text of an address. -/
def spelling (ip : Ipv4) : List Char :=
  ['.'].intercalate (ip.octets.map fun octet => Nat.toDigits 10 octet.toNat)

theorem write_eq_spelling (ip : Ipv4) : ip.write = ip.spelling := by
  have decimals : (fun octet : UInt8 => Numeral.write 10 octet.toNat) =
      fun octet : UInt8 => Nat.toDigits 10 octet.toNat :=
    funext fun octet => Numeral.write_eq_toDigits (by decide) (by decide) _
  rw [write, spelling, Split.join_eq_intercalate, decimals]

theorem readOctet?_eq_some_iff {cs : List Char} {octet : UInt8} :
    readOctet? cs = some octet ↔ cs = Nat.toDigits 10 octet.toNat := by
  rw [← Numeral.write_eq_toDigits (by decide) (by decide)]
  constructor
  · intro read
    unfold readOctet? at read
    split at read
    · cases read
    · rename_i wellFormed
      obtain ⟨-, noLeadingZero⟩ := not_or.mp wellFormed
      obtain ⟨n, found, rfl⟩ := Option.map_eq_some_iff.mp read
      obtain ⟨denotes, small⟩ := Option.filter_eq_some_iff.mp found
      have sameNumber : (UInt8.ofNat n).toNat = n := by
        rw [UInt8.toNat_ofNat']
        exact Nat.mod_eq_of_lt (by simpa using small)
      rw [sameNumber]
      refine (Numeral.write_of_read? denotes fun zero => ?_).symm
      exact Nat.not_lt.mp fun long => noLeadingZero ⟨zero, long⟩
  · rintro rfl
    have bound := octet.toNat_lt
    have short : (Numeral.write 10 octet.toNat).length ≤ 3 :=
      (Numeral.length_write_le_iff (by decide) (by decide) (by decide)).mpr (by omega)
    have wellFormed : ¬ (3 < (Numeral.write 10 octet.toNat).length ∨
        ((Numeral.write 10 octet.toNat).head? = some '0' ∧
          1 < (Numeral.write 10 octet.toNat).length)) := by
      rintro (long | ⟨zero, long⟩)
      · omega
      · have := Numeral.length_write_of_zero zero
        omega
    rw [readOctet?, if_neg wellFormed, Numeral.read?_write (by decide) (by decide)]
    simp [Option.filter, bound]

theorem mapM_readOctet?_eq_some_iff {pieces : List (List Char)} {os : List UInt8} :
    pieces.mapM readOctet? = some os ↔
      pieces = os.map fun octet => Nat.toDigits 10 octet.toNat := by
  induction pieces generalizing os with
  | nil => cases os <;> simp
  | cons piece pieces ih =>
    simp only [List.mapM_cons, bind, pure, Option.bind_eq_some_iff, readOctet?_eq_some_iff, ih]
    constructor
    · rintro ⟨octet, rfl, others, rfl, same⟩
      obtain rfl : octet :: others = os := Option.some.inj same
      rfl
    · intro spelled
      cases os with
      | nil => cases spelled
      | cons octet others =>
        obtain ⟨rfl, rfl⟩ := List.cons.inj spelled
        exact ⟨octet, rfl, others, rfl, rfl⟩

theorem ofOctets?_eq_some_iff {os : List UInt8} {ip : Ipv4} :
    ofOctets? os = some ip ↔ os = ip.octets := by
  constructor
  · intro found
    unfold ofOctets? at found
    split at found
    · cases found
      rfl
    · cases found
  · rintro rfl
    exact ofOctets?_octets ip

theorem not_mem_toDigits_ten (n : Nat) {c : Char} (noDigit : Numeral.digitValue? 10 c = none) :
    c ∉ Nat.toDigits 10 n := by
  rw [← Numeral.write_eq_toDigits (by decide) (by decide)]
  exact Numeral.not_mem_write (by decide) (by decide) n noDigit

theorem read?_eq_some_iff {cs : List Char} {ip : Ipv4} :
    read? cs = some ip ↔ cs = ip.spelling := by
  have pieces : read? cs = some ip ↔
      Split.onChar '.' cs = ip.octets.map fun octet => Nat.toDigits 10 octet.toNat := by
    simp [read?, Option.bind_eq_some_iff, mapM_readOctet?_eq_some_iff, ofOctets?_eq_some_iff]
  rw [pieces, Split.onChar_eq_iff]
  constructor
  · rintro ⟨-, -, joined⟩
    exact joined.symm
  · rintro rfl
    refine ⟨by simp [octets], fun piece member => ?_, rfl⟩
    obtain ⟨octet, -, rfl⟩ := List.mem_map.mp member
    exact not_mem_toDigits_ten _ (by decide)

/-- A spelling has decimal digits and dots only. -/
theorem not_mem_spelling (ip : Ipv4) {c : Char} (noDigit : Numeral.digitValue? 10 c = none)
    (noDot : c ≠ '.') : c ∉ ip.spelling := by
  simp [spelling, octets, List.intercalate, List.intersperse, noDot, not_mem_toDigits_ten _ noDigit]

theorem dot_mem_spelling (ip : Ipv4) : '.' ∈ ip.spelling := by
  simp [spelling, octets, List.intercalate, List.intersperse]

end Ipv4

/-! ## IPv6 -/

namespace Ipv6

/-- One to four hexadecimal digits that denote a group. -/
def SpellsGroup (cs : List Char) (g : UInt16) : Prop :=
  cs.length ≤ 4 ∧ Numeral.read? 16 cs = some g.toNat

/-- Rows of groups with colons between them. With `dotted`, an IPv4 spelling may stand for the last
two. -/
inductive SpellsRow (dotted : Bool) : List Char → List UInt16 → Prop
  | group {cs : List Char} {g : UInt16} (spells : SpellsGroup cs g) : SpellsRow dotted cs [g]
  | tail (v4 : Ipv4) (allowed : dotted = true) :
      SpellsRow dotted v4.spelling (groupsOfOctets v4.octets)
  | cons {cs rest : List Char} {g : UInt16} {gs : List UInt16} (spells : SpellsGroup cs g)
      (more : SpellsRow dotted rest gs) : SpellsRow dotted (cs ++ ':' :: rest) (g :: gs)

/-- What may stand on one side of `::`: a row, or nothing. -/
inductive SpellsSide (dotted : Bool) : List Char → List UInt16 → Prop
  | nothing : SpellsSide dotted [] []
  | row {cs : List Char} {gs : List UInt16} (row : SpellsRow dotted cs gs) : SpellsSide dotted cs gs

/-- Texts of an address: all eight groups, or `::` in place of at least one zero group. An IPv4
spelling may stand at the end only. -/
inductive Spells : List Char → Ipv6 → Prop
  | full {cs : List Char} {ip : Ipv6} (row : SpellsRow true cs ip.groups) : Spells cs ip
  | short {front back : List Char} {head tail : List UInt16} {zeros : Nat} {ip : Ipv6}
      (spellsHead : SpellsSide false front head) (spellsTail : SpellsSide true back tail)
      (some : 0 < zeros) (groups : ip.groups = head ++ List.replicate zeros 0 ++ tail) :
      Spells (front ++ ':' :: ':' :: back) ip

theorem ofGroups?_eq_some_iff {gs : List UInt16} {ip : Ipv6} :
    ofGroups? gs = some ip ↔ gs = ip.groups := by
  constructor
  · intro found
    unfold ofGroups? at found
    split at found
    · cases found
      rfl
    · cases found
  · rintro rfl
    exact ofGroups?_groups ip

/-! ### Groups -/

theorem readGroup?_eq_some_iff {cs : List Char} {g : UInt16} :
    readGroup? cs = some g ↔ SpellsGroup cs g := by
  constructor
  · intro read
    unfold readGroup? at read
    split at read
    · cases read
    · rename_i short
      obtain ⟨n, denotes, rfl⟩ := Option.map_eq_some_iff.mp read
      have small : n < 2 ^ 16 :=
        calc n < 16 ^ cs.length := Numeral.lt_of_read? denotes
          _ ≤ 16 ^ 4 := Nat.pow_le_pow_right (by decide) (by omega)
      refine ⟨by omega, ?_⟩
      rw [UInt16.toNat_ofNat', Nat.mod_eq_of_lt small]
      exact denotes
  · rintro ⟨short, denotes⟩
    rw [readGroup?, if_neg (by omega), denotes, Option.map_some, UInt16.ofNat_toNat]

theorem SpellsGroup.not_mem {cs : List Char} {g : UInt16} (spells : SpellsGroup cs g) {c : Char}
    (noDigit : Numeral.digitValue? 16 c = none) : c ∉ cs :=
  Numeral.not_mem_of_read? spells.2 noDigit

theorem SpellsGroup.ne_nil {cs : List Char} {g : UInt16} (spells : SpellsGroup cs g) : cs ≠ [] :=
  (Numeral.mapM_of_read? spells.2).1

/-! ### Rows -/

theorem spellsRow_of_readPieces? {dotted : Bool} {pieces : List (List Char)} {gs : List UInt16}
    (notEmpty : pieces ≠ []) (read : readPieces? dotted pieces = some gs) :
    SpellsRow dotted ([':'].intercalate pieces) gs := by
  induction pieces generalizing gs with
  | nil => exact absurd rfl notEmpty
  | cons piece pieces ih =>
    cases pieces with
    | nil =>
      rw [List.intercalate_singleton]
      simp only [readPieces?] at read
      split at read
      · rename_i g spelled
        cases read
        exact .group (readGroup?_eq_some_iff.mp spelled)
      · split at read
        · rename_i allowed
          obtain ⟨v4, spelled, rfl⟩ := Option.map_eq_some_iff.mp read
          rw [Ipv4.read?_eq_some_iff.mp spelled]
          exact .tail v4 allowed
        · cases read
    | cons next rest =>
      simp only [readPieces?, bind, Option.bind_eq_some_iff] at read
      obtain ⟨g, spelled, others, readRest, same⟩ := read
      obtain rfl : g :: others = gs := Option.some.inj same
      rw [List.intercalate_cons_of_ne_nil (List.cons_ne_nil next rest), List.append_assoc]
      exact .cons (readGroup?_eq_some_iff.mp spelled) (ih (List.cons_ne_nil next rest) readRest)

theorem readPieces?_of_spellsRow {dotted : Bool} {cs : List Char} {gs : List UInt16}
    (row : SpellsRow dotted cs gs) : readPieces? dotted (Split.onChar ':' cs) = some gs := by
  induction row with
  | group spells =>
    rw [Split.onChar_of_not_mem (spells.not_mem (by decide))]
    simp [readPieces?, readGroup?_eq_some_iff.mpr spells]
  | tail v4 allowed =>
    -- The dots tell the IPv4 spelling from a group.
    have noGroup : readGroup? v4.spelling = none := by
      cases found : readGroup? v4.spelling with
      | none => rfl
      | some g =>
        have noDot : '.' ∉ v4.spelling := (readGroup?_eq_some_iff.mp found).not_mem (by decide)
        exact absurd v4.dot_mem_spelling noDot
    rw [Split.onChar_of_not_mem (v4.not_mem_spelling (by decide) (by decide))]
    simp [readPieces?, noGroup, allowed, Ipv4.read?_eq_some_iff.mpr rfl]
  | @cons cs rest g gs spells more ih =>
    rw [Split.onChar_append_cons (spells.not_mem (by decide))]
    cases pieces : Split.onChar ':' rest with
    | nil => exact absurd pieces (Split.onChar_ne_nil ':' rest)
    | cons piece pieces =>
      rw [pieces] at ih
      simp [readPieces?, readGroup?_eq_some_iff.mpr spells, ih]

/-- A row begins with a digit. -/
theorem SpellsRow.head {dotted : Bool} {cs : List Char} {gs : List UInt16}
    (row : SpellsRow dotted cs gs) : ∃ c rest, cs = c :: rest ∧ c ≠ ':' := by
  have ofPiece : ∀ {piece : List Char}, piece ≠ [] → ':' ∉ piece →
      ∃ c rest, piece = c :: rest ∧ c ≠ ':' := by
    intro piece notEmpty noColon
    obtain ⟨c, rest, rfl⟩ := List.exists_cons_of_ne_nil notEmpty
    exact ⟨c, rest, rfl, fun colon => noColon (colon ▸ List.mem_cons_self)⟩
  cases row with
  | group spells => exact ofPiece spells.ne_nil (spells.not_mem (by decide))
  | tail v4 _ =>
    exact ofPiece (List.ne_nil_of_mem v4.dot_mem_spelling)
      (v4.not_mem_spelling (by decide) (by decide))
  | cons spells more =>
    obtain ⟨c, rest, rfl, noColon⟩ := ofPiece spells.ne_nil (spells.not_mem (by decide))
    exact ⟨c, _, List.cons_append, noColon⟩

/-- A row has no pair of colons, and does not make one with what follows. -/
theorem SpellsRow.onFirstPair {dotted : Bool} {cs : List Char} {gs : List UInt16}
    (row : SpellsRow dotted cs gs) (rest : List Char) :
    Split.onFirstPair ':' (cs ++ rest) =
      (Split.onFirstPair ':' rest).map fun (front, back) => (cs ++ front, back) := by
  induction row with
  | group spells => exact Split.onFirstPair_append (spells.not_mem (by decide)) rest
  | tail v4 _ => exact Split.onFirstPair_append (v4.not_mem_spelling (by decide) (by decide)) rest
  | @cons first more g gs spells row ih =>
    obtain ⟨c, others, rfl, noColon⟩ := row.head
    rw [List.append_assoc, Split.onFirstPair_append (spells.not_mem (by decide)), List.cons_append,
      List.cons_append, Split.onFirstPair_sep_cons noColon, ← List.cons_append, ih]
    simp [Option.map_map, Function.comp_def]

theorem SpellsSide.onFirstPair {dotted : Bool} {cs : List Char} {gs : List UInt16}
    (side : SpellsSide dotted cs gs) (rest : List Char) :
    Split.onFirstPair ':' (cs ++ rest) =
      (Split.onFirstPair ':' rest).map fun (front, back) => (cs ++ front, back) := by
  cases side with
  | nothing => simp
  | row row => exact row.onFirstPair rest

theorem readSide?_eq_some_iff {dotted : Bool} {cs : List Char} {gs : List UInt16} :
    readSide? dotted cs = some gs ↔ SpellsSide dotted cs gs := by
  constructor
  · intro read
    unfold readSide? at read
    split at read
    · rename_i empty
      obtain rfl := List.isEmpty_iff.mp empty
      cases read
      exact .nothing
    · have row := spellsRow_of_readPieces? (Split.onChar_ne_nil ':' cs) read
      rw [(Split.onChar_eq_iff.mp rfl).2.2] at row
      exact .row row
  · intro side
    cases side with
    | nothing => rfl
    | row row =>
      obtain ⟨c, rest, rfl, -⟩ := row.head
      rw [readSide?, if_neg (by simp), readPieces?_of_spellsRow row]

/-! ### Addresses -/

theorem read?_eq_some_iff {cs : List Char} {ip : Ipv6} : read? cs = some ip ↔ Spells cs ip := by
  constructor
  · intro read
    unfold read? at read
    split at read
    · obtain ⟨gs, side, found⟩ := Option.bind_eq_some_iff.mp read
      obtain rfl := ofGroups?_eq_some_iff.mp found
      generalize eight : ip.groups = gs at side
      cases readSide?_eq_some_iff.mp side with
      | nothing => exact absurd (congrArg List.length eight) (by simp [length_groups])
      | row row => exact .full (eight ▸ row)
    · rename_i front back pair
      simp only [bind, Option.bind_eq_some_iff] at read
      obtain ⟨head, frontRead, tail, backRead, found⟩ := read
      split at found
      · rename_i room
        rw [← Split.append_of_onFirstPair pair]
        exact .short (readSide?_eq_some_iff.mp frontRead) (readSide?_eq_some_iff.mp backRead)
          (Nat.sub_pos_of_lt room) (ofGroups?_eq_some_iff.mp found).symm
      · cases found
  · intro spells
    cases spells with
    | full row =>
      have noPair : Split.onFirstPair ':' cs = none := by
        simpa [Split.onFirstPair] using row.onFirstPair []
      simp only [read?, noPair]
      rw [readSide?_eq_some_iff.mpr (.row row), Option.bind_some, ofGroups?_groups]
    | @short front back head tail zeros _ spellsHead spellsTail some groups =>
      have pair : Split.onFirstPair ':' (front ++ ':' :: ':' :: back) = .some (front, back) := by
        rw [spellsHead.onFirstPair]
        simp [Split.onFirstPair]
      have eight : head.length + zeros + tail.length = 8 := by
        rw [← length_groups ip, groups]
        simp [Nat.add_assoc]
      have sameZeros : 8 - (head.length + tail.length) = zeros := by omega
      simp only [read?, pair, readSide?_eq_some_iff.mpr spellsHead,
        readSide?_eq_some_iff.mpr spellsTail, bind, Option.bind_some, sameZeros, ← groups]
      rw [if_pos (by omega), ofGroups?_groups]

/-- A spelling has hexadecimal digits, colons and dots only. -/
theorem SpellsRow.not_mem {dotted : Bool} {cs : List Char} {gs : List UInt16}
    (row : SpellsRow dotted cs gs) {c : Char} (noDigit : Numeral.digitValue? 16 c = none)
    (noDecimal : Numeral.digitValue? 10 c = none) (noColon : c ≠ ':') (noDot : c ≠ '.') :
    c ∉ cs := by
  induction row with
  | group spells => exact spells.not_mem noDigit
  | tail v4 _ => exact v4.not_mem_spelling noDecimal noDot
  | cons spells _ ih => simp [spells.not_mem noDigit, ih, noColon]

theorem Spells.slash_not_mem {cs : List Char} {ip : Ipv6} (spells : Spells cs ip) : '/' ∉ cs := by
  have ofSide : ∀ {dotted : Bool} {cs : List Char} {gs : List UInt16},
      SpellsSide dotted cs gs → '/' ∉ cs := by
    intro dotted cs gs side
    cases side with
    | nothing => exact List.not_mem_nil
    | row row => exact row.not_mem (by decide) (by decide) (by decide) (by decide)
  cases spells with
  | full row => exact ofSide (.row row)
  | short spellsHead spellsTail => simp [ofSide spellsHead, ofSide spellsTail]

theorem Spells.colon_mem {cs : List Char} {ip : Ipv6} (spells : Spells cs ip) : ':' ∈ cs := by
  cases spells with
  | full row =>
    generalize eight : ip.groups = gs at row
    -- One piece makes two groups at most.
    cases row with
    | group => exact absurd (congrArg List.length eight) (by simp [length_groups])
    | tail v4 =>
      exact absurd (congrArg List.length eight)
        (by simp [length_groups, Ipv4.octets, groupsOfOctets])
    | cons => simp
  | short => simp

end Ipv6

/-! ## Either family -/

namespace IpAddress

/-- Texts of an address of either family. -/
inductive Spells : List Char → IpAddress → Prop
  | v4 (ip : Ipv4) : Spells ip.spelling (.v4 ip)
  | v6 {cs : List Char} {ip : Ipv6} (spells : Ipv6.Spells cs ip) : Spells cs (.v6 ip)

variable {cs : List Char} {ip : IpAddress}

theorem read?_eq_some_iff {version : IpVersion} :
    read? version cs = some ip ↔ Spells cs ip ∧ ip.version = version := by
  cases version with
  | v4 =>
    simp only [read?, Option.map_eq_some_iff, Ipv4.read?_eq_some_iff]
    constructor
    · rintro ⟨v4, rfl, rfl⟩
      exact ⟨.v4 v4, rfl⟩
    · rintro ⟨spells, family⟩
      cases spells with
      | v4 v4 => exact ⟨v4, rfl, rfl⟩
      | v6 => cases family
  | v6 =>
    simp only [read?, Option.map_eq_some_iff, Ipv6.read?_eq_some_iff]
    constructor
    · rintro ⟨v6, spells, rfl⟩
      exact ⟨.v6 spells, rfl⟩
    · rintro ⟨spells, family⟩
      cases spells with
      | v4 => cases family
      | v6 spells => exact ⟨_, spells, rfl⟩

theorem Spells.slash_not_mem (spells : Spells cs ip) : '/' ∉ cs := by
  cases spells with
  | v4 v4 => exact v4.not_mem_spelling (by decide) (by decide)
  | v6 spells => exact spells.slash_not_mem

theorem Spells.ne_nil (spells : Spells cs ip) : cs ≠ [] := by
  cases spells with
  | v4 v4 => exact List.ne_nil_of_mem v4.dot_mem_spelling
  | v6 spells => exact List.ne_nil_of_mem spells.colon_mem

end IpAddress

/-- A spelling looks like its family: a colon stands in every IPv6 spelling and in no IPv4 one. -/
theorem IpVersion.ofText?_of_spells {cs : List Char} {ip : IpAddress}
    (spells : IpAddress.Spells cs ip) : ofText? cs = some ip.version := by
  cases spells with
  | v4 v4 =>
    rw [ofText?, if_neg (v4.not_mem_spelling (by decide) (by decide)), if_pos v4.dot_mem_spelling]
    rfl
  | v6 spells =>
    rw [ofText?, if_pos spells.colon_mem]
    rfl

/-- No text is read as addresses of both families. -/
theorem IpAddress.spells_iff_read? {cs : List Char} {ip : IpAddress} :
    Spells cs ip ↔ (read? .v4 cs).or (read? .v6 cs) = some ip := by
  constructor
  · intro spells
    cases spells with
    | v4 v4 =>
      have first : read? .v4 v4.spelling = some (.v4 v4) := read?_eq_some_iff.mpr ⟨.v4 v4, rfl⟩
      rw [first, Option.some_or]
    | v6 spells =>
      have noV4 : read? .v4 cs = none := by
        cases found : read? .v4 cs with
        | none => rfl
        | some other =>
          obtain ⟨otherSpells, family⟩ := read?_eq_some_iff.mp found
          have guessed := IpVersion.ofText?_of_spells otherSpells
          rw [IpVersion.ofText?_of_spells (.v6 spells), family] at guessed
          cases guessed
      rw [noV4, Option.none_or]
      exact read?_eq_some_iff.mpr ⟨.v6 spells, rfl⟩
  · intro found
    rcases Option.or_eq_some_iff.mp found with first | ⟨-, second⟩
    · exact (read?_eq_some_iff.mp first).1
    · exact (read?_eq_some_iff.mp second).1

end PluginSupport
