import PluginSupport.Proofs.Address.Order
import PluginSupport.Proofs.Address.Parsing

/-!
# Canonical texts of interface addresses

Of the many spellings of an IPv6 address one is canonical (`Ipv6.Canonical`): lowercase groups
without leading zeros, `::` for the longest run of at least two zero groups, the leftmost of equally
long ones, and a dotted tail for IPv4-mapped addresses only. Writing gives the canonical spelling
(`Ipv6.canonical_iff`), which is a spelling, so reading finds the address again.

Main result: `NetAddr.parse_text`, reading undoes writing for every interface address.
-/
namespace PluginSupport

namespace Ipv6

/-! ## Canonical spellings -/

/-- Whether a run of zero groups stands in a row of groups. -/
def ZeroRun.In (run : ZeroRun) (gs : List UInt16) : Prop :=
  ∃ front back, gs = front ++ List.replicate run.length 0 ++ back ∧ front.length = run.start

/-- Whether a run is the longest one in a row of groups, and the leftmost of equally long ones. -/
structure ZeroRun.Foremost (run : ZeroRun) (gs : List UInt16) : Prop where
  within : run.In gs
  longest : ∀ other : ZeroRun, other.In gs → other.length ≤ run.length
  leftmost : ∀ other : ZeroRun, other.In gs → other.length = run.length → run.start ≤ other.start

/-- Groups in lowercase hexadecimal without leading zeros, with colons between them. -/
def spelledRow (gs : List UInt16) : List Char :=
  [':'].intercalate (gs.map fun g => Nat.toDigits 16 g.toNat)

/-- First groups of the IPv4-mapped addresses. -/
def mappedPrefix : List UInt16 := [0, 0, 0, 0, 0, 0xffff]

/-- The canonical spelling of an address. -/
inductive Canonical (ip : Ipv6) : List Char → Prop
  /-- An IPv4-mapped address has a dotted tail. -/
  | mapped (v4 : Ipv4) (carries : ip.groups = mappedPrefix ++ groupsOfOctets v4.octets) :
      Canonical ip ("::ffff:".toList ++ v4.spelling)
  /-- The foremost run of zero groups is left out if it has at least two. -/
  | short {run : ZeroRun} (notMapped : ¬ mappedPrefix <+: ip.groups)
      (foremost : run.Foremost ip.groups) (several : 1 < run.length) :
      Canonical ip (spelledRow (ip.groups.take run.start) ++ [':', ':'] ++
        spelledRow (ip.groups.drop (run.start + run.length)))
  /-- Without such a run all groups are there. -/
  | full (notMapped : ¬ mappedPrefix <+: ip.groups)
      (single : ∀ run : ZeroRun, run.In ip.groups → run.length ≤ 1) :
      Canonical ip (spelledRow ip.groups)

/-! ## Runs of zero groups -/

theorem replicate_leadingZeros (gs : List UInt16) :
    gs = List.replicate (leadingZeros gs) 0 ++ gs.drop (leadingZeros gs) := by
  induction gs with
  | nil => rfl
  | cons g gs ih =>
    rw [leadingZeros]
    split
    · rename_i zero
      rw [zero, List.replicate_succ, List.drop_succ_cons, List.cons_append, ← ih]
    · rfl

theorem le_leadingZeros {gs back : List UInt16} {zeros : Nat}
    (starts : gs = List.replicate zeros 0 ++ back) : zeros ≤ leadingZeros gs := by
  induction zeros generalizing gs with
  | zero => exact Nat.zero_le _
  | succ zeros ih =>
    rw [starts, List.replicate_succ, List.cons_append, leadingZeros, if_pos rfl]
    exact Nat.succ_le_succ (ih rfl)

/-- A run begins at the front of a row, or stands in the rest of it. -/
theorem ZeroRun.in_cons {run : ZeroRun} {g : UInt16} {gs : List UInt16} :
    run.In (g :: gs) ↔
      run.start = 0 ∧ run.length ≤ leadingZeros (g :: gs) ∨
        ∃ start, run.start = start + 1 ∧ ZeroRun.In ⟨start, run.length⟩ gs := by
  constructor
  · rintro ⟨front, back, split, place⟩
    cases front with
    | nil => exact .inl ⟨place.symm, le_leadingZeros split⟩
    | cons first front =>
      obtain ⟨-, rest⟩ := List.cons.inj split
      exact .inr ⟨front.length, place.symm, front, back, rest, rfl⟩
  · rintro (⟨place, fits⟩ | ⟨start, place, front, back, rfl, before⟩)
    · obtain ⟨more, same⟩ := Nat.exists_eq_add_of_le fits
      refine ⟨[], List.replicate more 0 ++ (g :: gs).drop (leadingZeros (g :: gs)), ?_, place.symm⟩
      rw [List.nil_append, ← List.append_assoc, List.replicate_append_replicate, ← same]
      exact replicate_leadingZeros (g :: gs)
    · exact ⟨g :: front, back, rfl, by rw [List.length_cons, before, place]⟩

theorem longestZeroRun_succ (index : Nat) (gs : List UInt16) :
    longestZeroRun (index + 1) gs =
      ⟨(longestZeroRun index gs).start + 1, (longestZeroRun index gs).length⟩ := by
  induction gs generalizing index with
  | nil => rfl
  | cons g gs ih =>
    simp only [longestZeroRun, ih (index + 1)]
    split <;> rfl

theorem foremost_longestZeroRun (gs : List UInt16) : (longestZeroRun 0 gs).Foremost gs := by
  induction gs with
  | nil =>
    refine ⟨⟨[], [], rfl, rfl⟩, ?_, fun other _ _ => Nat.zero_le _⟩
    rintro other ⟨front, back, split, -⟩
    have noGroups := congrArg List.length split
    simp only [List.length_nil, List.length_append, List.length_replicate] at noGroups
    omega
  | cons g gs ih =>
    simp only [longestZeroRun, longestZeroRun_succ]
    split
    · rename_i atFront
      refine ⟨ZeroRun.in_cons.mpr (.inl ⟨rfl, Nat.le_refl _⟩), ?_, fun other _ _ => Nat.zero_le _⟩
      intro other within
      rcases ZeroRun.in_cons.mp within with ⟨-, fits⟩ | ⟨start, -, later⟩
      · exact fits
      · exact Nat.le_trans (ih.longest ⟨start, other.length⟩ later) atFront
    · rename_i notAtFront
      refine ⟨ZeroRun.in_cons.mpr (.inr ⟨_, rfl, ih.within⟩), ?_, ?_⟩
      · intro other within
        rcases ZeroRun.in_cons.mp within with ⟨-, fits⟩ | ⟨start, -, later⟩
        · exact Nat.le_of_lt (Nat.lt_of_le_of_lt fits (Nat.not_le.mp notAtFront))
        · exact ih.longest ⟨start, other.length⟩ later
      · intro other within sameLength
        rcases ZeroRun.in_cons.mp within with ⟨-, fits⟩ | ⟨start, place, later⟩
        · exact absurd (sameLength ▸ fits) notAtFront
        · rw [place]
          exact Nat.succ_le_succ (ih.leftmost ⟨start, other.length⟩ later sameLength)

/-- A row has one foremost run. -/
theorem ZeroRun.Foremost.unique {run other : ZeroRun} {gs : List UInt16}
    (foremost : run.Foremost gs) (otherForemost : other.Foremost gs) : run = other := by
  have sameLength : run.length = other.length :=
    Nat.le_antisymm (otherForemost.longest run foremost.within)
      (foremost.longest other otherForemost.within)
  have sameStart : run.start = other.start :=
    Nat.le_antisymm (foremost.leftmost other otherForemost.within sameLength.symm)
      (otherForemost.leftmost run foremost.within sameLength)
  cases run
  cases other
  simp_all

/-! ## IPv4-mapped addresses -/

theorem octetsOfGroup_groupOfOctets (high low : UInt8) :
    octetsOfGroup (groupOfOctets high low) = [high, low] := by
  have highBound := high.toNat_lt
  have lowBound := low.toNat_lt
  have number : (groupOfOctets high low).toNat = high.toNat * 256 + low.toNat := by
    rw [groupOfOctets, UInt16.toNat_ofNat', Nat.mod_eq_of_lt (by omega)]
  have quotient : (high.toNat * 256 + low.toNat) / 256 = high.toNat := by omega
  have remainder : (high.toNat * 256 + low.toNat) % 256 = low.toNat := by omega
  rw [octetsOfGroup, number, quotient, remainder, UInt8.ofNat_toNat, UInt8.ofNat_toNat]

theorem mapped?_eq_some_iff {ip : Ipv6} {v4 : Ipv4} :
    ip.mapped? = some v4 ↔ ip.groups = mappedPrefix ++ groupsOfOctets v4.octets := by
  constructor
  · intro found
    unfold mapped? at found
    split at found
    · rename_i marked
      have lastTwo := congrArg groupsOfOctets (Ipv4.ofOctets?_eq_some_iff.mp found)
      rw [groupsOfOctets_flatMap] at lastTwo
      rw [← lastTwo, mappedPrefix, ← marked, List.take_append_drop]
    · cases found
  · intro carries
    have lastTwo : (groupsOfOctets v4.octets).flatMap octetsOfGroup = v4.octets := by
      simp [Ipv4.octets, groupsOfOctets, octetsOfGroup_groupOfOctets]
    have marked : (mappedPrefix ++ groupsOfOctets v4.octets).take 6 = [0, 0, 0, 0, 0, 0xffff] := rfl
    rw [mapped?, carries, if_pos marked]
    exact (congrArg Ipv4.ofOctets? lastTwo).trans v4.ofOctets?_octets

theorem mapped?_eq_none_iff {ip : Ipv6} : ip.mapped? = none ↔ ¬ mappedPrefix <+: ip.groups := by
  rw [List.prefix_iff_eq_take, mapped?]
  constructor
  · intro unmapped marked
    have front : ip.groups.take 6 = [0, 0, 0, 0, 0, 0xffff] := marked.symm
    rw [if_pos front] at unmapped
    cases unmapped
  · exact fun unmarked => if_neg fun marked => unmarked marked.symm

/-! ## Writing is canonical -/

theorem writeGroups_eq_spelledRow (gs : List UInt16) : writeGroups gs = spelledRow gs := by
  have hexadecimals : (fun g : UInt16 => Numeral.write 16 g.toNat) =
      fun g : UInt16 => Nat.toDigits 16 g.toNat :=
    funext fun g => Numeral.write_eq_toDigits (by decide) (by decide) _
  rw [writeGroups, spelledRow, Split.join_eq_intercalate, hexadecimals]

/-- Every address has one canonical spelling, and writing gives it. -/
theorem canonical_iff {ip : Ipv6} {cs : List Char} : Canonical ip cs ↔ cs = ip.write := by
  constructor
  · intro canonical
    cases canonical with
    | mapped v4 carries => simp only [write, mapped?_eq_some_iff.mpr carries, v4.write_eq_spelling]
    | short notMapped foremost several =>
      have same := foremost.unique (foremost_longestZeroRun ip.groups)
      rw [same] at several ⊢
      simp only [write, mapped?_eq_none_iff.mpr notMapped, if_pos several,
        writeGroups_eq_spelledRow]
    | full notMapped single =>
      have short := single _ (foremost_longestZeroRun ip.groups).within
      simp only [write, mapped?_eq_none_iff.mpr notMapped, if_neg (Nat.not_lt.mpr short),
        writeGroups_eq_spelledRow]
  · rintro rfl
    have foremost := foremost_longestZeroRun ip.groups
    cases carried : ip.mapped? with
    | some v4 =>
      simp only [write, carried, v4.write_eq_spelling]
      exact .mapped v4 (mapped?_eq_some_iff.mp carried)
    | none =>
      have notMapped := mapped?_eq_none_iff.mp carried
      simp only [write, carried, writeGroups_eq_spelledRow]
      split
      · rename_i several
        exact .short notMapped foremost several
      · rename_i notSeveral
        refine .full notMapped fun run within => ?_
        exact Nat.le_trans (foremost.longest run within) (Nat.not_lt.mp notSeveral)

/-! ## Canonical spellings are spellings -/

theorem spellsGroup_toDigits (g : UInt16) : SpellsGroup (Nat.toDigits 16 g.toNat) g := by
  rw [← Numeral.write_eq_toDigits (by decide) (by decide)]
  exact ⟨(Numeral.length_write_le_iff (by decide) (by decide) (by decide)).mpr g.toNat_lt,
    Numeral.read?_write (by decide) (by decide) _⟩

theorem spellsRow_spelledRow (dotted : Bool) {gs : List UInt16} (notEmpty : gs ≠ []) :
    SpellsRow dotted (spelledRow gs) gs := by
  induction gs with
  | nil => exact absurd rfl notEmpty
  | cons g gs ih =>
    cases gs with
    | nil =>
      rw [spelledRow, List.map_singleton, List.intercalate_singleton]
      exact .group (spellsGroup_toDigits g)
    | cons next rest =>
      rw [spelledRow, List.map_cons, List.intercalate_cons_of_ne_nil (by simp), List.append_assoc]
      exact .cons (spellsGroup_toDigits g) (ih (List.cons_ne_nil next rest))

theorem spellsSide_spelledRow (dotted : Bool) (gs : List UInt16) :
    SpellsSide dotted (spelledRow gs) gs := by
  cases gs with
  | nil => exact .nothing
  | cons g gs => exact .row (spellsRow_spelledRow dotted (List.cons_ne_nil g gs))

theorem Canonical.spells {ip : Ipv6} {cs : List Char} (canonical : Canonical ip cs) :
    Spells cs ip := by
  cases canonical with
  | mapped v4 carries =>
    have marker : SpellsGroup ['f', 'f', 'f', 'f'] 0xffff := spellsGroup_toDigits 0xffff
    exact @Spells.short [] _ [] _ 5 ip .nothing (.row (.cons marker (.tail v4 rfl))) (by decide)
      carries
  | @short run notMapped foremost several =>
    obtain ⟨front, back, split, place⟩ := foremost.within
    have head : ip.groups.take run.start = front := by
      rw [split, List.append_assoc, ← place, List.take_left]
    have tail : ip.groups.drop (run.start + run.length) = back := by
      rw [split, ← place]
      exact List.drop_left' (by simp)
    rw [head, tail, List.append_assoc]
    exact .short (spellsSide_spelledRow false front) (spellsSide_spelledRow true back)
      (Nat.zero_lt_of_lt several) split
  | full notMapped single =>
    exact .full (spellsRow_spelledRow true (List.ne_nil_of_length_pos (by simp [length_groups])))

end Ipv6

/-! ## Either family -/

namespace IpAddress

/-- The canonical spelling of an address of either family; an IPv4 address has no other one. -/
inductive Canonical : IpAddress → List Char → Prop
  | v4 (ip : Ipv4) : Canonical (.v4 ip) ip.spelling
  | v6 {ip : Ipv6} {cs : List Char} (canonical : Ipv6.Canonical ip cs) : Canonical (.v6 ip) cs

variable {ip : IpAddress} {cs : List Char}

theorem canonical_iff : Canonical ip cs ↔ cs = ip.write := by
  constructor
  · intro canonical
    cases canonical with
    | v4 v4 => exact v4.write_eq_spelling.symm
    | v6 canonical => exact Ipv6.canonical_iff.mp canonical
  · rintro rfl
    cases ip with
    | v4 v4 =>
      rw [write, v4.write_eq_spelling]
      exact .v4 v4
    | v6 v6 => exact .v6 (Ipv6.canonical_iff.mpr rfl)

theorem Canonical.spells (canonical : Canonical ip cs) : Spells cs ip := by
  cases canonical with
  | v4 v4 => exact .v4 v4
  | v6 canonical => exact .v6 canonical.spells

end IpAddress

/-! ## Interface addresses -/

namespace NetAddr

theorem toList_text (addr : NetAddr) :
    addr.text.toList = addr.ip.write ++ '/' :: Nat.toDigits 10 addr.prefixLen := by
  rw [text, String.toList_ofList, write, Numeral.write_eq_toDigits (by decide) (by decide)]

theorem spells_text (addr : NetAddr) : Spells addr.text.toList addr.ip addr.prefixLen := by
  have spells : IpAddress.Spells addr.ip.write addr.ip := (IpAddress.canonical_iff.mpr rfl).spells
  have denotes : Nat.ofDigitChars 10 (Nat.toDigits 10 addr.prefixLen) 0 = addr.prefixLen :=
    Nat.ofDigitChars_ten_toDigits
  have withLength := Spells.withLength spells spells.slash_not_mem Nat.toDigits_ne_nil
    (fun c member => Nat.isDigit_of_mem_toDigits (by decide) (by decide) member)
    (denotes.symm ▸ addr.prefixLen_le)
  rwa [denotes, ← toList_text] at withLength

/-- Different interface addresses have different texts: each is read as itself. -/
theorem text_injective : Function.Injective text := by
  intro addr other sameText
  have readBack := parse_of_spells addr.spells_text
  rw [sameText, parse_of_spells other.spells_text] at readBack
  cases readBack
  rfl

/-- Reading undoes writing, for every address with every prefix length that its family allows:

* the text of an interface address is read as that address, with its family;
* so different interface addresses have different texts;
* whatever text an interface address was read from, its own text is read as the same;
* its text is the canonical spelling of the address, a slash and the length without leading
  zeros. -/
theorem parse_text (addr : NetAddr) :
    of? addr.ip addr.prefixLen = .ok addr ∧
      parse addr.text = .ok (addr, addr.version) ∧
      ofText addr.text = .ok addr ∧
      (∀ other : NetAddr, other.text = addr.text → other = addr) ∧
      (∀ input version, parse input = .ok (addr, version) →
        parse addr.text = .ok (addr, version)) ∧
      ∀ cs, IpAddress.Canonical addr.ip cs ↔
        addr.text = String.ofList (cs ++ '/' :: Nat.toDigits 10 addr.prefixLen) := by
  have readBack : ∀ addr : NetAddr, parse addr.text = .ok (addr, addr.version) :=
    fun addr => parse_of_spells addr.spells_text
  refine ⟨of?_of_le addr.prefixLen_le, readBack addr, ?_, ?_, ?_, ?_⟩
  · rw [ofText, readBack]
    rfl
  · intro other sameText
    have both := readBack other
    rw [sameText, readBack] at both
    cases both
    rfl
  · intro input version accepted
    obtain ⟨-, rfl⟩ := parse_eq_ok_iff.mp accepted
    exact readBack addr
  · intro cs
    rw [IpAddress.canonical_iff, ← String.toList_inj, toList_text, String.toList_ofList,
      List.append_left_inj]
    exact eq_comm

/-- Two runs of zero groups, equally long. -/
theorem parse_text_tied :
    let ip : Ipv6 := ⟨0x2001, 0xdb8, 0, 0, 1, 0, 0, 1⟩
    let addr : NetAddr := ⟨.v6 ip, 64, Nat.le_of_ble_eq_true rfl⟩
    addr.text = "2001:db8::1:0:0:1/64" ∧
      parse "2001:db8::1:0:0:1/64" = .ok (addr, .v6) ∧
      parse "2001:DB8:0:0:1::1/064" = .ok (addr, .v6) := by
  intro ip addr
  obtain ⟨-, readBack, -, -, -, canonical⟩ := parse_text addr
  have sides : Ipv6.spelledRow (ip.groups.take 2) ++ [':', ':'] ++
      Ipv6.spelledRow (ip.groups.drop 4) = "2001:db8::1:0:0:1".toList := by decide
  have spelled : Ipv6.Canonical ip "2001:db8::1:0:0:1".toList :=
    sides ▸ @Ipv6.Canonical.short ip ⟨2, 2⟩ (by decide)
      (Ipv6.foremost_longestZeroRun ip.groups) (by decide)
  have joined : String.ofList ("2001:db8::1:0:0:1".toList ++ '/' :: Nat.toDigits 10 64) =
      "2001:db8::1:0:0:1/64" := by decide
  have written := ((canonical _).mp (.v6 spelled)).trans joined
  rw [written] at readBack
  exact ⟨written, readBack, by rfl⟩

end NetAddr

end PluginSupport
