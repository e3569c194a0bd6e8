import PluginSupport.Address.NetAddr

/-!
# Order of interface addresses

`NetAddr.order` is a total order, and only equal addresses compare as equal. Octets determine an
address of either family (`IpAddress.ofOctets?_octets`), and masks compare as the lengths that they
were made of (`NetAddr.compare_maskOfLength`).

Main result: `NetAddr.order_exact`.
-/
namespace PluginSupport

/-! ## Octets -/

namespace Ipv6

theorem groupOfOctets_octets (g : UInt16) :
    groupOfOctets (UInt8.ofNat (g.toNat / 256)) (UInt8.ofNat (g.toNat % 256)) = g := by
  have bound := g.toNat_lt
  refine UInt16.toNat_inj.mp ?_
  simp only [groupOfOctets, UInt16.toNat_ofNat', UInt8.toNat_ofNat']
  omega

theorem groupsOfOctets_flatMap (gs : List UInt16) :
    groupsOfOctets (gs.flatMap octetsOfGroup) = gs := by
  induction gs with
  | nil => rfl
  | cons g gs ih =>
    rw [List.flatMap_cons, octetsOfGroup]
    exact congr (congrArg _ (groupOfOctets_octets g)) ih

theorem ofOctets?_octets (ip : Ipv6) : ofOctets? ip.octets = some ip := by
  rw [ofOctets?, if_pos ip.length_octets, octets, groupsOfOctets_flatMap, ofGroups?_groups]

end Ipv6

namespace IpAddress

theorem ofOctets?_octets (ip : IpAddress) : ofOctets? ip.octets = some ip := by
  cases ip with
  | v4 ip => rfl
  | v6 ip =>
    have notV4 : Ipv4.ofOctets? ip.octets = none := rfl
    simp only [ofOctets?, octets, notV4, Ipv6.ofOctets?_octets, Option.map_some]

theorem octets_injective {a b : IpAddress} (same : a.octets = b.octets) : a = b := by
  refine Option.some.inj ?_
  rw [← ofOctets?_octets a, same, ofOctets?_octets]

end IpAddress

namespace NetAddr

/-! ## Masks -/

/-- Octet whose `len` highest bits are set; eight bits or more set them all. -/
def maskOctet (len : Nat) : UInt8 :=
  UInt8.ofNat (256 - Nat.pow 2 (8 - min len 8))

/-- Octets of a mask: `len` set bits from the front, over `width` octets. -/
def maskOfLength (len : Nat) : (width : Nat) → List UInt8
  | 0 => []
  | width + 1 => maskOctet len :: maskOfLength (len - 8) width

/-- The set bits of a mask fill its octets from the front. -/
theorem maskOctets_eq (addr : NetAddr) :
    addr.maskOctets = maskOfLength addr.prefixLen addr.version.width := by
  have v4 : ∀ len : Fin 33, (Ipv4.ofBits (maskBits 32 len)).octets = maskOfLength len 4 := by
    decide +kernel
  have v6 : ∀ len : Fin 129, (Ipv6.ofBits (maskBits 128 len)).octets = maskOfLength len 16 := by
    decide +kernel
  obtain ⟨ip, len, fits⟩ := addr
  cases ip with
  | v4 ip => exact v4 ⟨len, Nat.lt_succ_of_le fits⟩
  | v6 ip => exact v6 ⟨len, Nat.lt_succ_of_le fits⟩

/-- Octets of masks compare as the numbers of their set bits. -/
theorem compare_maskOctet (m n : Nat) :
    compare (maskOctet m) (maskOctet n) = compare (min m 8) (min n 8) := by
  have table : ∀ m n : Fin 9, compare (maskOctet m) (maskOctet n) = compare m.val n.val := by
    decide
  have octet : ∀ len, maskOctet len = maskOctet (min len 8) := by
    intro len
    simp only [maskOctet, Nat.min_assoc, Nat.min_self]
  rw [octet m, octet n]
  exact table ⟨min m 8, by omega⟩ ⟨min n 8, by omega⟩

/-- Lengths compare by what falls into the first octet, then by what is left. -/
theorem compare_then_compare (m n : Nat) :
    (compare (min m 8) (min n 8)).then (compare (m - 8) (n - 8)) = compare m n := by
  rcases Nat.lt_trichotomy (min m 8) (min n 8) with less | same | more
  · rw [Nat.compare_eq_lt.mpr less, Nat.compare_eq_lt.mpr (by omega : m < n)]
    rfl
  · -- Equal, or both long enough to fill the octet: the rest decides.
    have less : m - 8 < n - 8 ↔ m < n := by omega
    have more : n - 8 < m - 8 ↔ n < m := by omega
    simp only [Nat.compare_eq_eq.mpr same, Nat.compare_eq_ite_lt m, Nat.compare_eq_ite_lt (m - 8),
      less, more]
    rfl
  · rw [Nat.compare_eq_gt.mpr more, Nat.compare_eq_gt.mpr (by omega : n < m)]
    rfl

/-- Masks compare as their lengths. -/
theorem compare_maskOfLength {width m n : Nat} (mFits : m ≤ 8 * width) (nFits : n ≤ 8 * width) :
    compareOctets (maskOfLength m width) (maskOfLength n width) = compare m n := by
  induction width generalizing m n with
  | zero =>
    obtain rfl : m = 0 := by omega
    obtain rfl : n = 0 := by omega
    rfl
  | succ width ih =>
    rw [maskOfLength, maskOfLength, compareOctets, compare_maskOctet,
      ih (by omega) (by omega), compare_then_compare]

/-! ## The order -/

theorem compareOctets_eq_compare (as bs : List UInt8) : compareOctets as bs = compare as bs := by
  induction as generalizing bs with
  | nil => cases bs <;> rfl
  | cons a as ih =>
    cases bs with
    | nil => rfl
    | cons b bs => rw [compareOctets, ih, List.compare_cons_cons]

theorem order_eq_compareLex : order = compareLex (compareOn ipOctets) (compareOn maskOctets) := by
  funext a b
  simp only [order, compareOctets_eq_compare]
  rfl

/-- The order is total. -/
instance : Std.TransCmp order := by
  rw [order_eq_compareLex]
  infer_instance

/-- Only equal addresses compare as equal. -/
instance : Std.LawfulEqCmp order where
  eq_of_compare := by
    rintro ⟨ip, m, mFits⟩ ⟨other, n, nFits⟩ equal
    obtain ⟨sameOctets, sameMask⟩ := Ordering.then_eq_eq.mp equal
    rw [compareOctets_eq_compare, Std.LawfulEqOrd.compare_eq_iff_eq] at sameOctets
    obtain rfl := IpAddress.octets_injective sameOctets
    rw [maskOctets_eq, maskOctets_eq] at sameMask
    have sameLength : compare m n = .eq :=
      (compare_maskOfLength mFits nFits).symm.trans sameMask
    obtain rfl := Nat.compare_eq_eq.mp sameLength
    rfl

/-! ## Sorting -/

theorem le_trans (a b c : NetAddr) (first : le a b = true) (second : le b c = true) :
    le a c = true :=
  (inferInstance : Std.TransCmp order).isLE_trans first second

theorem le_total (a b : NetAddr) : (le a b || le b a) = true := by
  have mirrored : order b a = (order a b).swap := Std.OrientedCmp.eq_swap
  rw [le, le, mirrored]
  cases order a b <;> rfl

theorem le_antisymm {a b : NetAddr} (first : le a b = true) (second : le b a = true) : a = b :=
  (inferInstance : Std.LawfulEqCmp order).eq_of_compare
    (Std.OrientedCmp.isLE_antisymm first second)

/-- Addresses in ascending order, equal ones side by side. -/
def Sorted (addrs : List NetAddr) : Prop :=
  addrs.Pairwise fun a b => le a b = true

theorem sort_perm (addrs : List NetAddr) : (sort addrs).Perm addrs :=
  List.mergeSort_perm addrs le

theorem sorted_sort (addrs : List NetAddr) : Sorted (sort addrs) :=
  List.pairwise_mergeSort le_trans le_total addrs

/-- The order that the addresses are given in does not matter. -/
theorem sort_eq_of_perm {addrs others : List NetAddr} (permuted : addrs.Perm others) :
    sort addrs = sort others := by
  refine List.Perm.eq_of_pairwise (fun a b _ _ => le_antisymm) (sorted_sort addrs)
    (sorted_sort others) ?_
  exact ((sort_perm addrs).trans permuted).trans (sort_perm others).symm

/-- An address before the first one of a sorted row is not in the row. -/
theorem not_mem_of_lt {a b : NetAddr} {addrs : List NetAddr} (sorted : Sorted (b :: addrs))
    (before : order a b = .lt) : a ∉ b :: addrs := by
  intro member
  rcases List.mem_cons.mp member with rfl | later
  · have alike : order a a = .eq := Std.ReflCmp.compare_self
    rw [alike] at before
    cases before
  · have notAfter : le b a = true := (List.pairwise_cons.mp sorted).1 a later
    rw [le, Std.OrientedCmp.gt_of_lt before] at notAfter
    cases notAfter

/-! ## The order in full -/

/-- Masks compare as prefix lengths wherever they are looked at: octets that agree belong to one
family. -/
theorem order_eq (a b : NetAddr) :
    order a b = (compare a.ipOctets b.ipOctets).then (compare a.prefixLen b.prefixLen) := by
  rw [order, compareOctets_eq_compare]
  cases octets : compare a.ipOctets b.ipOctets with
  | lt => rfl
  | gt => rfl
  | eq =>
    have sameIp := IpAddress.octets_injective (Std.LawfulEqOrd.compare_eq_iff_eq.mp octets)
    have sameVersion : a.version = b.version := congrArg IpAddress.version sameIp
    have bFits : b.prefixLen ≤ 8 * a.version.width := sameVersion ▸ b.prefixLen_le
    rw [maskOctets_eq, maskOctets_eq, ← sameVersion]
    exact compare_maskOfLength a.prefixLen_le bFits

/-- A row of octets comes before every row that goes on after it. -/
theorem compare_append (os : List UInt8) (o : UInt8) (more : List UInt8) :
    compare os (os ++ o :: more) = .lt := by
  induction os with
  | nil => rfl
  | cons first os ih =>
    rw [List.cons_append, List.compare_cons_cons, Std.ReflOrd.compare_self, ih]
    rfl

/-- The order of interface addresses is total and agrees with equality.

* Address octets, four or sixteen of them, decide from the front; where all of them agree, the
  prefix lengths decide as numbers.
* Addresses compare as equal just in case they are equal. Turning a comparison around swaps its
  result, and comparisons carry over from one address to the next.
* Addresses of different families never compare as equal. An IPv4 address comes before an IPv6
  address that begins with its octets, and differs from the one that it is mapped to. -/
theorem order_exact (a b : NetAddr) :
    a.ipOctets.length = a.version.width ∧
      order a b = (compare a.ipOctets b.ipOctets).then (compare a.prefixLen b.prefixLen) ∧
      (order a b = .eq ↔ a = b) ∧
      order b a = (order a b).swap ∧
      (∀ c, order a b = .lt → order b c = .lt → order a c = .lt) ∧
      (∀ c, (order a b).isLE → (order b c).isLE → (order a c).isLE) ∧
      (a.version ≠ b.version → order a b ≠ .eq) ∧
      (a.version = .v4 → b.version = .v6 → a.ipOctets <+: b.ipOctets → order a b = .lt) ∧
      ∀ v4 v6, a.ip = .v4 v4 → b.ip = .v6 v6 → v6.mapped? = some v4 → order a b ≠ .eq := by
  have agrees : order a b = .eq ↔ a = b := Std.LawfulEqCmp.compare_eq_iff_eq
  have apart : a.version ≠ b.version → order a b ≠ .eq := by
    intro different equal
    exact different (congrArg version (agrees.mp equal))
  refine ⟨a.ip.length_octets, order_eq a b, agrees, Std.OrientedCmp.eq_swap,
    fun c => Std.TransCmp.lt_trans, fun c => Std.TransCmp.isLE_trans, apart, ?_, ?_⟩
  · rintro isV4 isV6 ⟨rest, longer⟩
    cases rest with
    | nil =>
      rw [List.append_nil] at longer
      exact absurd (isV4.symm.trans ((congrArg IpAddress.version
        (IpAddress.octets_injective longer)).trans isV6)) nofun
    | cons o more =>
      rw [order_eq, ← longer, compare_append]
      rfl
  · intro v4 v6 isV4 isV6 _
    refine apart ?_
    rw [version, version, isV4, isV6]
    nofun

/-- An IPv4 address. -/
def dotted : NetAddr := ⟨.v4 ⟨32, 1, 13, 184⟩, 0, by decide⟩

/-- An IPv6 address that begins with the same octets. -/
def prolonged : NetAddr := ⟨.v6 ⟨0x2001, 0xdb8, 0, 0, 0, 0, 0, 0⟩, 128, by decide⟩

/-- The IPv6 address that the IPv4 address is mapped to. -/
def embedded : NetAddr := ⟨.v6 ⟨0, 0, 0, 0, 0, 0xffff, 0x2001, 0xdb8⟩, 96, by decide⟩

/-- The hypotheses of `order_exact` at three addresses that look alike. -/
theorem order_exact_alike :
    order dotted prolonged = .lt ∧ order dotted embedded ≠ .eq ∧ order embedded prolonged = .lt ∧
      (order embedded prolonged).isLE := by
  obtain ⟨-, -, -, -, -, -, -, prefixFirst, -⟩ := order_exact dotted prolonged
  obtain ⟨-, -, -, -, -, -, -, -, neverMapped⟩ := order_exact dotted embedded
  obtain ⟨-, -, -, -, strictly, weakly, -⟩ := order_exact embedded dotted
  have below : order embedded dotted = .lt := by decide
  have above : order dotted prolonged = .lt := prefixFirst rfl rfl ⟨_, rfl⟩
  refine ⟨above, neverMapped _ _ rfl rfl rfl, strictly _ below above, weakly _ ?_ ?_⟩
  · rw [below]
    rfl
  · rw [above]
    rfl

end NetAddr

end PluginSupport
