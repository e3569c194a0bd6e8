import Mathlib.Algebra.Ring.Parity
import Mathlib.Data.Nat.ModEq
import PluginSupport.Key.Rsa
import PluginSupport.Proofs.Key.Envelope

/-!
# RSA private keys in files

`Rsa.PrivateKey.Fits` says which parts make a private key that is accepted, and `Rsa.Written` how
they are written.

Main results: `Rsa.isConsistent_iff` and `Rsa.readPkcs1?_eq_some_iff`.
-/
namespace PluginSupport.Rsa

open Utf8 (Bytes)
open Der (wrapNatural)
open Pkcs8 (IsSequence)

/-! ## Keys that are accepted -/

/-- Whether the parts of a private key fit each other, where the factors have `half` bits. The
modulus has twice as many, or one less. -/
structure PrivateKey.Fits (key : PrivateKey) (half : Nat) : Prop where
  blocks : half = 1024 ∨ half = 1536 ∨ half = 2048
  modulus : Odd key.n ∧ 2 ^ (2 * half - 2) ≤ key.n ∧ key.n < 2 ^ (2 * half)
  exponent : Odd key.e ∧ 65537 ≤ key.e ∧ key.e < 2 ^ 33
  factors : ∀ factor ∈ [key.p, key.q], Odd factor ∧ 2 ^ (half - 1) ≤ factor ∧ factor < 2 ^ half
  product : key.n ∣ key.p * key.q
  inverse : Odd key.d ∧ 2 ^ half ≤ key.d ∧ key.d < key.n
  residues : (Odd key.dP ∧ key.dP < key.p) ∧ Odd key.dQ ∧ key.dQ < key.q
  coefficient : key.qInv < key.p ∧ Nat.ModEq key.p (key.qInv * key.q) 1

/-- Numbers that a private key is written with, behind the version. -/
def PrivateKey.numbers (key : PrivateKey) : List Nat :=
  [key.n, key.e, key.d, key.p, key.q, key.dP, key.dQ, key.qInv]

/-- Whether these bytes are the private key in PKCS#1 form, and its parts fit each other. -/
def Written (key : PrivateKey) (der : Bytes) : Prop :=
  IsSequence der ((0 :: key.numbers).flatMap wrapNatural) ∧ ∃ half, key.Fits half

theorem isOdd_iff {n : Nat} : isOdd n = true ↔ Odd n := by
  rw [isOdd, decide_eq_true_eq, Nat.odd_iff]

theorem bitLength_le_iff {n count : Nat} : bitLength n ≤ count ↔ n < 2 ^ count := by
  rw [bitLength]
  split
  · rename_i zero
    rw [zero]
    exact iff_of_true (Nat.zero_le count) (Nat.pow_pos (by decide))
  · rename_i some
    rw [Nat.succ_le_iff, Nat.log2_lt some]

theorem lt_bitLength_iff {n count : Nat} : count < bitLength n ↔ 2 ^ count ≤ n := by
  rw [← Nat.not_le, bitLength_le_iff, Nat.not_lt]

theorem bitLength_eq_iff {n count : Nat} (some : 0 < count) :
    bitLength n = count ↔ 2 ^ (count - 1) ≤ n ∧ n < 2 ^ count := by
  rw [← lt_bitLength_iff, ← bitLength_le_iff]
  omega

theorem modEq_one_iff {m n : Nat} (large : 1 < m) : n % m = 1 ↔ Nat.ModEq m n 1 := by
  rw [Nat.ModEq, Nat.mod_eq_of_lt large]

theorem isConsistent_iff {key : PrivateKey} :
    key.isConsistent = true ↔ ∃ half, key.Fits half := by
  simp only [PrivateKey.isConsistent, PrivateKey.hasAcceptedSize, PrivateKey.hasMatchingFactors,
    PrivateKey.hasMatchingExponents, Bool.and_eq_true, decide_eq_true_eq, isOdd_iff]
  constructor
  · rintro ⟨⟨⟨oddN, atLeast, atMost, oddE, leastE, bitsE⟩, whole, bitsP, bitsQ, oddP, oddQ,
      product⟩, oddD, belowN, longD, oddDP, belowP, oddDQ, belowQ, smallInv, inverse⟩
    -- The sizes of modulus and factors leave three sizes for the factors.
    generalize isHalf : (bitLength key.n + 1) / 2 = half at whole bitsP bitsQ longD
    have blocks : half = 1024 ∨ half = 1536 ∨ half = 2048 := by omega
    have some : 0 < half := by omega
    have rangeP := (bitLength_eq_iff some).mp bitsP
    have rangeQ := (bitLength_eq_iff some).mp bitsQ
    have two : 1 < key.p := (@lt_bitLength_iff key.p 1).mp (by omega)
    refine ⟨half, ⟨blocks, ⟨oddN, lt_bitLength_iff.mp (by omega), bitLength_le_iff.mp (by omega)⟩,
      ⟨oddE, leastE, bitLength_le_iff.mp bitsE⟩, ?_, Nat.dvd_of_mod_eq_zero product,
      ⟨oddD, lt_bitLength_iff.mp longD, belowN⟩, ⟨⟨oddDP, belowP⟩, oddDQ, belowQ⟩, smallInv,
      (modEq_one_iff two).mp inverse⟩⟩
    simp only [List.forall_mem_cons, List.not_mem_nil, false_implies, implies_true, and_true]
    exact ⟨⟨oddP, rangeP⟩, oddQ, rangeQ⟩
  · rintro ⟨half, blocks, ⟨oddN, leastN, mostN⟩, ⟨oddE, leastE, bitsE⟩, factors, product,
      ⟨oddD, longD, belowN⟩, ⟨⟨oddDP, belowP⟩, oddDQ, belowQ⟩, smallInv, inverse⟩
    obtain ⟨oddP, rangeP⟩ := factors key.p List.mem_cons_self
    obtain ⟨oddQ, rangeQ⟩ := factors key.q (List.mem_cons_of_mem _ List.mem_cons_self)
    have some : 0 < half := by omega
    have bitsP := (bitLength_eq_iff some).mpr rangeP
    have bitsQ := (bitLength_eq_iff some).mpr rangeQ
    have two : 1 < key.p := (@lt_bitLength_iff key.p 1).mp (by omega)
    rw [← lt_bitLength_iff] at leastN longD
    rw [← bitLength_le_iff] at mostN bitsE
    have isHalf : (bitLength key.n + 1) / 2 = half := by omega
    rw [isHalf]
    exact ⟨⟨⟨oddN, by omega, by omega, oddE, leastE, bitsE⟩, by omega, bitsP, bitsQ, oddP, oddQ,
      Nat.mod_eq_zero_of_dvd product⟩, oddD, belowN, longD, oddDP, belowP, oddDQ, belowQ, smallInv,
      (modEq_one_iff two).mpr inverse⟩

/-! ## Reading -/

variable {row rest der : Bytes}

/-- Numbers are read off a short row one by one. -/
theorem readNaturals?_eq_some_iff (short : row.length < Pkcs8.limits.bound) {count : Nat}
    {ns : List Nat} : readNaturals? count row = some (ns, rest) ↔
      ns.length = count ∧ row = ns.flatMap wrapNatural ++ rest := by
  induction count generalizing row ns with
  | zero =>
    rw [readNaturals?, List.length_eq_zero_iff, Option.some.injEq, Prod.mk.injEq]
    constructor
    · rintro ⟨rfl, rfl⟩
      exact ⟨rfl, rfl⟩
    · rintro ⟨rfl, rfl⟩
      exact ⟨rfl, rfl⟩
  | succ count ih =>
    simp only [readNaturals?, Option.bind_eq_bind, Option.bind_eq_some_iff, Prod.exists,
      Der.readNatural?_eq_some_iff Pkcs8.limits_sound short, Option.some.injEq, Prod.mk.injEq]
    constructor
    · rintro ⟨n, behind, rfl, more, _, found, rfl, rfl⟩
      obtain ⟨rfl, rfl⟩ := (ih (Pkcs8.short_of_append short)).mp found
      exact ⟨rfl, by rw [List.flatMap_cons, List.append_assoc]⟩
    · rintro ⟨isCount, rfl⟩
      cases ns with
      | nil => cases isCount
      | cons n ns =>
        rw [List.flatMap_cons, List.append_assoc] at short ⊢
        exact ⟨n, _, rfl, ns, rest, (ih (Pkcs8.short_of_append short)).mpr
          ⟨Nat.succ.inj isCount, rfl⟩, rfl, rfl⟩

/-- A private key is read exactly if it is written and its parts fit each other. -/
theorem readPkcs1?_eq_some_iff {key : PrivateKey} :
    readPkcs1? der = some key ↔ Written key der := by
  unfold readPkcs1? Written
  simp only [Option.bind_eq_bind, Option.bind_eq_some_iff, Prod.exists, Pkcs8.isSequence_iff,
    Pkcs8.readSmall?_iff, Option.bind_none, Option.ite_none_left_eq_some, ne_eq,
    Classical.not_not, ← isConsistent_iff]
  constructor
  · rintro ⟨row, isSequence, _, behind, rfl, rfl, ns, rest, isRow, found⟩
    obtain ⟨-, rfl⟩ :=
      (readNaturals?_eq_some_iff (Pkcs8.short_of_append isSequence.2)).mp isRow
    split at found
    · rename_i eight
      rw [Option.ite_none_right_eq_some] at found
      obtain ⟨consistent, same⟩ := found
      cases same
      cases eight
      rw [List.append_nil] at isSequence
      exact ⟨isSequence, consistent⟩
    · cases found
  · rintro ⟨isSequence, consistent⟩
    have short := isSequence.2
    rw [List.flatMap_cons] at short
    refine ⟨_, isSequence, 0, _, rfl, rfl, key.numbers, [],
      (readNaturals?_eq_some_iff (Pkcs8.short_of_append short)).mpr ⟨rfl, ?_⟩, ?_⟩
    · rw [List.append_nil]
    · exact if_pos consistent

theorem Written.unique {key other : PrivateKey} (written : Written key der)
    (writtenOther : Written other der) : key = other :=
  Option.some.inj ((readPkcs1?_eq_some_iff.mpr written).symm.trans
    (readPkcs1?_eq_some_iff.mpr writtenOther))

theorem readPkcs8?_eq_some_iff {key : PrivateKey} :
    readPkcs8? der = some key ↔
      ∃ inner, Pkcs8.Envelope algorithm ⟨inner, none⟩ der ∧ Written key inner := by
  rw [readPkcs8?, Option.bind_eq_bind, Option.bind_eq_some_iff]
  simp only [readPkcs1?_eq_some_iff]
  exact Pkcs8.exists_open?_iff

end PluginSupport.Rsa
