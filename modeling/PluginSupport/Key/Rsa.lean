import PluginSupport.Key.Pkcs8

/-!
# RSA private keys

Keys of 2048, 3072 or 4096 bits, or one bit less: the two factors take a whole number of 512-bit
blocks. The parts of a key are checked against each other, without telling whether the factors are
prime.
-/
namespace PluginSupport.Rsa

open Utf8 (Bytes)

/-- Parts of a private key: modulus, exponents, factors and the values for the Chinese remainder
theorem. -/
structure PrivateKey where
  n : Nat
  e : Nat
  d : Nat
  p : Nat
  q : Nat
  dP : Nat
  dQ : Nat
  qInv : Nat
deriving DecidableEq, Repr

/-- Algorithm identifier of RSA keys, its sequence mark left off. -/
def algorithm : Bytes :=
  [0x06, 0x09, 0x2a, 0x86, 0x48, 0x86, 0xf7, 0x0d, 0x01, 0x01, 0x01, 0x05, 0x00]

/-- Bits of a number. -/
def bitLength (n : Nat) : Nat :=
  if n = 0 then 0 else n.log2 + 1

/-- Whether a number is odd. -/
def isOdd (n : Nat) : Bool := n % 2 = 1

namespace PrivateKey

/-- Whether modulus and public exponent have accepted sizes. -/
def hasAcceptedSize (key : PrivateKey) : Bool :=
  isOdd key.n ∧ 2048 ≤ (bitLength key.n + 7) / 8 * 8 ∧ bitLength key.n ≤ 4096 ∧
    isOdd key.e ∧ 65537 ≤ key.e ∧ bitLength key.e ≤ 33

/-- Whether the factors are odd, half as long as the modulus in whole blocks of 512 bits, and make
it up. -/
def hasMatchingFactors (key : PrivateKey) : Bool :=
  let half := (bitLength key.n + 1) / 2
  half % 512 = 0 ∧ bitLength key.p = half ∧ bitLength key.q = half ∧ isOdd key.p ∧ isOdd key.q ∧
    key.p * key.q % key.n = 0

/-- Whether the private exponents and the inverse of the second factor fit the rest. -/
def hasMatchingExponents (key : PrivateKey) : Bool :=
  let half := (bitLength key.n + 1) / 2
  isOdd key.d ∧ key.d < key.n ∧ half < bitLength key.d ∧
    isOdd key.dP ∧ key.dP < key.p ∧ isOdd key.dQ ∧ key.dQ < key.q ∧
    key.qInv < key.p ∧ key.qInv * key.q % key.p = 1

/-- Whether the parts fit each other. -/
def isConsistent (key : PrivateKey) : Bool :=
  key.hasAcceptedSize && key.hasMatchingFactors && key.hasMatchingExponents

/-- Public key: modulus and public exponent. -/
def publicKey (key : PrivateKey) : Bytes :=
  Der.wrap Der.sequenceTag (Der.wrapNatural key.n ++ Der.wrapNatural key.e)

end PrivateKey

/-- Natural numbers at the front of a row, and the bytes after them. -/
def readNaturals? : (count : Nat) → Bytes → Option (List Nat × Bytes)
  | 0, row => some ([], row)
  | count + 1, row => do
    let (n, row) ← Der.readNatural? Pkcs8.limits row
    let (ns, row) ← readNaturals? count row
    some (n :: ns, row)

/-- Private key of a row in PKCS#1 form. -/
def readPkcs1? (der : Bytes) : Option PrivateKey := do
  let row ← Der.readOnly? Pkcs8.limits Der.sequenceTag der
  let (version, row) ← Der.readSmall? Pkcs8.limits row
  if version ≠ 0 then none
  match ← readNaturals? 8 row with
  | ([n, e, d, p, q, dP, dQ, qInv], []) =>
    let key : PrivateKey := ⟨n, e, d, p, q, dP, dQ, qInv⟩
    if key.isConsistent then some key else none
  | _ => none

/-- Private key of a row in PKCS#8 form. -/
def readPkcs8? (der : Bytes) : Option PrivateKey := do
  let opened ← Pkcs8.open? algorithm false der
  readPkcs1? opened.privateKey

end PluginSupport.Rsa
