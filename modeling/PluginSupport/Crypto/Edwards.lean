import PluginSupport.Crypto.Modular
import PluginSupport.Crypto.Sha512

/-!
# Ed25519

Public keys on the twisted Edwards curve `-x² + y² = 1 + d x² y²` over the field of `2²⁵⁵ - 19`
elements. Points are kept as `(X, Y, Z, T)` with `x = X / Z`, `y = Y / Z` and `T = X Y / Z`. A
private key is a seed of 32 bytes; its public key is the base point times a number made from the
hash of the seed.
-/
namespace PluginSupport.Edwards

open Utf8 (Bytes)

/-- Size of the field. -/
def prime : Nat := Nat.pow 2 255 - 19

/-- The constant `d` of the curve, `-121665 / 121666`. -/
def curveD : Nat :=
  Modular.sub prime 0 (121665 * Modular.inverse prime 121666)

/-- A point in extended coordinates. -/
structure Point where
  x : Nat
  y : Nat
  z : Nat
  t : Nat
deriving DecidableEq, Repr

/-- The neutral point. -/
def neutral : Point := ⟨0, 1, 1, 0⟩

/-- The base point, of `y = 4 / 5` and even `x`. -/
def base : Point :=
  let x := 15112221349535400772501151409588531511454012693041857206046113283949847762202
  let y := 46316835694926478169428394003475163141307993866256225615783033603165251855960
  ⟨x, y, 1, x * y % prime⟩

/-- Sum of two points. -/
def add (a b : Point) : Point :=
  let p := prime
  let m := Modular.sub p a.y a.x * Modular.sub p b.y b.x % p
  let n := (a.y + a.x) * (b.y + b.x) % p
  let c := 2 * (a.t * b.t % p) * curveD % p
  let d := 2 * (a.z * b.z) % p
  let e := Modular.sub p n m
  let f := Modular.sub p d c
  let g := (d + c) % p
  let h := (n + m) % p
  ⟨e * f % p, g * h % p, f * g % p, e * h % p⟩

/-- Multiple of a point. -/
def multiply (scalar : Nat) (a : Point) : Point :=
  (Modular.bitsOf scalar).foldl (fun acc bit =>
    let twice := add acc acc
    if bit then add twice a else twice) neutral

/-- Number that bytes denote, least significant first. -/
def littleEndian (bytes : Bytes) : Nat :=
  Der.number bytes.reverse

/-- Bytes of a point: `y`, least significant byte first, the lowest bit of `x` in the highest bit.
-/
def encode (a : Point) : Bytes :=
  let inverse := Modular.inverse prime a.z
  let x := a.x * inverse % prime
  let y := a.y * inverse % prime
  (Der.fixedWidth 32 (y + x % 2 * Nat.pow 2 255)).reverse

/-- Number that multiplies the base point: the first half of the hash of the seed, with its three
lowest bits and its highest bit cleared and the bit below set. -/
def secretScalar (seed : Bytes) : Nat :=
  let n := littleEndian ((Sha512.hash seed).take 32)
  n % Nat.pow 2 254 / 8 * 8 + Nat.pow 2 254

/-- Public key of a seed. -/
def publicKey (seed : Bytes) : Bytes :=
  encode (multiply (secretScalar seed) base)

end PluginSupport.Edwards
