import PluginSupport.Crypto.Modular
import PluginSupport.Der.Element

/-!
# Elliptic curves over prime fields

The curves `y² = x³ - 3x + b` of NIST. Points are kept in Jacobian coordinates: `(X, Y, Z)` stands
for `(X / Z², Y / Z³)`, and `Z = 0` for the point at infinity. A private key is a number between
one and the order of the base point, its public key the multiple of the base point by it.
-/
namespace PluginSupport.PrimeCurve

open Utf8 (Bytes)

/-- A curve with its base point: field prime, order, coordinates, and bytes of a field element. -/
structure Curve where
  prime : Nat
  order : Nat
  baseX : Nat
  baseY : Nat
  width : Nat
deriving DecidableEq, Repr

/-- A point in Jacobian coordinates. -/
structure Point where
  x : Nat
  y : Nat
  z : Nat
deriving DecidableEq, Repr

/-- The point at infinity. -/
def infinity : Point := ⟨1, 1, 0⟩

namespace Curve

/-- The base point. -/
def base (curve : Curve) : Point := ⟨curve.baseX, curve.baseY, 1⟩

/-- Twice a point. -/
def double (curve : Curve) (a : Point) : Point :=
  let p := curve.prime
  if a.z = 0 ∨ a.y = 0 then infinity
  else
    let delta := a.z * a.z % p
    let gamma := a.y * a.y % p
    let beta := a.x * gamma % p
    let alpha := 3 * (Modular.sub p a.x delta * (a.x + delta)) % p
    let x := Modular.sub p (alpha * alpha) (8 * beta)
    let z := Modular.sub p ((a.y + a.z) * (a.y + a.z)) (gamma + delta)
    let y := Modular.sub p (alpha * Modular.sub p (4 * beta) x) (8 * (gamma * gamma))
    ⟨x, y, z⟩

/-- Sum of two points. -/
def add (curve : Curve) (a b : Point) : Point :=
  let p := curve.prime
  if a.z = 0 then b
  else if b.z = 0 then a
  else
    let za := a.z * a.z % p
    let zb := b.z * b.z % p
    let ua := a.x * zb % p
    let ub := b.x * za % p
    let sa := a.y * b.z % p * zb % p
    let sb := b.y * a.z % p * za % p
    let h := Modular.sub p ub ua
    let r := Modular.sub p sb sa
    if h = 0 then if r = 0 then curve.double a else infinity
    else
      let hh := h * h % p
      let hhh := h * hh % p
      let v := ua * hh % p
      let x := Modular.sub p (r * r) (hhh + 2 * v)
      let y := Modular.sub p (r * Modular.sub p v x) (sa * hhh)
      ⟨x, y, a.z * b.z % p * h % p⟩

/-- Multiple of a point. -/
def multiply (curve : Curve) (scalar : Nat) (a : Point) : Point :=
  (Modular.bitsOf scalar).foldl (fun acc bit =>
    let twice := curve.double acc
    if bit then curve.add twice a else twice) infinity

/-- Uncompressed form of a point other than infinity. -/
def encode (curve : Curve) (a : Point) : Bytes :=
  let p := curve.prime
  let inverse := Modular.inverse p a.z
  let square := inverse * inverse % p
  let x := a.x * square % p
  let y := a.y * square % p * inverse % p
  0x04 :: Der.fixedWidth curve.width x ++ Der.fixedWidth curve.width y

/-- Public key of a private key, in uncompressed form. -/
def publicKey (curve : Curve) (secret : Nat) : Bytes :=
  curve.encode (curve.multiply secret curve.base)

end Curve

/-- The curve P-256. -/
def p256 : Curve where
  prime := Nat.pow 2 256 - Nat.pow 2 224 + Nat.pow 2 192 + Nat.pow 2 96 - 1
  order := 0xffffffff00000000ffffffffffffffffbce6faada7179e84f3b9cac2fc632551
  baseX := 0x6b17d1f2e12c4247f8bce6e563a440f277037d812deb33a0f4a13945d898c296
  baseY := 0x4fe342e2fe1a7f9b8ee7eb4a7c0f9e162bce33576b315ececbb6406837bf51f5
  width := 32

/-- The curve P-384. -/
def p384 : Curve where
  prime := Nat.pow 2 384 - Nat.pow 2 128 - Nat.pow 2 96 + Nat.pow 2 32 - 1
  order := 0xffffffffffffffffffffffffffffffffffffffffffffffff * Nat.pow 2 192 +
    0xc7634d81f4372ddf581a0db248b0a77aecec196accc52973
  baseX := 0xaa87ca22be8b05378eb1c71ef320ad746e1d3b628ba79b98 * Nat.pow 2 192 +
    0x59f741e082542a385502f25dbf55296c3a545e3872760ab7
  baseY := 0x3617de4a96262c6f5d9e98bf9292dc29f8f41dbd289a147c * Nat.pow 2 192 +
    0xe9da3113b5f0b8c00a60b1ce1d7e819d7a431d7c90ea0e5f
  width := 48

end PluginSupport.PrimeCurve
