import PluginSupport.Crypto.PrimeCurve
import PluginSupport.Key.Pkcs8

/-!
# Elliptic curve private keys

Keys on P-256 and P-384. A key carries its public key, which must be the one that the private number
has; a curve named inside the key must be the curve that is asked for.
-/
namespace PluginSupport.Ecdsa

open Utf8 (Bytes)

/-- The two curves. -/
inductive Group where
  | p256
  | p384
deriving DecidableEq, Repr

namespace Group

/-- Curve of a group. -/
def curve : Group → PrimeCurve.Curve
  | .p256 => PrimeCurve.p256
  | .p384 => PrimeCurve.p384

/-- Object identifier of a curve. -/
def oid : Group → Bytes
  | .p256 => [0x06, 0x08, 0x2a, 0x86, 0x48, 0xce, 0x3d, 0x03, 0x01, 0x07]
  | .p384 => [0x06, 0x05, 0x2b, 0x81, 0x04, 0x00, 0x22]

/-- Algorithm identifier of keys on a curve, its sequence mark left off. -/
def algorithm (group : Group) : Bytes :=
  [0x06, 0x07, 0x2a, 0x86, 0x48, 0xce, 0x3d, 0x02, 0x01] ++ group.oid

end Group

/-- A private key: its curve and its public key in uncompressed form. -/
structure PrivateKey where
  group : Group
  publicKey : Bytes
deriving DecidableEq, Repr

/-- Row without the curve name at its front, which must be the given one when there is any. -/
def skipCurveName? (group : Group) (row : Bytes) : Option Bytes :=
  if Der.startsWith (Der.markTag 0) row then do
    let (name, row) ← Der.read? Pkcs8.limits (Der.markTag 0) row
    if name = group.oid then some row else none
  else some row

/-- Private key on a curve from its number and its public key, when they belong together. -/
def make? (group : Group) (secretBytes publicKey : Bytes) : Option PrivateKey :=
  let secret := Der.number secretBytes
  if secretBytes.length = group.curve.width ∧ 0 < secret ∧ secret < group.curve.order ∧
      publicKey = group.curve.publicKey secret then
    some ⟨group, publicKey⟩
  else none

/-- Private key on a curve of a row in SEC1 form. -/
def readSec1? (group : Group) (der : Bytes) : Option PrivateKey := do
  let row ← Der.readOnly? Pkcs8.limits Der.sequenceTag der
  let (version, row) ← Der.readSmall? Pkcs8.limits row
  if version ≠ 1 then none
  let (secretBytes, row) ← Der.read? Pkcs8.limits Der.octetStringTag row
  let row ← skipCurveName? group row
  let marked ← Der.readOnly? Pkcs8.limits (Der.markTag 1) row
  match ← Der.readBitString? Pkcs8.limits Der.bitStringTag marked with
  | (publicKey, []) => make? group secretBytes publicKey
  | _ => none

/-- Private key on a curve of a row in PKCS#8 form. -/
def readPkcs8? (group : Group) (der : Bytes) : Option PrivateKey := do
  let opened ← Pkcs8.open? group.algorithm false der
  readSec1? group opened.privateKey

end PluginSupport.Ecdsa
