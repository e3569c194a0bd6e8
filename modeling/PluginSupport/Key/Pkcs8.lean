import PluginSupport.Der.Element

/-!
# PKCS#8

The envelope that names the algorithm of a private key. Only the algorithm that is asked for is
accepted, byte for byte. Version 0 envelopes hold a private key and maybe attributes, which are
ignored; version 1 envelopes also hold the public key.
-/
namespace PluginSupport.Pkcs8

open Utf8 (Bytes)

/-- Lengths that key files may have: two length bytes at most. -/
def limits : Der.Limits := ⟨2, 65536⟩

/-- A private key out of its envelope. -/
structure Opened where
  privateKey : Bytes
  publicKey : Option Bytes
deriving DecidableEq, Repr

/-- Public key behind the private key, in its own mark or in the mark that older writers used. -/
def publicKey? (row : Bytes) : Option (Bytes × Bytes) :=
  if Der.startsWith (Der.markTag 1) row then do
    let (contents, rest) ← Der.read? limits (Der.markTag 1) row
    let (key, inner) ← Der.readBitString? limits Der.bitStringTag contents
    if inner.isEmpty then some (key, rest) else none
  else Der.readBitString? limits (Der.plainMarkTag 1) row

/-- Row without the attributes at its front, when there are any. -/
def skipAttributes? (row : Bytes) : Option Bytes :=
  if Der.startsWith (Der.markTag 0) row then (Der.read? limits (Der.markTag 0) row).map Prod.snd
  else some row

/-- Private key of an envelope for the given algorithm; `withPublic` says whether version 1, with a
public key, is accepted too. -/
def open? (algorithm : Bytes) (withPublic : Bool) (der : Bytes) : Option Opened := do
  let row ← Der.readOnly? limits Der.sequenceTag der
  let (version, row) ← Der.readSmall? limits row
  let (actual, row) ← Der.read? limits Der.sequenceTag row
  if actual ≠ algorithm then none
  let (privateKey, row) ← Der.read? limits Der.octetStringTag row
  let row ← skipAttributes? row
  if version = 0 then
    if row.isEmpty then some ⟨privateKey, none⟩ else none
  else if version = 1 ∧ withPublic then
    let (publicKey, row) ← publicKey? row
    if row.isEmpty then some ⟨privateKey, some publicKey⟩ else none
  else none

end PluginSupport.Pkcs8
