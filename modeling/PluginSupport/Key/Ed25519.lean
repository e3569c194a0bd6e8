import PluginSupport.Crypto.Edwards
import PluginSupport.Key.Pkcs8

/-!
# Ed25519 private keys

A key is a seed of 32 bytes. An envelope that carries the public key too must carry the right one.
-/
namespace PluginSupport.Ed25519

open Utf8 (Bytes)

/-- A private key. -/
structure PrivateKey where
  seed : Bytes
deriving DecidableEq, Repr

/-- Algorithm identifier of the keys, its sequence mark left off. -/
def algorithm : Bytes := [0x06, 0x03, 0x2b, 0x65, 0x70]

/-- Public key: 32 bytes. -/
def PrivateKey.publicKey (key : PrivateKey) : Bytes :=
  Edwards.publicKey key.seed

/-- Whether a public key that came along is the right one. -/
def PrivateKey.agrees (key : PrivateKey) : Option Bytes → Bool
  | none => true
  | some publicKey => publicKey = key.publicKey

/-- Private key of a row in PKCS#8 form. -/
def readPkcs8? (der : Bytes) : Option PrivateKey := do
  let opened ← Pkcs8.open? algorithm true der
  let seed ← Der.readOnly? Pkcs8.limits Der.octetStringTag opened.privateKey
  let key : PrivateKey := ⟨seed⟩
  if seed.length = 32 ∧ key.agrees opened.publicKey then some key else none

end PluginSupport.Ed25519
