import PluginSupport.Key.Ecdsa
import PluginSupport.Key.Ed25519
import PluginSupport.Key.Rsa
import PluginSupport.Pem.Section

/-!
# Private keys that can sign

What a key file offers for signing: an RSA key, an elliptic curve key, or an Ed25519 key. The format
of the file decides which readers are tried; the first one that accepts the key wins.
-/
namespace PluginSupport

open Utf8 (Bytes)

/-- A private key ready for signing. -/
inductive LoadedKey where
  | rsa (key : Rsa.PrivateKey)
  | ecdsa (key : Ecdsa.PrivateKey)
  | ed25519 (key : Ed25519.PrivateKey)
deriving DecidableEq, Repr

namespace LoadedKey

/-- Readers for a format, in the order in which they are tried. -/
def readers : Pem.KeyFormat → List (Bytes → Option LoadedKey)
  | .pkcs1 => [fun der => (Rsa.readPkcs1? der).map .rsa]
  | .sec1 =>
    [fun der => (Ecdsa.readSec1? .p256 der).map .ecdsa,
      fun der => (Ecdsa.readSec1? .p384 der).map .ecdsa]
  | .pkcs8 =>
    [fun der => (Rsa.readPkcs8? der).map .rsa,
      fun der => (Ecdsa.readPkcs8? .p256 der).map .ecdsa,
      fun der => (Ecdsa.readPkcs8? .p384 der).map .ecdsa,
      fun der => (Ed25519.readPkcs8? der).map .ed25519]

/-- Key that a file holds, when one of the readers accepts it. -/
def ofFile? (file : Pem.KeyFile) : Option LoadedKey :=
  (readers file.format).findSome? fun read => read file.der

/-- Algorithm identifier of the key, its sequence mark left off. -/
def algorithm : LoadedKey → Bytes
  | .rsa _ => Rsa.algorithm
  | .ecdsa key => key.group.algorithm
  | .ed25519 _ => Ed25519.algorithm

/-- Public key of the private key. -/
def publicKey : LoadedKey → Bytes
  | .rsa key => key.publicKey
  | .ecdsa key => key.publicKey
  | .ed25519 key => key.publicKey

/-- Contents of the public key information that a certificate for the key carries: algorithm and
public key. -/
def publicKeyInfo (key : LoadedKey) : Bytes :=
  Der.wrap Der.sequenceTag key.algorithm ++ Der.wrapBitString key.publicKey

end LoadedKey

end PluginSupport
