import PluginSupport.Key.Loaded
import PluginSupport.Os.Directory
import PluginSupport.Tls.Certificate
import PluginSupport.Tls.Settings

/-!
# TLS clients

`ClientTls.build` assembles the TLS side of a client from its settings, reading the files that they
name. It stops at the first problem, in this order: certificate file, key file, CA file; each file
is read before it is looked into. `ClientTls.toSession` then turns the result into what a handshake
offers, at which point certificate and key must belong together.
-/
namespace PluginSupport

open Utf8 (Bytes)

/-! ## Protocol versions -/

/-- Protocol version, oldest first. -/
inductive TlsVersion where
  | tls10
  | tls11
  | tls12
  | tls13
deriving DecidableEq, Repr

namespace TlsVersion

/-- Place in the order of age. -/
def rank : TlsVersion → Nat
  | .tls10 => 0
  | .tls11 => 1
  | .tls12 => 2
  | .tls13 => 3

/-- Number of a version in a handshake. -/
def code : TlsVersion → Nat
  | .tls10 => 0x0301
  | .tls11 => 0x0302
  | .tls12 => 0x0303
  | .tls13 => 0x0304

/-- Versions in order of age. -/
def sort (versions : List TlsVersion) : List TlsVersion :=
  versions.mergeSort fun a b => a.rank ≤ b.rank

/-- Versions that are implemented, newest first. -/
def implemented : List TlsVersion := [.tls13, .tls12]

/-- Implemented versions at or above a floor, newest first. -/
def offered (floor : TlsVersion) : List TlsVersion :=
  implemented.filter fun version => floor.rank ≤ version.rank

end TlsVersion

/-! ## Building -/

/-- A client certificate with its intermediates and a private key that can sign. -/
structure ClientCertificate where
  leaf : Bytes
  intermediates : List Bytes
  keyFile : Pem.KeyFile
  key : LoadedKey
  loads : LoadedKey.ofFile? keyFile = some key
deriving DecidableEq, Repr

/-- Certificate chain, leaf first. -/
def ClientCertificate.chain (certificate : ClientCertificate) : List Bytes :=
  certificate.leaf :: certificate.intermediates

/-- The TLS side of a client. -/
structure ClientTls where
  minVersion : TlsVersion
  skipVerify : Bool
  certificates : List ClientCertificate
  /-- Trust anchors in file order, when a CA file was given. -/
  roots : Option (List Certificate.Identity)
deriving DecidableEq, Repr

/-- Why no TLS side can be built, or no handshake offer made of it. -/
inductive TlsError where
  | unreadable (path : String) (cause : IoCause)
  | noCertificate (path : String)
  | badKeyFile (path : String) (error : Pem.PemError)
  | noPrivateKey (path : String)
  | unsupportedKey (path : String)
  | noTrustAnchor (path : String)
  /-- The leaf certificate of the client is refused. -/
  | badClientCertificate (error : Certificate.CertificateError)
  /-- The leaf certificate of the client carries another public key. -/
  | keyMismatch
deriving DecidableEq, Repr

/-- The failure reported to the host. -/
def TlsError.toFailure : TlsError → Failure
  | .unreadable path cause => .io path cause
  | .noCertificate path => .decode ("no certificate found in " ++ path)
  | .badKeyFile path error =>
    .decode ("failed to parse private key in " ++ path ++ ": " ++ error.message)
  | .noPrivateKey path => .decode ("no private key found in " ++ path)
  | .unsupportedKey path =>
    .decode ("unsupported private key in " ++ path ++
      ": unexpected error: failed to parse private key as RSA, ECDSA, or EdDSA")
  | .noTrustAnchor path => .decode ("failed to append CA certificate from " ++ path)
  | .badClientCertificate error =>
    .decode ("invalid client certificate: invalid peer certificate: " ++ error.message)
  | .keyMismatch => .decode "invalid client certificate: keys may not be consistent: KeyMismatch"

namespace ClientTls

/-- Bytes of a file. -/
def readFile (read : FileReader) (path : String) : Except TlsError Bytes :=
  (read path).mapError (.unreadable path)

/-- Private key of a file, unless there is none or the file is broken. -/
def keyFileOf (path : String) (file : Bytes) : Except TlsError Pem.KeyFile :=
  match Pem.privateKey file with
  | .error error => .error (.badKeyFile path error)
  | .ok none => .error (.noPrivateKey path)
  | .ok (some keyFile) => .ok keyFile

/-- Client certificate of a chain and a private key out of the file at `path`; the key must be one
that can sign. -/
def assemble (path : String) (leaf : Bytes) (intermediates : List Bytes) (keyFile : Pem.KeyFile) :
    Except TlsError ClientCertificate :=
  match h : LoadedKey.ofFile? keyFile with
  | some key => .ok ⟨leaf, intermediates, keyFile, key, h⟩
  | none => .error (.unsupportedKey path)

/-- Trust anchors of a file, unusable certificates left out; a file without any is refused. -/
def rootsOf (path : String) (file : Bytes) : Except TlsError (List Certificate.Identity) :=
  match (Pem.certificates file).filterMap Certificate.trustAnchor? with
  | [] => .error (.noTrustAnchor path)
  | roots => .ok roots

/-- Client certificate out of a certificate file and a key file. -/
def loadPair (read : FileReader) (certFile keyFile : String) :
    Except TlsError ClientCertificate := do
  match Pem.certificates (← readFile read certFile) with
  | [] => .error (.noCertificate certFile)
  | leaf :: intermediates =>
    let key ← keyFileOf keyFile (← readFile read keyFile)
    assemble keyFile leaf intermediates key

/-- Client certificates that the settings ask for: one or none. -/
def loadCertificates (read : FileReader) (settings : TlsSettings) :
    Except TlsError (List ClientCertificate) :=
  if settings.hasClientCert then
    (loadPair read settings.certFile settings.keyFile).map fun certificate => [certificate]
  else .ok []

/-- Trust anchors that the settings ask for. -/
def loadRoots (read : FileReader) (settings : TlsSettings) :
    Except TlsError (Option (List Certificate.Identity)) :=
  if settings.caFile = "" then .ok none
  else do
    let roots ← rootsOf settings.caFile (← readFile read settings.caFile)
    .ok (some roots)

/-- TLS side of a client with the given settings. -/
def build (read : FileReader) (settings : TlsSettings) : Except TlsError ClientTls := do
  let certificates ← loadCertificates read settings
  let roots ← loadRoots read settings
  .ok ⟨.tls10, settings.skipVerify, certificates, roots⟩

/-- The TLS side with another protocol floor. -/
def withMinVersion (tls : ClientTls) (version : TlsVersion) : ClientTls :=
  { tls with minVersion := version }

/-! ## Handshake offers -/

/-- What a client offers in a handshake. -/
structure Session where
  clientAuth : Bool
  versions : List TlsVersion
  /-- Signature schemes by number, most wanted first. -/
  signatureSchemes : List Nat
deriving DecidableEq, Repr

/-- Signature schemes that every client accepts, most wanted first. -/
def signatureSchemes : List Nat :=
  [0x0503, 0x0403, 0x0807, 0x0806, 0x0805, 0x0804, 0x0601, 0x0501, 0x0401]

/-- Checks that a certificate can be presented: its leaf carries the public key of its key. -/
def checkClientCertificate (certificate : ClientCertificate) : Except TlsError Unit :=
  match Certificate.parse .presented certificate.leaf with
  | .error error => .error (.badClientCertificate error)
  | .ok identity =>
    if identity.publicKeyInfo = certificate.key.publicKeyInfo then .ok () else .error .keyMismatch

/-- What the client offers in a handshake. -/
def toSession (tls : ClientTls) : Except TlsError Session := do
  match tls.certificates with
  | [] => pure ()
  | certificate :: _ => checkClientCertificate certificate
  .ok ⟨!tls.certificates.isEmpty, tls.minVersion.offered, signatureSchemes⟩

end ClientTls

end PluginSupport
