import PluginSupport.Der.Element

/-!
# X.509 certificates

As much of a certificate as a TLS client needs of its own: the subject, the public key information,
the name constraints, and whether the certificate is well-formed.

* `parse` takes version 3 certificates. Known extensions may occur once each. An unknown one must
  not be marked critical in a certificate that is presented to a peer; in one that is trusted it is
  passed over.
* `trustAnchor?` also takes version 1 certificates, whose form is checked less closely, and which
  have no name constraints.
-/
namespace PluginSupport.Certificate

open Utf8 (Bytes)

/-- Lengths that certificates may have. -/
def limits : Der.Limits := ⟨4, 0xffff⟩

/-- Why a certificate is refused. -/
inductive CertificateError where
  | badEncoding
  | unsupportedVersion
  | signatureAlgorithmMismatch
  | extensionValueInvalid
  | unsupportedCriticalExtension
deriving DecidableEq, Repr

/-- Wording of the error. -/
def CertificateError.message : CertificateError → String
  | .badEncoding => "BadEncoding"
  | .unsupportedVersion => "Other(OtherError(UnsupportedCertVersion))"
  | .signatureAlgorithmMismatch => "Other(OtherError(SignatureAlgorithmMismatch))"
  | .extensionValueInvalid => "Other(OtherError(ExtensionValueInvalid))"
  | .unsupportedCriticalExtension => "Other(OtherError(UnsupportedCriticalExtension))"

/-- What a certificate is read for. -/
inductive Purpose where
  /-- To be shown to a peer, who must understand what is marked critical. -/
  | presented
  /-- To be trusted for its name, its key and its name constraints alone. -/
  | trusted
deriving DecidableEq, Repr

/-- Contents of the subject name, of the public key information and, if there are any, of the name
constraints. -/
structure Identity where
  subject : Bytes
  publicKeyInfo : Bytes
  nameConstraints : Option Bytes := none
deriving DecidableEq, Repr

/-- Result of a reading step, a refusal meaning bad encoding. -/
def orBad {α : Type} : Option α → Except CertificateError α
  | some a => .ok a
  | none => .error .badEncoding

/-- Contents of a sequence at the front. -/
def sequence (row : Bytes) : Except CertificateError (Bytes × Bytes) :=
  orBad (Der.read? limits Der.sequenceTag row)

/-! ## Extensions -/

/-- Extensions that are looked at, by the last byte of their identifier. -/
def knownExtensions : List UInt8 := [15, 17, 19, 30, 31, 37]

/-- The extension whose value need not be a sequence: key usage. -/
def keyUsage : UInt8 := 15

/-- The extension that limits the names below a trust anchor: name constraints. -/
def nameConstraints : UInt8 := 30

/-- One extension. -/
structure Extension where
  id : Bytes
  critical : Bool
  value : Bytes
deriving DecidableEq, Repr

/-- The extension's number, when it is one that is looked at. -/
def Extension.known? (extension : Extension) : Option UInt8 :=
  match extension.id with
  | [0x55, 0x1d, n] => if n ∈ knownExtensions then some n else none
  | _ => none

/-- Critical mark at the front, false when left out. -/
def readCritical (row : Bytes) : Except CertificateError (Bool × Bytes) :=
  if Der.startsWith Der.booleanTag row then
    match Der.read? limits Der.booleanTag row with
    | some ([0xff], rest) => .ok (true, rest)
    | some ([0x00], rest) => .ok (false, rest)
    | _ => .error .badEncoding
  else .ok (false, row)

/-- Extension at the front of the contents of its sequence, and the bytes after it. -/
def readExtension (row : Bytes) : Except CertificateError (Extension × Bytes) := do
  let (id, row) ← orBad (Der.read? limits Der.oidTag row)
  let (critical, row) ← readCritical row
  let (value, rest) ← orBad (Der.read? limits Der.octetStringTag row)
  .ok (⟨id, critical, value⟩, rest)

/-- Nothing more may follow. -/
def atEnd (row : Bytes) : Except CertificateError Unit :=
  if row.isEmpty then .ok () else .error .badEncoding

/-- Known extensions by number, each with the contents of its value. -/
abbrev Known := List (UInt8 × Bytes)

/-- Contents of the value of a known extension. -/
def contents? (n : UInt8) (value : Bytes) : Option Bytes :=
  if n = keyUsage then some value else Der.readOnly? limits Der.sequenceTag value

/-- Known extensions met so far, after one more extension. -/
def remember (purpose : Purpose) (met : Known) (extension : Extension) :
    Except CertificateError Known :=
  match extension.known? with
  | none =>
    if extension.critical ∧ purpose = .presented then .error .unsupportedCriticalExtension
    else .ok met
  | some n =>
    if (met.lookup n).isSome then .error .extensionValueInvalid
    else do
      let contents ← orBad (contents? n extension.value)
      .ok ((n, contents) :: met)

/-- Known extensions of a row, after those met before it; `fuel` bounds the length of the row. -/
def readExtensions (purpose : Purpose) (met : Known) :
    (fuel : Nat) → Bytes → Except CertificateError Known
  | _, [] => .ok met
  | 0, _ :: _ => .error .badEncoding
  | fuel + 1, row => do
    let (contents, rest) ← sequence row
    let (extension, inner) ← readExtension contents
    let met ← remember purpose met extension
    atEnd inner
    readExtensions purpose met fuel rest

/-- Known extensions out of what follows the public key information: nothing, or marked
extensions. -/
def readTail (purpose : Purpose) (row : Bytes) : Except CertificateError Known :=
  if row.isEmpty then .ok []
  else do
    let (marked, rest) ← orBad (Der.read? limits (Der.markTag 3) row)
    let (extensions, inner) ← sequence marked
    let known ← readExtensions purpose [] extensions.length extensions
    atEnd inner
    atEnd rest
    .ok known

/-! ## Certificates -/

/-- Row without the version at its front, which must be the third. -/
def skipVersion (row : Bytes) : Except CertificateError Bytes :=
  match Der.read? limits (Der.markTag 0) row with
  | none => .error .unsupportedVersion
  | some (contents, rest) => do
    match ← orBad (Der.readSmall? limits contents) with
    | (2, []) => .ok rest
    | _ => .error .unsupportedVersion

/-- Identity of a signed part, whose signature algorithm must be the one outside. -/
def readSigned (purpose : Purpose) (algorithm row : Bytes) : Except CertificateError Identity := do
  let row ← skipVersion row
  let (_, row) ← orBad (Der.read? limits Der.integerTag row)
  let (signature, row) ← sequence row
  if signature ≠ algorithm then .error .signatureAlgorithmMismatch
  let (_, row) ← sequence row
  let (_, row) ← sequence row
  let (subject, row) ← sequence row
  let (publicKeyInfo, row) ← sequence row
  let known ← readTail purpose row
  .ok ⟨subject, publicKeyInfo, known.lookup nameConstraints⟩

/-- Identity of a version 3 certificate. -/
def parse (purpose : Purpose) (der : Bytes) : Except CertificateError Identity := do
  let row ← orBad (Der.readOnly? limits Der.sequenceTag der)
  let (signed, row) ← sequence row
  let (algorithm, row) ← sequence row
  let (_, row) ← orBad (Der.readBitString? limits Der.bitStringTag row)
  atEnd row
  readSigned purpose algorithm signed

/-- Identity of a signed part without a version. -/
def readSignedV1? (row : Bytes) : Option Identity := do
  let (_, row) ← Der.read? limits Der.integerTag row
  let (_, row) ← Der.read? limits Der.sequenceTag row
  let (_, row) ← Der.read? limits Der.sequenceTag row
  let (_, row) ← Der.read? limits Der.sequenceTag row
  let (subject, row) ← Der.read? limits Der.sequenceTag row
  match ← Der.read? limits Der.sequenceTag row with
  | (publicKeyInfo, []) => some ⟨subject, publicKeyInfo, none⟩
  | _ => none

/-- Identity of a version 1 certificate. -/
def parseV1? (der : Bytes) : Option Identity := do
  let row ← Der.readOnly? limits Der.sequenceTag der
  let (signed, row) ← Der.read? limits Der.sequenceTag row
  let identity ← readSignedV1? signed
  let (_, row) ← Der.read? limits Der.sequenceTag row
  match ← Der.read? limits Der.bitStringTag row with
  | (_, []) => some identity
  | _ => none

/-- Identity that a certificate gives a trust anchor; none when the certificate is unusable. -/
def trustAnchor? (der : Bytes) : Option Identity :=
  match parse .trusted der with
  | .ok identity => some identity
  | .error .unsupportedVersion => parseV1? der
  | .error _ => none

/-- Subject name with its sequence mark. -/
def Identity.subjectName (identity : Identity) : Bytes :=
  Der.wrap Der.sequenceTag identity.subject

end PluginSupport.Certificate
