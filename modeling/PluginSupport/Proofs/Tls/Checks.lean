import PluginSupport.Proofs.Key.Loading
import PluginSupport.Proofs.Pem.Contents
import PluginSupport.Proofs.Pem.Written
import PluginSupport.Proofs.Tls.Anchors
import PluginSupport.Proofs.Tls.Presentation

/-!
# What building checks

Building the TLS side of a client makes its checks in a fixed order (`ClientTls.checks`) and reports
the first one that does not pass (`ClientTls.StopsAt`). What a check reports names the file at
fault. What a file must hold to pass (`ClientTls.Check.Admits`) is said by how such files are
written: by its layout (`Pem.Laid`), by the key in a section (`LoadedKey.Holds`), and by the trust
anchor that a certificate gives (`Certificate.GivesAnchor`).

Main result: `ClientTls.build_exact`, the outcome of every build, and what it depends on.
-/
namespace PluginSupport

open Utf8 (Bytes)

namespace ClientTls

open Pem (Laid Part Written FirstKey certificatesOf)

variable {read : FileReader} {settings : TlsSettings} {error : TlsError}

/-! ## Checks -/

/-- Checks on the way to the TLS side of a client. -/
inductive Check where
  | certReadable
  | certPresent
  | keyReadable
  | keyPresent
  | keyLoads
  | caReadable
  | caTrusted
deriving DecidableEq, Repr

/-- The file that a check is about. -/
def Check.path (settings : TlsSettings) : Check → String
  | .certReadable | .certPresent => settings.certFile
  | .keyReadable | .keyPresent | .keyLoads => settings.keyFile
  | .caReadable | .caTrusted => settings.caFile

/-- What a check asks of the contents of its file, once it is read. What the file holds is a matter
of its layout.

* The certificate file must hold a certificate section whose body stands for something.
* The key file must hold a private key section with nothing broken in front of it, and the contents
  of that section must be a private key.
* A certificate of the CA file must give a trust anchor. -/
def Check.Admits (bytes : Bytes) : Check → Prop
  | .certReadable | .keyReadable | .caReadable => True
  | .certPresent => ∃ parts, Laid bytes parts ∧ certificatesOf parts ≠ []
  | .keyPresent => ∃ parts keyFile, Laid bytes parts ∧ FirstKey keyFile parts
  | .keyLoads =>
    ∃ parts keyFile key, Laid bytes parts ∧ FirstKey keyFile parts ∧ LoadedKey.Holds keyFile key
  | .caTrusted =>
    ∃ parts, Laid bytes parts ∧
      ∃ der ∈ certificatesOf parts, ∃ anchor, Certificate.GivesAnchor der anchor

/-- Whether the file of a check passes it: it is readable, and its contents are as asked. -/
def Check.Passes (read : FileReader) (settings : TlsSettings) (check : Check) : Prop :=
  ∃ bytes, read (check.path settings) = .ok bytes ∧ check.Admits bytes

/-- Whether a failure is one that a check reports: that its file cannot be read, and why, or else
that something is wrong with the contents of its file. -/
def Check.Reports (read : FileReader) (settings : TlsSettings) (check : Check)
    (failure : Failure) : Prop :=
  match check with
  | .certReadable | .keyReadable | .caReadable =>
    ∃ cause, read (check.path settings) = .error cause ∧
      failure = .io (check.path settings) cause
  | _ => ∃ before after, failure = .decode (before ++ check.path settings ++ after)

/-- Checks of a certificate file and a key file, in the order in which they are made. -/
def pairChecks : List Check :=
  [.certReadable, .certPresent, .keyReadable, .keyPresent, .keyLoads]

/-- Checks of a CA file, in the order in which they are made. -/
def caChecks : List Check :=
  [.caReadable, .caTrusted]

/-- Checks that the settings ask for, in the order in which they are made. -/
def checks (settings : TlsSettings) : List Check :=
  (if settings.certFile ≠ "" ∧ settings.keyFile ≠ "" then pairChecks else []) ++
    if settings.caFile ≠ "" then caChecks else []

/-- Whether a failure is what the first check reports that does not pass. -/
inductive StopsAt (read : FileReader) (settings : TlsSettings) (failure : Failure) :
    List Check → Prop
  | here {check : Check} {later : List Check} (fails : ¬ check.Passes read settings)
      (reports : check.Reports read settings failure) :
      StopsAt read settings failure (check :: later)
  | later {check : Check} {later : List Check} (passes : check.Passes read settings)
      (stops : StopsAt read settings failure later) :
      StopsAt read settings failure (check :: later)

/-- Where checks stop, they stop whatever checks come after. -/
theorem StopsAt.append {failure : Failure} {checks : List Check}
    (stops : StopsAt read settings failure checks) (more : List Check) :
    StopsAt read settings failure (checks ++ more) := by
  induction stops with
  | here fails reports => exact .here fails reports
  | later passes _ ih => exact .later passes ih

/-- Where checks stop, they stop after checks that all pass. -/
theorem StopsAt.behind {failure : Failure} {passing checks : List Check}
    (passes : ∀ check ∈ passing, check.Passes read settings)
    (stops : StopsAt read settings failure checks) :
    StopsAt read settings failure (passing ++ checks) := by
  induction passing with
  | nil => exact stops
  | cons check passing ih =>
    obtain ⟨first, rest⟩ := List.forall_mem_cons.mp passes
    exact .later first (ih rest)

/-- Checks do not stop where they pass. -/
theorem StopsAt.beyond {failure : Failure} {passing checks : List Check}
    (passes : ∀ check ∈ passing, check.Passes read settings)
    (stops : StopsAt read settings failure (passing ++ checks)) :
    StopsAt read settings failure checks := by
  induction passing with
  | nil => exact stops
  | cons check passing ih =>
    obtain ⟨first, rest⟩ := List.forall_mem_cons.mp passes
    cases stops with
    | here fails _ => exact absurd first fails
    | later _ stops => exact ih rest stops

/-- Checks that stop do not all pass. -/
theorem StopsAt.fails {failure : Failure} {checks : List Check}
    (stops : StopsAt read settings failure checks) :
    ∃ check ∈ checks, ¬ check.Passes read settings := by
  induction stops with
  | here fails _ => exact ⟨_, List.mem_cons_self, fails⟩
  | later _ _ ih =>
    obtain ⟨check, member, fails⟩ := ih
    exact ⟨check, List.mem_cons_of_mem _ member, fails⟩

theorem Check.passes_iff {check : Check} {bytes : Bytes}
    (found : read (check.path settings) = .ok bytes) :
    check.Passes read settings ↔ check.Admits bytes := by
  simp [Check.Passes, found]

theorem Check.not_passes {check : Check} {cause : IoCause}
    (refused : read (check.path settings) = .error cause) : ¬ check.Passes read settings := by
  simp [Check.Passes, refused]

/-! ## What is found in a file -/

theorem certPresent_admits_iff {bytes : Bytes} :
    Check.certPresent.Admits bytes ↔ Pem.certificates bytes ≠ [] := by
  obtain ⟨parts, laid, -⟩ := Pem.existsUnique_laid bytes
  rw [Pem.certificates_of_laid laid]
  constructor
  · rintro ⟨others, otherLaid, some⟩
    rwa [← Pem.certificates_of_laid laid, Pem.certificates_of_laid otherLaid]
  · exact fun some => ⟨parts, laid, some⟩

theorem keyPresent_admits_iff {bytes : Bytes} :
    Check.keyPresent.Admits bytes ↔ ∃ keyFile, Pem.privateKey bytes = .ok (some keyFile) := by
  obtain ⟨parts, laid, -⟩ := Pem.existsUnique_laid bytes
  constructor
  · rintro ⟨_, keyFile, otherLaid, isFirst⟩
    exact ⟨keyFile, (Pem.privateKey_eq_some_iff otherLaid).mpr isFirst⟩
  · rintro ⟨keyFile, key⟩
    exact ⟨parts, keyFile, laid, (Pem.privateKey_eq_some_iff laid).mp key⟩

theorem keyLoads_admits_iff {bytes : Bytes} :
    Check.keyLoads.Admits bytes ↔ ∃ keyFile key, Pem.privateKey bytes = .ok (some keyFile) ∧
      LoadedKey.ofFile? keyFile = some key := by
  obtain ⟨parts, laid, -⟩ := Pem.existsUnique_laid bytes
  constructor
  · rintro ⟨_, keyFile, key, otherLaid, isFirst, holds⟩
    exact ⟨keyFile, key, (Pem.privateKey_eq_some_iff otherLaid).mpr isFirst,
      LoadedKey.ofFile?_eq_some_iff.mpr holds⟩
  · rintro ⟨keyFile, key, found, loads⟩
    exact ⟨parts, keyFile, key, laid, (Pem.privateKey_eq_some_iff laid).mp found,
      LoadedKey.ofFile?_eq_some_iff.mp loads⟩

theorem caTrusted_admits_iff {bytes : Bytes} :
    Check.caTrusted.Admits bytes ↔
      (Pem.certificates bytes).filterMap Certificate.trustAnchor? ≠ [] := by
  obtain ⟨parts, laid, -⟩ := Pem.existsUnique_laid bytes
  constructor
  · rintro ⟨others, otherLaid, der, member, anchor, gives⟩
    rw [Pem.certificates_of_laid otherLaid]
    have trusted := Certificate.trustAnchor?_eq_some_iff.mpr gives
    exact List.ne_nil_of_mem (List.mem_filterMap.mpr ⟨der, member, trusted⟩)
  · intro some
    obtain ⟨anchor, isAnchor⟩ := List.exists_mem_of_ne_nil _ some
    obtain ⟨der, member, trusted⟩ := List.mem_filterMap.mp isAnchor
    exact ⟨parts, laid, der, Pem.certificates_of_laid laid ▸ member, anchor,
      Certificate.trustAnchor?_eq_some_iff.mp trusted⟩

/-! ## The first failure -/

/-- Assembling a client certificate fails on account of the key alone. -/
theorem assemble_eq_error_iff {path : String} {leaf : Bytes} {intermediates : List Bytes}
    {keyFile : Pem.KeyFile} :
    assemble path leaf intermediates keyFile = .error error ↔
      LoadedKey.ofFile? keyFile = none ∧ error = .unsupportedKey path := by
  unfold assemble
  split
  · rename_i key loads
    simp [loads]
  · rename_i unsupported
    simp [unsupported, eq_comm]

/-- The trust anchors of a file are taken as they come, if there are any. -/
theorem rootsOf_eq_ok_iff {path : String} {file : Bytes} {roots : List Certificate.Identity} :
    rootsOf path file = .ok roots ↔
      (Pem.certificates file).filterMap Certificate.trustAnchor? = roots ∧ roots ≠ [] := by
  unfold rootsOf
  cases (Pem.certificates file).filterMap Certificate.trustAnchor? with
  | nil => simp [eq_comm]
  | cons root roots => simp +contextual [eq_comm]

theorem rootsOf_eq_error_iff {path : String} {file : Bytes} :
    rootsOf path file = .error error ↔
      (Pem.certificates file).filterMap Certificate.trustAnchor? = [] ∧
        error = .noTrustAnchor path := by
  unfold rootsOf
  cases (Pem.certificates file).filterMap Certificate.trustAnchor? with
  | nil => simp [eq_comm]
  | cons root roots => simp

/-- With the key file read, only its key can be at fault. -/
theorem key_stopsAt (leaf : Bytes) (intermediates : List Bytes) {keyBytes : Bytes}
    (found : read settings.keyFile = .ok keyBytes)
    (refused : (do
      let keyFile ← keyFileOf settings.keyFile keyBytes
      assemble settings.keyFile leaf intermediates keyFile) = .error error) :
    StopsAt read settings error.toFailure [.keyPresent, .keyLoads] := by
  cases key : Pem.privateKey keyBytes with
  | error broken =>
    obtain rfl : TlsError.badKeyFile settings.keyFile broken = error := by
      simpa [keyFileOf, key, bind, Except.bind] using refused
    refine .here ?_ ⟨"failed to parse private key in ", ": " ++ broken.message, ?_⟩
    · rw [Check.passes_iff found, keyPresent_admits_iff]
      simp [key]
    · simp [TlsError.toFailure, Check.path, String.append_assoc]
  | ok keyFile? =>
    cases keyFile? with
    | none =>
      obtain rfl : TlsError.noPrivateKey settings.keyFile = error := by
        simpa [keyFileOf, key, bind, Except.bind] using refused
      refine .here ?_ ⟨"no private key found in ", "", ?_⟩
      · rw [Check.passes_iff found, keyPresent_admits_iff]
        simp [key]
      · simp [TlsError.toFailure, Check.path]
    | some keyFile =>
      have assembled : assemble settings.keyFile leaf intermediates keyFile = .error error := by
        simpa [keyFileOf, key, bind, Except.bind] using refused
      obtain ⟨unsupported, rfl⟩ := assemble_eq_error_iff.mp assembled
      refine .later ?_ (.here ?_ ⟨"unsupported private key in ",
        ": unexpected error: failed to parse private key as RSA, ECDSA, or EdDSA", ?_⟩)
      · exact (Check.passes_iff found).mpr (keyPresent_admits_iff.mpr ⟨keyFile, key⟩)
      · rw [Check.passes_iff found, keyLoads_admits_iff]
        simp [key, unsupported]
      · simp [TlsError.toFailure, Check.path]

theorem readFile_of_error {path : String} {cause : IoCause}
    (missing : read path = .error cause) :
    readFile read path = .error (.unreadable path cause) := by
  rw [readFile, missing]
  rfl

theorem loadPair_stopsAt
    (refused : loadPair read settings.certFile settings.keyFile = .error error) :
    StopsAt read settings error.toFailure pairChecks := by
  unfold loadPair at refused
  cases certRead : read settings.certFile with
  | error cause =>
    obtain rfl : TlsError.unreadable settings.certFile cause = error := by
      simpa [readFile_of_error certRead, bind, Except.bind] using refused
    exact .here (Check.not_passes certRead) ⟨cause, certRead, rfl⟩
  | ok certBytes =>
    have certReadable : Check.certReadable.Passes read settings := ⟨certBytes, certRead, trivial⟩
    refine .later certReadable ?_
    cases sections : Pem.certificates certBytes with
    | nil =>
      obtain rfl : TlsError.noCertificate settings.certFile = error := by
        simpa [readFile_eq_ok_iff.mpr certRead, sections, bind, Except.bind] using refused
      refine .here ?_ ⟨"no certificate found in ", "", by simp [TlsError.toFailure, Check.path]⟩
      rw [Check.passes_iff certRead, certPresent_admits_iff]
      exact fun some => some sections
    | cons leaf intermediates =>
      have certPresent : Check.certPresent.Passes read settings := by
        rw [Check.passes_iff certRead, certPresent_admits_iff, sections]
        exact List.cons_ne_nil _ _
      refine .later certPresent ?_
      cases keyRead : read settings.keyFile with
      | error cause =>
        obtain rfl : TlsError.unreadable settings.keyFile cause = error := by
          simpa [readFile_eq_ok_iff.mpr certRead, sections, readFile_of_error keyRead, bind,
            Except.bind] using refused
        exact .here (Check.not_passes keyRead) ⟨cause, keyRead, rfl⟩
      | ok keyBytes =>
        refine .later ⟨keyBytes, keyRead, trivial⟩ (key_stopsAt leaf intermediates keyRead ?_)
        · simpa [readFile_eq_ok_iff.mpr certRead, sections, readFile_eq_ok_iff.mpr keyRead, bind,
            Except.bind] using refused

theorem loadRoots_stopsAt (asked : settings.caFile ≠ "")
    (refused : loadRoots read settings = .error error) :
    StopsAt read settings error.toFailure caChecks := by
  rw [loadRoots, if_neg asked] at refused
  cases caRead : read settings.caFile with
  | error cause =>
    obtain rfl : TlsError.unreadable settings.caFile cause = error := by
      simpa [readFile_of_error caRead, bind, Except.bind] using refused
    exact .here (Check.not_passes caRead) ⟨cause, caRead, rfl⟩
  | ok caBytes =>
    have noRoots : rootsOf settings.caFile caBytes = .error error := by
      cases roots : rootsOf settings.caFile caBytes with
      | error => simpa [readFile_eq_ok_iff.mpr caRead, roots, bind, Except.bind] using refused
      | ok => simp [readFile_eq_ok_iff.mpr caRead, roots, bind, Except.bind] at refused
    obtain ⟨none, rfl⟩ := rootsOf_eq_error_iff.mp noRoots
    refine .later ⟨caBytes, caRead, trivial⟩
      (.here ?_ ⟨"failed to append CA certificate from ", "", ?_⟩)
    · rw [Check.passes_iff caRead, caTrusted_admits_iff]
      exact fun some => some none
    · simp [TlsError.toFailure, Check.path]

theorem hasClientCert_iff :
    settings.hasClientCert = true ↔ settings.certFile ≠ "" ∧ settings.keyFile ≠ "" := by
  simp [TlsSettings.hasClientCert]

theorem loadCertificates_stopsAt (refused : loadCertificates read settings = .error error) :
    StopsAt read settings error.toFailure (checks settings) := by
  unfold loadCertificates at refused
  split at refused
  · rename_i asked
    rw [checks, if_pos (hasClientCert_iff.mp asked)]
    refine (loadPair_stopsAt ?_).append _
    cases loaded : loadPair read settings.certFile settings.keyFile with
    | error => simpa [loaded, Except.map] using refused
    | ok => simp [loaded, Except.map] at refused
  · cases refused

/-- What was loaded for a pair has passed the checks of a pair. -/
theorem passes_of_loadPair {certificate : ClientCertificate}
    (loaded : loadPair read settings.certFile settings.keyFile = .ok certificate) :
    ∀ check ∈ pairChecks, check.Passes read settings := by
  obtain ⟨certBytes, keyBytes, certRead, chain, keyRead, key⟩ := loadPair_eq_ok_iff.mp loaded
  have present : Check.certPresent.Admits certBytes := by
    rw [certPresent_admits_iff, chain]
    exact List.cons_ne_nil _ _
  simp only [pairChecks, List.forall_mem_cons]
  exact ⟨⟨certBytes, certRead, trivial⟩, ⟨certBytes, certRead, present⟩,
    ⟨keyBytes, keyRead, trivial⟩, ⟨keyBytes, keyRead, keyPresent_admits_iff.mpr ⟨_, key⟩⟩,
    ⟨keyBytes, keyRead, keyLoads_admits_iff.mpr ⟨_, _, key, certificate.loads⟩⟩, nofun⟩

theorem loadRoots_eq_ok_iff {roots? : Option (List Certificate.Identity)} :
    loadRoots read settings = .ok roots? ↔
      (settings.caFile = "" ∧ roots? = none) ∨
        settings.caFile ≠ "" ∧ ∃ caBytes roots, read settings.caFile = .ok caBytes ∧
          (Pem.certificates caBytes).filterMap Certificate.trustAnchor? = roots ∧ roots ≠ [] ∧
          roots? = some roots := by
  unfold loadRoots
  split
  · rename_i none
    simp only [none, ne_eq, not_true_eq_false, false_and, or_false, true_and]
    exact ⟨fun same => (Except.ok.inj same).symm, fun same => congrArg Except.ok same.symm⟩
  · rename_i asked
    simp only [bind_eq_ok_iff, readFile_eq_ok_iff, rootsOf_eq_ok_iff, asked, ne_eq,
      not_false_eq_true, false_and, false_or, true_and]
    constructor
    · rintro ⟨caBytes, caRead, roots, ⟨same, some⟩, taken⟩
      exact ⟨caBytes, roots, caRead, same, some, (Except.ok.inj taken).symm⟩
    · rintro ⟨caBytes, roots, caRead, same, some, rfl⟩
      exact ⟨caBytes, caRead, roots, ⟨same, some⟩, rfl⟩

/-- Building fails with what the first check reports that does not pass. -/
theorem build_stopsAt (refused : build read settings = .error error) :
    StopsAt read settings error.toFailure (checks settings) := by
  unfold build at refused
  cases certificates : loadCertificates read settings with
  | error =>
    refine loadCertificates_stopsAt (certificates.trans ?_)
    simpa [certificates, bind, Except.bind] using refused
  | ok certificates' =>
    have asked : settings.caFile ≠ "" := by
      intro none
      simp [certificates, loadRoots, none, bind, Except.bind] at refused
    have noRoots : loadRoots read settings = .error error := by
      cases roots : loadRoots read settings with
      | error => simpa [certificates, roots, bind, Except.bind] using refused
      | ok => simp [certificates, roots, bind, Except.bind] at refused
    rw [checks, if_pos asked]
    refine (loadRoots_stopsAt asked noRoots).behind ?_
    rcases loadCertificates_eq_ok_iff.mp certificates with
      ⟨notAsked, -⟩ | ⟨asked, certificate, -, loaded⟩
    · rw [if_neg fun both => by simp [hasClientCert_iff.mpr both] at notAsked]
      exact nofun
    · rw [if_pos (hasClientCert_iff.mp asked)]
      exact passes_of_loadPair loaded

/-- What was built has passed all checks. -/
theorem passes_of_build {tls : ClientTls} (built : build read settings = .ok tls) :
    ∀ check ∈ checks settings, check.Passes read settings := by
  obtain ⟨certificates, roots, -, -⟩ := build_eq_ok_iff.mp built
  intro check member
  rcases List.mem_append.mp member with inPair | inCa
  · split at inPair
    · rename_i asked
      rcases loadCertificates_eq_ok_iff.mp certificates with ⟨notAsked, -⟩ | ⟨-, _, -, loaded⟩
      · simp [hasClientCert_iff.mpr asked] at notAsked
      · exact passes_of_loadPair loaded check inPair
    · cases inPair
  · split at inCa
    · rename_i asked
      rcases loadRoots_eq_ok_iff.mp roots with
        ⟨none, -⟩ | ⟨-, caBytes, found, caRead, same, some, -⟩
      · exact absurd none asked
      · have trusted : Check.caTrusted.Admits caBytes :=
          caTrusted_admits_iff.mpr fun none => some (same.symm.trans none)
        have all : ∀ check ∈ caChecks, check.Passes read settings := by
          simp only [caChecks, List.forall_mem_cons]
          exact ⟨⟨caBytes, caRead, trivial⟩, ⟨caBytes, caRead, trusted⟩, nofun⟩
        exact all check inCa
    · cases inCa

/-! ## What building depends on -/

theorem mem_checks_iff_of_mem_pairChecks {check : Check} (ofPair : check ∈ pairChecks) :
    check ∈ checks settings ↔ settings.hasClientCert = true := by
  have notOfCa : check ∉ caChecks := by
    revert check
    decide
  rw [hasClientCert_iff, checks, List.mem_append]
  split <;> split <;> simp_all

theorem caReadable_mem_checks_iff : .caReadable ∈ checks settings ↔ settings.caFile ≠ "" := by
  unfold checks pairChecks caChecks
  split <;> split <;> simp_all

/-- Settings that ask for the same checks of the same files load the same certificates. -/
theorem loadCertificates_congr {other : TlsSettings} {otherRead : FileReader}
    (sameChecks : checks other = checks settings)
    (samePaths : ∀ check ∈ checks settings, check.path other = check.path settings)
    (sameFiles : ∀ check ∈ checks settings,
      otherRead (check.path settings) = read (check.path settings)) :
    loadCertificates otherRead other = loadCertificates read settings := by
  have sameAsked : other.hasClientCert = settings.hasClientCert := by
    have ofPair : Check.certReadable ∈ pairChecks := by decide
    rw [Bool.eq_iff_iff, ← mem_checks_iff_of_mem_pairChecks ofPair,
      ← mem_checks_iff_of_mem_pairChecks ofPair, sameChecks]
  cases asked : settings.hasClientCert with
  | false => simp [loadCertificates, asked, sameAsked]
  | true =>
    have certMember : .certReadable ∈ checks settings :=
      (mem_checks_iff_of_mem_pairChecks (by decide)).mpr asked
    have keyMember : .keyReadable ∈ checks settings :=
      (mem_checks_iff_of_mem_pairChecks (by decide)).mpr asked
    have certPath : other.certFile = settings.certFile := samePaths _ certMember
    have keyPath : other.keyFile = settings.keyFile := samePaths _ keyMember
    have certRead : otherRead settings.certFile = read settings.certFile := sameFiles _ certMember
    have keyRead : otherRead settings.keyFile = read settings.keyFile := sameFiles _ keyMember
    simp only [loadCertificates, loadPair, readFile, asked, sameAsked, certPath, keyPath, certRead,
      keyRead]

theorem loadRoots_congr {other : TlsSettings} {otherRead : FileReader}
    (sameChecks : checks other = checks settings)
    (samePaths : ∀ check ∈ checks settings, check.path other = check.path settings)
    (sameFiles : ∀ check ∈ checks settings,
      otherRead (check.path settings) = read (check.path settings)) :
    loadRoots otherRead other = loadRoots read settings := by
  have sameAsked : other.caFile ≠ "" ↔ settings.caFile ≠ "" := by
    rw [← caReadable_mem_checks_iff, ← caReadable_mem_checks_iff, sameChecks]
  by_cases asked : settings.caFile = ""
  · have otherAsked : other.caFile = "" := Classical.not_not.mp fun some => sameAsked.mp some asked
    simp only [loadRoots, asked, otherAsked, if_true]
  · have member := caReadable_mem_checks_iff.mpr asked
    have path : other.caFile = settings.caFile := samePaths _ member
    have caRead : otherRead settings.caFile = read settings.caFile := sameFiles _ member
    simp only [loadRoots, readFile, path, caRead]

/-! ## Outcomes -/

/-- The message of what a check reports names the file of the check. -/
theorem Check.Reports.names {check : Check} {failure : Failure}
    (reports : check.Reports read settings failure) :
    ∃ before after, failure.message = before ++ check.path settings ++ after := by
  cases check with
  | certReadable | keyReadable | caReadable =>
    obtain ⟨cause, -, same⟩ := reports
    refine ⟨"I/O error on ", ": " ++ cause.describe, ?_⟩
    rw [same]
    exact String.append_assoc
  | certPresent | keyPresent | keyLoads | caTrusted =>
    obtain ⟨before, after, same⟩ := reports
    refine ⟨"Decode error: " ++ before, after, ?_⟩
    rw [same]
    show "Decode error: " ++ _ = _
    simp only [String.append_assoc]

/-- The outcome of building a TLS side, for any settings and however files are read:

* what a file holds is settled by its layout, of which it has exactly one;
* the TLS side is built exactly if all checks pass that the settings ask for;
* else the failure is what the first check reports that does not pass;
* the message of what a check reports names the file of the check;
* what is built has the oldest protocol floor and forwards whether server certificates go unchecked;
  it has a client certificate exactly if both paths are given, with all certificates of the one file
  as its chain and the key of the first private key section of the other; and it has trust anchors
  exactly if a CA file is given, namely those of the file's usable certificates, in file order;
* it depends on nothing else: neither on whether TLS is wanted, nor on a path that stands alone, nor
  on files that no check is about. -/
theorem build_exact (read : FileReader) (settings : TlsSettings) :
    (∀ bytes, ∃! parts, Laid bytes parts) ∧
      ((∃ tls, build read settings = .ok tls) ↔
        ∀ check ∈ checks settings, check.Passes read settings) ∧
      (∀ error, build read settings = .error error →
        StopsAt read settings error.toFailure (checks settings)) ∧
      (∀ (check : Check) (failure : Failure), check.Reports read settings failure →
        ∃ before after, failure.message = before ++ check.path settings ++ after) ∧
      (∀ tls, build read settings = .ok tls →
        tls.minVersion = .tls10 ∧ tls.skipVerify = settings.skipVerify ∧
          (settings.certFile = "" ∨ settings.keyFile = "" → tls.certificates = []) ∧
          (settings.certFile ≠ "" ∧ settings.keyFile ≠ "" →
            ∃ certificate certBytes certParts keyBytes keyParts,
              tls.certificates = [certificate] ∧
              read settings.certFile = .ok certBytes ∧ Laid certBytes certParts ∧
              certificate.chain = certificatesOf certParts ∧
              read settings.keyFile = .ok keyBytes ∧ Laid keyBytes keyParts ∧
              FirstKey certificate.keyFile keyParts ∧
              LoadedKey.Holds certificate.keyFile certificate.key) ∧
          (settings.caFile = "" → tls.roots = none) ∧
          (settings.caFile ≠ "" → ∃ caBytes caParts roots, tls.roots = some roots ∧
            read settings.caFile = .ok caBytes ∧ Laid caBytes caParts ∧
            Certificate.Anchors (certificatesOf caParts) roots)) ∧
      ∀ (other : TlsSettings) (otherRead : FileReader), other.skipVerify = settings.skipVerify →
        checks other = checks settings →
        (∀ check ∈ checks settings, check.path other = check.path settings) →
        (∀ check ∈ checks settings,
          otherRead (check.path settings) = read (check.path settings)) →
        build otherRead other = build read settings := by
  refine ⟨Pem.existsUnique_laid, ⟨?_, ?_⟩, fun error => build_stopsAt,
    fun check failure => Check.Reports.names, ?_, ?_⟩
  · rintro ⟨tls, built⟩
    exact passes_of_build built
  · intro passes
    cases built : build read settings with
    | ok tls => exact ⟨tls, rfl⟩
    | error error =>
      obtain ⟨check, member, fails⟩ := (build_stopsAt built).fails
      exact absurd (passes check member) fails
  · intro tls built
    obtain ⟨certificates, roots, floor, skipVerify⟩ := build_eq_ok_iff.mp built
    have noPair : settings.certFile = "" ∨ settings.keyFile = "" → tls.certificates = [] := by
      intro missing
      rcases loadCertificates_eq_ok_iff.mp certificates with ⟨-, none⟩ | ⟨asked, -⟩
      · exact none
      · obtain ⟨cert, key⟩ := hasClientCert_iff.mp asked
        exact (missing.elim cert key).elim
    refine ⟨floor, skipVerify, noPair, ?_, ?_, ?_⟩
    · intro both
      rcases loadCertificates_eq_ok_iff.mp certificates with
        ⟨notAsked, -⟩ | ⟨-, certificate, single, loaded⟩
      · simp [hasClientCert_iff.mpr both] at notAsked
      · obtain ⟨certBytes, keyBytes, certRead, chain, keyRead, key⟩ := loadPair_eq_ok_iff.mp loaded
        obtain ⟨certParts, certLaid, -⟩ := Pem.existsUnique_laid certBytes
        obtain ⟨keyParts, keyLaid, -⟩ := Pem.existsUnique_laid keyBytes
        exact ⟨certificate, certBytes, certParts, keyBytes, keyParts, single, certRead, certLaid,
          chain.symm.trans (Pem.certificates_of_laid certLaid), keyRead, keyLaid,
          (Pem.privateKey_eq_some_iff keyLaid).mp key,
          LoadedKey.ofFile?_eq_some_iff.mp certificate.loads⟩
    · intro missing
      rcases loadRoots_eq_ok_iff.mp roots with ⟨-, none⟩ | ⟨asked, -⟩
      · exact none
      · exact absurd missing asked
    · intro asked
      rcases loadRoots_eq_ok_iff.mp roots with
        ⟨missing, -⟩ | ⟨-, caBytes, anchors, caRead, same, -, taken⟩
      · exact absurd missing asked
      · obtain ⟨caParts, caLaid, -⟩ := Pem.existsUnique_laid caBytes
        rw [Pem.certificates_of_laid caLaid] at same
        exact ⟨caBytes, caParts, anchors, taken, caRead, caLaid, Certificate.anchors_iff.mpr same⟩
  · intro other otherRead skipVerify sameChecks samePaths sameFiles
    rw [build, build, loadCertificates_congr sameChecks samePaths sameFiles,
      loadRoots_congr sameChecks samePaths sameFiles, skipVerify]

/-- A certificate section. -/
def certificateSection : Pem.Section := ⟨Pem.certificateLabel, ownCertificate⟩

/-- A private key section. -/
def keySection : Pem.Section := ⟨Pem.pkcs8Label, someKey⟩

/-- Another one, whose key cannot be loaded. -/
def emptySection : Pem.Section := ⟨Pem.pkcs8Label, []⟩

/-- A certificate section with an asterisk for its body. -/
def brokenPart : Part := .broken Pem.certificateLabel

/-- Bytes of a section, with its contents in one line. -/
def sectionBlock (s : Pem.Section) : Bytes :=
  Pem.block s.label 10 [Pem.encodedRow s.contents]

/-- Bytes of the broken section. -/
def brokenBlock : Bytes :=
  Pem.block Pem.certificateLabel 10 [Pem.ascii "*\n"]

theorem block_certificateSection :
    (Part.whole certificateSection).Block (sectionBlock certificateSection) :=
  Pem.block_encodedRow ⟨by decide, by decide⟩ ownCertificate

theorem block_keySection : (Part.whole keySection).Block (sectionBlock keySection) :=
  Pem.block_encodedRow ⟨by decide, by decide⟩ someKey

theorem block_emptySection : (Part.whole emptySection).Block (sectionBlock emptySection) :=
  Pem.block_encodedRow ⟨by decide, by decide⟩ []

theorem block_brokenPart : brokenPart.Block brokenBlock := by
  refine .broken ⟨by decide, by decide⟩ rfl (List.forall_mem_singleton.mpr ?_)
    (List.forall_mem_singleton.mpr ⟨by decide, by decide⟩) fun contents stands => ?_
  · exact ⟨Pem.ascii "*", 10, rfl, by decide, rfl⟩
  · have asterisk : 42 ∉ Base64.blanks ∧ 42 ∉ Base64.alphabet ∧ 42 ≠ Base64.padding := by decide
    rcases stands.bytes 42 (by decide) with isBlank | isSymbol | isPad
    · exact asterisk.1 isBlank
    · exact asterisk.2.1 isSymbol
    · exact asterisk.2.2 isPad

/-- The certificate, behind the broken section. -/
def certificateFile : Bytes :=
  brokenBlock ++ 10 :: (sectionBlock certificateSection ++ [10])

/-- The key, with the other one behind it. -/
def keyFile : Bytes :=
  sectionBlock keySection ++ 10 :: (sectionBlock emptySection ++ [10])

theorem laid_certificateFile : Laid certificateFile [brokenPart, .whole certificateSection] :=
  Written.laid (.part block_brokenPart (.line rfl)
    (.part block_certificateSection (.line rfl) .nil))

theorem laid_keyFile : Laid keyFile ([keySection, emptySection].map .whole) :=
  Written.laid (.part block_keySection (.line rfl) (.part block_emptySection (.line rfl) .nil))

theorem someKey_holds : ∃ key, LoadedKey.Holds ⟨.pkcs8, someKey⟩ key := by
  have loads : (LoadedKey.ofFile? ⟨.pkcs8, someKey⟩).isSome = true := by decide +kernel
  obtain ⟨key, loaded⟩ := Option.isSome_iff_exists.mp loads
  exact ⟨key, LoadedKey.ofFile?_eq_some_iff.mp loaded⟩

/-- A trust anchor for names under one domain. -/
def authority : Certificate.Identity where
  subject := []
  publicKeyInfo := Der.wrap Der.sequenceTag Ed25519.algorithm ++ Der.wrapBitString someKey
  nameConstraints := some (Der.wrap (Der.markTag 0)
    (Der.wrap Der.sequenceTag (Der.wrap (Der.plainMarkTag 2) (Pem.ascii ".example"))))

/-- The certificate of the trust anchor. -/
def authorityCertificate : Bytes :=
  let constraints := Der.wrap Der.sequenceTag (Der.wrap Der.oidTag [0x55, 0x1d, 0x1e] ++
    Der.wrap Der.octetStringTag (Der.wrap Der.sequenceTag (authority.nameConstraints.getD [])))
  let signed := Der.wrap (Der.markTag 0) (Der.wrap Der.integerTag [2]) ++
    Der.wrap Der.integerTag [5] ++ Der.wrap Der.sequenceTag Ed25519.algorithm ++
    Der.wrap Der.sequenceTag [] ++ Der.wrap Der.sequenceTag [] ++ authority.subjectName ++
    Der.wrap Der.sequenceTag authority.publicKeyInfo ++
    Der.wrap (Der.markTag 3) (Der.wrap Der.sequenceTag constraints)
  Der.wrap Der.sequenceTag (Der.wrap Der.sequenceTag signed ++
    Der.wrap Der.sequenceTag Ed25519.algorithm ++ Der.wrapBitString [0])

theorem authorityCertificate_gives : Certificate.GivesAnchor authorityCertificate authority :=
  Certificate.trustAnchor?_eq_some_iff.mp (by decide +kernel)

/-- What is no certificate gives no trust anchor. -/
theorem someKey_gives_none (anchor : Certificate.Identity) :
    ¬ Certificate.GivesAnchor someKey anchor := by
  have none : Certificate.trustAnchor? someKey = none := by decide +kernel
  rw [← Certificate.trustAnchor?_eq_some_iff, none]
  nofun

/-- A certificate section that holds no certificate. -/
def strangerSection : Pem.Section := ⟨Pem.certificateLabel, someKey⟩

/-- The section of the trust anchor. -/
def authoritySection : Pem.Section := ⟨Pem.certificateLabel, authorityCertificate⟩

theorem block_strangerSection : (Part.whole strangerSection).Block (sectionBlock strangerSection) :=
  Pem.block_encodedRow ⟨by decide, by decide⟩ someKey

theorem block_authoritySection :
    (Part.whole authoritySection).Block (sectionBlock authoritySection) :=
  Pem.block_encodedRow ⟨by decide, by decide⟩ authorityCertificate

/-- A CA file with the trust anchor behind a broken section and one that holds no certificate. -/
def authorities : Bytes :=
  brokenBlock ++ 10 :: (sectionBlock strangerSection ++ 10 ::
    (sectionBlock authoritySection ++ [10]))

/-- A CA file without a trust anchor. -/
def strangers : Bytes :=
  sectionBlock strangerSection ++ [10]

theorem laid_authorities :
    Laid authorities [brokenPart, .whole strangerSection, .whole authoritySection] :=
  Written.laid (.part block_brokenPart (.line rfl) (.part block_strangerSection (.line rfl)
    (.part block_authoritySection (.line rfl) .nil)))

theorem laid_strangers : Laid strangers [.whole strangerSection] :=
  Written.laid (.part block_strangerSection (.line rfl) .nil)

theorem anchors_authorities : Certificate.Anchors
    (certificatesOf [brokenPart, .whole strangerSection, .whole authoritySection]) [authority] :=
  .unusable someKey_gives_none (.usable authorityCertificate_gives .nil)

/-- Reads the certificate file, the key file and this CA file. -/
def clientFiles (ca : Bytes) : FileReader := fun path =>
  if path = "cert.pem" then .ok certificateFile
  else if path = "key.pem" then .ok keyFile
  else if path = "ca.pem" then .ok ca
  else .error (.system SystemError.noEntry)

/-- Settings with the three files. -/
def clientSettings : TlsSettings :=
  (TlsSettings.empty.withClientCert "cert.pem" "key.pem").withCaFile "ca.pem"

theorem certificateFile_read {ca : Bytes} : clientFiles ca "cert.pem" = .ok certificateFile := rfl

theorem keyFile_read {ca : Bytes} : clientFiles ca "key.pem" = .ok keyFile := rfl

theorem caFile_read {ca : Bytes} : clientFiles ca "ca.pem" = .ok ca := rfl

/-- The key is the first one of its file, with another one behind it. -/
theorem firstKey_keyFile :
    FirstKey ⟨.pkcs8, someKey⟩ ([keySection, emptySection].map .whole) :=
  ⟨[], keySection, [.whole emptySection], rfl, nofun, rfl⟩

/-- Certificate and key pass their checks, whatever the CA file holds. -/
theorem clientFiles_pass (ca : Bytes) :
    ∀ check ∈ pairChecks, check.Passes (clientFiles ca) clientSettings := by
  obtain ⟨key, holds⟩ := someKey_holds
  simp only [pairChecks, List.forall_mem_cons]
  exact ⟨⟨certificateFile, certificateFile_read, trivial⟩,
    ⟨certificateFile, certificateFile_read, _, laid_certificateFile, List.cons_ne_nil _ _⟩,
    ⟨keyFile, keyFile_read, trivial⟩,
    ⟨keyFile, keyFile_read, _, _, laid_keyFile, firstKey_keyFile⟩,
    ⟨keyFile, keyFile_read, _, _, key, laid_keyFile, firstKey_keyFile, holds⟩, nofun⟩

theorem caFile_passes (ca : Bytes) : Check.caReadable.Passes (clientFiles ca) clientSettings :=
  ⟨ca, caFile_read, trivial⟩

/-- A build from good files, where the CA file is usable in part, and one that fails at the last
check, behind good files. -/
theorem build_exact_client :
    (∃ tls certificate, build (clientFiles authorities) clientSettings = .ok tls ∧
      tls.certificates = [certificate] ∧ certificate.chain = [ownCertificate] ∧
      certificate.keyFile = ⟨.pkcs8, someKey⟩ ∧ tls.roots = some [authority]) ∧
    ∃ error before after, build (clientFiles strangers) clientSettings = .error error ∧
      error.toFailure = .decode (before ++ "ca.pem" ++ after) ∧
      ∀ check ∈ pairChecks ++ [.caReadable],
        check.Passes (clientFiles strangers) clientSettings := by
  constructor
  · obtain ⟨unique, isBuilt, -, -, result, -⟩ :=
      build_exact (clientFiles authorities) clientSettings
    have trusted : Check.caTrusted.Passes (clientFiles authorities) clientSettings :=
      ⟨authorities, caFile_read, _, laid_authorities, authorityCertificate,
        List.mem_cons_of_mem _ List.mem_cons_self, authority, authorityCertificate_gives⟩
    have passes : ∀ check ∈ checks clientSettings,
        check.Passes (clientFiles authorities) clientSettings := by
      refine List.forall_mem_append.mpr ⟨clientFiles_pass authorities, ?_⟩
      exact List.forall_mem_cons.mpr
        ⟨caFile_passes authorities, List.forall_mem_singleton.mpr trusted⟩
    obtain ⟨tls, built⟩ := isBuilt.mpr passes
    obtain ⟨-, -, -, pair, -, ca⟩ := result tls built
    obtain ⟨certificate, certBytes, certParts, keyBytes, keyParts, single, certRead, certLaid,
      chain, keyRead, keyLaid, first, -⟩ := pair (by decide)
    obtain ⟨caBytes, caParts, roots, taken, caRead, caLaid, anchors⟩ := ca (by decide)
    cases certRead
    cases keyRead
    cases caRead
    refine ⟨tls, certificate, built, single, ?_, ?_, ?_⟩
    · rw [chain, (unique _).unique certLaid laid_certificateFile]
      rfl
    · rw [(unique _).unique keyLaid laid_keyFile] at first
      rcases Pem.firstKey_cons.mp first with ⟨_, ⟨⟩, isKey⟩ | ⟨passed, -⟩
      · exact (Option.some.inj isKey).symm
      · cases passed
    · rw [(unique _).unique caLaid laid_authorities] at anchors
      rw [taken, ← Certificate.anchors_iff.mp anchors,
        Certificate.anchors_iff.mp anchors_authorities]
  · obtain ⟨unique, isBuilt, stopsAt, -⟩ := build_exact (clientFiles strangers) clientSettings
    have untrusted : ¬ Check.caTrusted.Passes (clientFiles strangers) clientSettings := by
      rintro ⟨_, caRead, parts, caLaid, der, member, anchor, gives⟩
      cases caRead
      rw [(unique _).unique caLaid laid_strangers] at member
      rw [List.mem_singleton.mp member] at gives
      exact someKey_gives_none anchor gives
    have passes : ∀ check ∈ pairChecks ++ [.caReadable],
        check.Passes (clientFiles strangers) clientSettings :=
      List.forall_mem_append.mpr
        ⟨clientFiles_pass strangers, List.forall_mem_singleton.mpr (caFile_passes strangers)⟩
    cases built : build (clientFiles strangers) clientSettings with
    | ok tls => exact absurd (isBuilt.mp ⟨tls, built⟩ .caTrusted (by decide)) untrusted
    | error error =>
      have last : StopsAt (clientFiles strangers) clientSettings error.toFailure [.caTrusted] :=
        StopsAt.beyond passes (stopsAt error built)
      cases last with
      | here _ reports =>
        obtain ⟨before, after, same⟩ := reports
        exact ⟨error, before, after, rfl, same, passes⟩
      | later passesLast => exact absurd passesLast untrusted

end ClientTls

end PluginSupport
