import PluginSupport.Proofs.Der.Integer
import PluginSupport.Proofs.Tls.Extensions

/-!
# Trust anchors

`Certificate.GivesAnchor` says which trust anchor a certificate gives, by how certificates are
written. A version 3 certificate gives its subject name, its public key information and its name
constraints. One of version 1, which has no mark for its version, has no name constraints.

Main result: `Certificate.anchors_iff`. Of a list of certificates the usable ones give their trust
anchors, in order, and the others are passed over.
-/
namespace PluginSupport.Certificate

open Utf8 (Bytes)
open Der (wrap sequenceTag integerTag bitStringTag markTag)

/-! ## Certificates as they are written -/

/-- Whether the signed part of a version 3 certificate with this signature algorithm gives this
anchor. -/
def SignedV3 (algorithm signed : Bytes) (anchor : Identity) : Prop :=
  ∃ serial issuer validity tail extensions,
    signed = wrap (markTag 0) (wrap integerTag [2]) ++ (wrap integerTag serial ++
      (wrap sequenceTag algorithm ++ (wrap sequenceTag issuer ++ (wrap sequenceTag validity ++
        (wrap sequenceTag anchor.subject ++ (wrap sequenceTag anchor.publicKeyInfo ++
          tail)))))) ∧
      Tail tail extensions ∧ Admissible extensions ∧ Constrain extensions anchor.nameConstraints

/-- Whether the signed part of a version 1 certificate gives this anchor. -/
def SignedV1 (signed : Bytes) (anchor : Identity) : Prop :=
  ∃ serial algorithm issuer validity,
    signed = wrap integerTag serial ++ (wrap sequenceTag algorithm ++ (wrap sequenceTag issuer ++
      (wrap sequenceTag validity ++ (wrap sequenceTag anchor.subject ++
        wrap sequenceTag anchor.publicKeyInfo)))) ∧
      anchor.nameConstraints = none

/-- Whether a certificate consists of a signed part, a signature algorithm and a signature, and is
not too long. -/
def Framed (der signed algorithm signature : Bytes) : Prop :=
  ∃ row, der = wrap sequenceTag row ∧ row.length < limits.bound ∧
    row = wrap sequenceTag signed ++
      (wrap sequenceTag algorithm ++ wrap bitStringTag (0 :: signature))

/-- Whether a certificate gives this trust anchor: its subject name, its public key information and
its name constraints. -/
def GivesAnchor (der : Bytes) (anchor : Identity) : Prop :=
  ∃ signed algorithm signature, Framed der signed algorithm signature ∧
    (SignedV3 algorithm signed anchor ∨ SignedV1 signed anchor)

/-- `Anchors ders anchors`: these are the trust anchors of the usable certificates, in order. -/
inductive Anchors : List Bytes → List Identity → Prop
  | nil : Anchors [] []
  | usable {der : Bytes} {anchor : Identity} {ders : List Bytes} {anchors : List Identity}
      (gives : GivesAnchor der anchor) (more : Anchors ders anchors) :
      Anchors (der :: ders) (anchor :: anchors)
  | unusable {der : Bytes} {ders : List Bytes} {anchors : List Identity}
      (givesNone : ∀ anchor, ¬ GivesAnchor der anchor) (more : Anchors ders anchors) :
      Anchors (der :: ders) anchors

variable {row rest : Bytes}

/-! ## Signed parts -/

theorem readSmall?_two_iff :
    Der.readSmall? limits row = some (2, rest) ↔ row = wrap integerTag [2] ++ rest := by
  rw [Der.readSmall?_eq_some_iff limits_sound (by decide), Der.wrapNatural_toNat]
  exact Iff.rfl

theorem skipVersion_eq_ok_iff (short : row.length < limits.bound) :
    skipVersion row = .ok rest ↔ row = wrap (markTag 0) (wrap integerTag [2]) ++ rest := by
  unfold skipVersion
  constructor
  · intro skipped
    split at skipped
    · cases skipped
    · rename_i contents behind isMarked
      rw [bind_eq_ok_iff] at skipped
      obtain ⟨⟨version, inner⟩, taken, done⟩ := skipped
      rw [orBad_eq_ok_iff] at taken
      split at done
      · rename_i two
        cases done
        cases two
        rw [((read?_iff (by decide)).mp isMarked).1, readSmall?_two_iff.mp taken, List.append_nil]
      · cases done
  · rintro rfl
    have fits : (wrap integerTag [2]).length < limits.bound := by decide
    have version := @readSmall?_two_iff (wrap integerTag [2]) []
    rw [List.append_nil] at version
    rw [Der.read?_wrap limits_sound (by decide) fits]
    simp only [version.mpr rfl]
    rfl

/-- Six elements behind one another, none of which is longer than all together. -/
theorem lengths_append {bound : Nat} {front : Bytes} {one two three four five six : Bytes}
    {back : Bytes}
    (short : (front ++ (wrap integerTag one ++ (wrap sequenceTag two ++ (wrap sequenceTag three ++
      (wrap sequenceTag four ++ (wrap sequenceTag five ++ (wrap sequenceTag six ++
        back))))))).length < bound) :
    (one.length < bound ∧ two.length < bound ∧ three.length < bound) ∧
      (four.length < bound ∧ five.length < bound ∧ six.length < bound) ∧ back.length < bound := by
  have oneShorter := Der.length_lt_wrap integerTag one
  have twoShorter := Der.length_lt_wrap sequenceTag two
  have threeShorter := Der.length_lt_wrap sequenceTag three
  have fourShorter := Der.length_lt_wrap sequenceTag four
  have fiveShorter := Der.length_lt_wrap sequenceTag five
  have sixShorter := Der.length_lt_wrap sequenceTag six
  simp only [List.length_append] at short
  omega

theorem readSigned_eq_ok_iff {algorithm signed : Bytes} {identity : Identity}
    (short : signed.length < limits.bound) :
    readSigned .trusted algorithm signed = .ok identity ↔ SignedV3 algorithm signed identity := by
  unfold readSigned SignedV3
  simp only [bind_eq_ok_iff, orBad_eq_ok_iff, Prod.exists, sequence_eq_ok_iff,
    read?_iff (by decide : integerTag &&& 0x1F ≠ 0x1F), skipVersion_eq_ok_iff short]
  constructor
  · rintro ⟨_, rfl, serial, _, ⟨rfl, -⟩, signature, _, ⟨rfl, -⟩, done⟩
    split at done
    · cases done
    · rename_i same
      rw [ne_eq, Classical.not_not] at same
      simp only [bind_eq_ok_iff, Prod.exists, sequence_eq_ok_iff] at done
      obtain ⟨issuer, _, ⟨rfl, -⟩, validity, _, ⟨rfl, -⟩, subject, _, ⟨rfl, -⟩, publicKeyInfo,
        tail, ⟨rfl, -⟩, known, isTail, found⟩ := done
      obtain ⟨-, -, tailShort⟩ := lengths_append short
      obtain ⟨extensions, isTail, remembered⟩ := (readTail_eq_ok_iff tailShort).mp isTail
      cases found
      obtain ⟨admissible, constrain⟩ :=
        (remembered_iff (isTail.value_short tailShort)).mp ⟨known, remembered, rfl⟩
      exact ⟨serial, issuer, validity, tail, extensions, by rw [same], isTail, admissible,
        constrain⟩
  · rintro ⟨serial, issuer, validity, tail, extensions, rfl, isTail, admissible, constrain⟩
    obtain ⟨⟨one, two, three⟩, ⟨four, five, six⟩, tailShort⟩ := lengths_append short
    obtain ⟨known, remembered, same⟩ :=
      (remembered_iff (isTail.value_short tailShort)).mpr ⟨admissible, constrain⟩
    refine ⟨_, rfl, serial, _, ⟨rfl, one⟩, algorithm, _, ⟨rfl, two⟩, ?_⟩
    rw [if_neg fun different => different rfl]
    simp only [bind_eq_ok_iff, Prod.exists, sequence_eq_ok_iff]
    refine ⟨issuer, _, ⟨rfl, three⟩, validity, _, ⟨rfl, four⟩, identity.subject, _, ⟨rfl, five⟩,
      identity.publicKeyInfo, tail, ⟨rfl, six⟩, known,
      (readTail_eq_ok_iff tailShort).mpr ⟨extensions, isTail, remembered⟩, ?_⟩
    rw [same]

theorem readSignedV1?_eq_some_iff {signed : Bytes} {identity : Identity}
    (short : signed.length < limits.bound) :
    readSignedV1? signed = some identity ↔ SignedV1 signed identity := by
  unfold readSignedV1? SignedV1
  simp only [Option.bind_eq_bind, Option.bind_eq_some_iff, Prod.exists,
    read?_iff (by decide : integerTag &&& 0x1F ≠ 0x1F),
    read?_iff (by decide : sequenceTag &&& 0x1F ≠ 0x1F)]
  constructor
  · rintro ⟨serial, _, ⟨rfl, -⟩, algorithm, _, ⟨rfl, -⟩, issuer, _, ⟨rfl, -⟩, validity, _, ⟨rfl, -⟩,
      subject, _, ⟨rfl, -⟩, publicKeyInfo, rest, ⟨rfl, -⟩, found⟩
    split at found
    · rename_i isLast
      cases isLast
      cases found
      rw [List.append_nil]
      exact ⟨serial, algorithm, issuer, validity, rfl, rfl⟩
    · cases found
  · rintro ⟨serial, algorithm, issuer, validity, rfl, none⟩
    rw [← List.append_nil (wrap sequenceTag identity.publicKeyInfo)] at short ⊢
    obtain ⟨⟨one, two, three⟩, ⟨four, five, six⟩, -⟩ := @lengths_append _ [] _ _ _ _ _ _ _ short
    refine ⟨serial, _, ⟨rfl, one⟩, algorithm, _, ⟨rfl, two⟩, issuer, _, ⟨rfl, three⟩, validity, _,
      ⟨rfl, four⟩, identity.subject, _, ⟨rfl, five⟩, identity.publicKeyInfo, [], ⟨rfl, six⟩, ?_⟩
    simp [← none]

theorem readSigned_of_v1 {algorithm signed : Bytes} {identity : Identity}
    (signedV1 : SignedV1 signed identity) :
    readSigned .trusted algorithm signed = .error .unsupportedVersion := by
  obtain ⟨serial, _, _, _, rfl, -⟩ := signedV1
  rw [readSigned, skipVersion]
  have noMark : ∀ rest, Der.read? limits (markTag 0) (wrap integerTag serial ++ rest) = none := by
    intro rest
    refine Option.eq_none_iff_forall_ne_some.mpr fun (contents, behind) taken => ?_
    have same := ((read?_iff (by decide)).mp taken).1
    cases (List.cons.inj same).1
  rw [noMark]
  rfl

/-! ## Certificates -/

theorem Framed.lengths {der signed algorithm signature : Bytes}
    (framed : Framed der signed algorithm signature) :
    signed.length < limits.bound ∧ algorithm.length < limits.bound ∧
      (0 :: signature : Bytes).length < limits.bound := by
  obtain ⟨row, rfl, short, rfl⟩ := framed
  have signedShorter := Der.length_lt_wrap sequenceTag signed
  have algorithmShorter := Der.length_lt_wrap sequenceTag algorithm
  have signatureShorter := Der.length_lt_wrap bitStringTag (0 :: signature)
  rw [List.length_append, List.length_append] at short
  omega

/-- A framed certificate is read as its signed part is. -/
theorem parse_of_framed {purpose : Purpose} {der signed algorithm signature : Bytes}
    (framed : Framed der signed algorithm signature) :
    parse purpose der = readSigned purpose algorithm signed := by
  obtain ⟨signedShort, algorithmShort, signatureShort⟩ := framed.lengths
  obtain ⟨row, rfl, short, rfl⟩ := framed
  have plain : sequenceTag &&& 0x1F ≠ 0x1F := by decide
  have isSignature := readBitString?_iff.mpr
    ⟨(List.append_nil (wrap bitStringTag (0 :: signature))).symm, signatureShort⟩
  simp only [parse, (readOnly?_iff plain).mpr ⟨rfl, short⟩, orBad, bind, Except.bind,
    sequence_eq_ok_iff.mpr ⟨rfl, signedShort⟩, sequence_eq_ok_iff.mpr ⟨rfl, algorithmShort⟩,
    isSignature, atEnd, List.isEmpty_nil, if_true]

theorem exists_of_orBad_bind {α β : Type} {read? : Option α}
    {next : α → Except CertificateError β}
    (notBad : orBad read? >>= next ≠ .error .badEncoding) :
    ∃ a, read? = some a ∧ next a ≠ .error .badEncoding := by
  cases read? with
  | none => exact absurd rfl notBad
  | some a => exact ⟨a, rfl, notBad⟩

/-- What is not refused for its encoding is framed. -/
theorem exists_framed {purpose : Purpose} {der : Bytes}
    (notBad : parse purpose der ≠ .error .badEncoding) :
    ∃ signed algorithm signature, Framed der signed algorithm signature := by
  have plain : sequenceTag &&& 0x1F ≠ 0x1F := by decide
  obtain ⟨row, isOuter, rowNotBad⟩ := exists_of_orBad_bind notBad
  obtain ⟨⟨signed, _⟩, isSigned, signedNotBad⟩ := exists_of_orBad_bind rowNotBad
  obtain ⟨⟨algorithm, _⟩, isAlgorithm, algorithmNotBad⟩ := exists_of_orBad_bind signedNotBad
  obtain ⟨⟨signature, behind⟩, isSignature, endNotBad⟩ := exists_of_orBad_bind algorithmNotBad
  obtain ⟨rfl, short⟩ := (readOnly?_iff plain).mp isOuter
  obtain ⟨rfl, -⟩ := (read?_iff plain).mp isSigned
  obtain ⟨rfl, -⟩ := (read?_iff plain).mp isAlgorithm
  obtain ⟨rfl, -⟩ := readBitString?_iff.mp isSignature
  cases behind with
  | nil =>
    refine ⟨signed, algorithm, signature, _, rfl, short, ?_⟩
    rw [List.append_nil]
  | cons => exact absurd rfl endNotBad

theorem parseV1?_of_framed {der signed algorithm signature : Bytes}
    (framed : Framed der signed algorithm signature) : parseV1? der = readSignedV1? signed := by
  obtain ⟨signedShort, algorithmShort, signatureShort⟩ := framed.lengths
  obtain ⟨row, rfl, short, rfl⟩ := framed
  have plain : sequenceTag &&& 0x1F ≠ 0x1F := by decide
  have isSignature := (read?_iff (by decide)).mpr
    ⟨(List.append_nil (wrap bitStringTag (0 :: signature))).symm, signatureShort⟩
  simp only [parseV1?, (readOnly?_iff plain).mpr ⟨rfl, short⟩, Option.bind_eq_bind,
    Option.bind_some, (read?_iff plain).mpr ⟨rfl, signedShort⟩,
    (read?_iff plain).mpr ⟨rfl, algorithmShort⟩, isSignature, Option.bind_fun_some]

theorem trustAnchor?_of_framed {der signed algorithm signature : Bytes} {anchor : Identity}
    (framed : Framed der signed algorithm signature) :
    trustAnchor? der = some anchor ↔ SignedV3 algorithm signed anchor ∨ SignedV1 signed anchor := by
  have signedShort := framed.lengths.1
  rw [trustAnchor?, parse_of_framed framed, parseV1?_of_framed framed,
    ← readSigned_eq_ok_iff signedShort, ← readSignedV1?_eq_some_iff signedShort]
  constructor
  · intro trusted
    split at trusted
    · rename_i identity isV3
      exact .inl (isV3.trans (congrArg Except.ok (Option.some.inj trusted)))
    · exact .inr trusted
    · cases trusted
  · rintro (isV3 | isV1)
    · rw [isV3]
    · rw [readSigned_of_v1 ((readSignedV1?_eq_some_iff signedShort).mp isV1)]
      exact isV1

/-- A certificate gives a trust anchor exactly if it is written as one that does, and then that
one. -/
theorem trustAnchor?_eq_some_iff {der : Bytes} {anchor : Identity} :
    trustAnchor? der = some anchor ↔ GivesAnchor der anchor := by
  constructor
  · intro trusted
    have notBad : parse .trusted der ≠ .error .badEncoding := by
      intro bad
      rw [trustAnchor?, bad] at trusted
      cases trusted
    obtain ⟨signed, algorithm, signature, framed⟩ := exists_framed notBad
    exact ⟨signed, algorithm, signature, framed, (trustAnchor?_of_framed framed).mp trusted⟩
  · rintro ⟨signed, algorithm, signature, framed, given⟩
    exact (trustAnchor?_of_framed framed).mpr given

/-- Trust anchors are taken of the usable certificates, in order. -/
theorem anchors_iff {ders : List Bytes} {anchors : List Identity} :
    Anchors ders anchors ↔ ders.filterMap trustAnchor? = anchors := by
  constructor
  · intro areAnchors
    induction areAnchors with
    | nil => rfl
    | usable gives _ ih =>
      rw [List.filterMap_cons_some (trustAnchor?_eq_some_iff.mpr gives), ih]
    | unusable givesNone _ ih =>
      rw [List.filterMap_cons_none, ih]
      exact Option.eq_none_iff_forall_ne_some.mpr fun anchor trusted =>
        givesNone anchor (trustAnchor?_eq_some_iff.mp trusted)
  · rintro rfl
    induction ders with
    | nil => exact .nil
    | cons der ders ih =>
      cases trusted : trustAnchor? der with
      | some anchor =>
        rw [List.filterMap_cons_some trusted]
        exact .usable (trustAnchor?_eq_some_iff.mp trusted) ih
      | none =>
        rw [List.filterMap_cons_none trusted]
        refine .unusable (fun anchor gives => ?_) ih
        rw [trustAnchor?_eq_some_iff.mpr gives] at trusted
        cases trusted

end PluginSupport.Certificate
