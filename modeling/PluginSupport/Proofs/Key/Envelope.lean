import PluginSupport.Key.Pkcs8
import PluginSupport.Proofs.Der.Integer

/-!
# Envelopes of private keys

`Pkcs8.Envelope` says how a private key is put into an envelope, without regard to how the envelope
is opened.

Main result: `Pkcs8.open?_eq_some_iff`.
-/
namespace PluginSupport.Pkcs8

open Utf8 (Bytes)
open Der (wrap wrapNatural wrapBitString sequenceTag octetStringTag bitStringTag markTag
  plainMarkTag)

/-! ## Envelopes as they are written -/

/-- Whether bytes are a sequence with this row in it, and not too long. -/
def IsSequence (der row : Bytes) : Prop :=
  der = wrap sequenceTag row ∧ row.length < limits.bound

/-- Whether these bytes are the attributes of an envelope, which may have none. -/
inductive Attributes : Bytes → Prop
  | absent : Attributes []
  | present (contents : Bytes) : Attributes (wrap (markTag 0) contents)

/-- Whether these bytes are the public key at the end of an envelope, if there is one. It stands in
its own mark, or in the one that older writers used. -/
inductive Ending : Option Bytes → Bytes → Prop
  | nothing : Ending none []
  | key (publicKey : Bytes) : Ending (some publicKey) (wrap (markTag 1) (wrapBitString publicKey))
  | older (publicKey : Bytes) : Ending (some publicKey) (wrap (plainMarkTag 1) (0 :: publicKey))

/-- Version of an envelope. -/
def Opened.version (opened : Opened) : Nat :=
  if opened.publicKey = none then 0 else 1

/-- Whether these bytes are an envelope for the algorithm with these keys in it. -/
def Envelope (algorithm : Bytes) (opened : Opened) (der : Bytes) : Prop :=
  ∃ row attributes ending, IsSequence der row ∧
    row = wrapNatural opened.version ++ (wrap sequenceTag algorithm ++
      (wrap octetStringTag opened.privateKey ++ (attributes ++ ending))) ∧
    Attributes attributes ∧ Ending opened.publicKey ending

/-! ## Reading steps -/

theorem limits_sound : limits.Sound :=
  ⟨by decide, by decide⟩

variable {row rest contents : Bytes} {tag : UInt8}

theorem read?_iff (plain : tag &&& 0x1F ≠ 0x1F) :
    Der.read? limits tag row = some (contents, rest) ↔
      row = wrap tag contents ++ rest ∧ contents.length < limits.bound :=
  Der.read?_eq_some_iff limits_sound plain

/-- Elements of a short row are short. -/
theorem read?_iff_of_short (short : row.length < limits.bound) (plain : tag &&& 0x1F ≠ 0x1F) :
    Der.read? limits tag row = some (contents, rest) ↔ row = wrap tag contents ++ rest := by
  rw [read?_iff plain]
  refine and_iff_left_of_imp fun same => ?_
  have shorter := Der.length_lt_wrap tag contents
  rw [same, List.length_append] at short
  omega

theorem readOnly?_iff_of_short (short : row.length < limits.bound) (plain : tag &&& 0x1F ≠ 0x1F) :
    Der.readOnly? limits tag row = some contents ↔ row = wrap tag contents := by
  rw [Der.readOnly?_eq_some_iff limits_sound plain]
  refine and_iff_left_of_imp fun same => ?_
  have shorter := Der.length_lt_wrap tag contents
  rw [same] at short
  omega

theorem readBitString?_iff_of_short (short : row.length < limits.bound)
    (plain : tag &&& 0x1F ≠ 0x1F) :
    Der.readBitString? limits tag row = some (contents, rest) ↔
      row = wrap tag (0 :: contents) ++ rest := by
  rw [Der.readBitString?_eq_some_iff limits_sound plain]
  refine and_iff_left_of_imp fun same => ?_
  have shorter := Der.length_lt_wrap tag (0 :: contents)
  rw [same, List.length_append] at short
  omega

/-- A bit string that stands alone is read as it is written. -/
theorem readBitString?_iff_alone (short : row.length < limits.bound) :
    Der.readBitString? limits bitStringTag row = some (contents, []) ↔
      row = wrapBitString contents := by
  rw [readBitString?_iff_of_short short (by decide), List.append_nil, wrapBitString]

theorem isSequence_iff {der : Bytes} :
    Der.readOnly? limits sequenceTag der = some row ↔ IsSequence der row :=
  Der.readOnly?_eq_some_iff limits_sound (by decide)

theorem readSmall?_iff {b : UInt8} :
    Der.readSmall? limits row = some (b, rest) ↔ row = wrapNatural b.toNat ++ rest :=
  Der.readSmall?_eq_some_iff limits_sound (by decide)

/-- What stands behind the front of a short row is short. -/
theorem short_of_append {front : Bytes} (short : (front ++ rest).length < limits.bound) :
    rest.length < limits.bound := by
  rw [List.length_append] at short
  omega

theorem short_of_wrap (short : (wrap tag contents).length < limits.bound) :
    contents.length < limits.bound := by
  have shorter := Der.length_lt_wrap tag contents
  omega

/-- A wrapped row can be told from what follows it. -/
theorem wrap_append_inj {other behind : Bytes}
    (short : (wrap tag contents ++ rest).length < limits.bound) (plain : tag &&& 0x1F ≠ 0x1F)
    (same : wrap tag contents ++ rest = wrap tag other ++ behind) :
    contents = other ∧ rest = behind := by
  have taken := (read?_iff_of_short short plain).mpr rfl
  have takenOther := (read?_iff_of_short short plain).mpr same
  exact Prod.mk.inj (Option.some.inj (taken.symm.trans takenOther))

theorem IsSequence.unique {der other : Bytes} (isSequence : IsSequence der row)
    (isOther : IsSequence der other) : row = other :=
  Option.some.inj ((isSequence_iff.mpr isSequence).symm.trans (isSequence_iff.mpr isOther))

/-! ## Opening -/

theorem exists_of_skipAttributes? (taken : skipAttributes? row = some rest) :
    ∃ attributes, row = attributes ++ rest ∧ Attributes attributes := by
  rw [skipAttributes?] at taken
  split at taken
  · obtain ⟨⟨contents, behind⟩, found, rfl⟩ := Option.map_eq_some_iff.mp taken
    exact ⟨_, ((read?_iff (by decide)).mp found).1, .present contents⟩
  · cases taken
    exact ⟨[], rfl, .absent⟩

theorem skipAttributes?_append {attributes ending : Bytes} {publicKey : Option Bytes}
    (isAttributes : Attributes attributes) (isEnding : Ending publicKey ending)
    (short : (attributes ++ ending).length < limits.bound) :
    skipAttributes? (attributes ++ ending) = some ending := by
  rw [skipAttributes?]
  cases isAttributes with
  | absent =>
    have other : Der.startsWith (markTag 0) ending = false := by
      cases isEnding with
      | nothing => rfl
      | key | older => rfl
    rw [List.nil_append, other]
    rfl
  | present contents =>
    rw [Der.startsWith_wrap, if_pos (by decide),
      (read?_iff_of_short short (by decide)).mpr rfl]
    rfl

theorem publicKey?_eq_some_iff (short : row.length < limits.bound) {publicKey : Bytes} :
    publicKey? row = some (publicKey, []) ↔ Ending (some publicKey) row := by
  rw [publicKey?]
  constructor
  · intro taken
    split at taken
    · simp only [Option.bind_eq_bind, Option.bind_eq_some_iff, Prod.exists,
        Option.ite_none_right_eq_some, List.isEmpty_iff] at taken
      obtain ⟨marked, _, isMarked, _, _, isKey, rfl, same⟩ := taken
      cases same
      have isWrapped := (read?_iff_of_short short (by decide)).mp isMarked
      rw [List.append_nil] at isWrapped
      subst isWrapped
      rw [(readBitString?_iff_alone (short_of_wrap short)).mp isKey]
      exact .key publicKey
    · have isKey := (readBitString?_iff_of_short short (by decide)).mp taken
      rw [isKey, List.append_nil]
      exact .older publicKey
  · intro isEnding
    cases isEnding with
    | key =>
      have bits := (readBitString?_iff_alone (short_of_wrap short)).mpr rfl
      rw [← List.append_nil (wrap (markTag 1) _)] at short ⊢
      rw [Der.startsWith_wrap, if_pos (by decide), (read?_iff_of_short short (by decide)).mpr rfl]
      simp only [Option.bind_eq_bind, Option.bind_some, bits]
      rfl
    | older =>
      rw [← List.append_nil (wrap (plainMarkTag 1) _)] at short ⊢
      rw [Der.startsWith_wrap, if_neg (by decide),
        (readBitString?_iff_of_short short (by decide)).mpr rfl]

/-- The version of an envelope says whether a public key follows. -/
theorem close_eq_some_iff (short : row.length < limits.bound) {version : UInt8}
    {withPublic : Bool} {privateKey : Bytes} {opened : Opened} :
    (if version = 0 then
        if row.isEmpty then some (Opened.mk privateKey none) else none
      else if version = 1 ∧ withPublic then
        (publicKey? row).bind fun found =>
          if found.2.isEmpty then some ⟨privateKey, some found.1⟩ else none
      else none) = some opened ↔
      privateKey = opened.privateKey ∧ version.toNat = opened.version ∧
        Ending opened.publicKey row ∧ (withPublic = false → opened.publicKey = none) := by
  obtain ⟨key, publicKey⟩ := opened
  constructor
  · intro found
    split at found
    · rename_i zero
      simp only [Option.ite_none_right_eq_some, List.isEmpty_iff] at found
      obtain ⟨rfl, same⟩ := found
      cases same
      exact ⟨rfl, by rw [zero]; rfl, .nothing, fun _ => rfl⟩
    · split at found
      · rename_i marked
        simp only [Option.bind_eq_some_iff, Prod.exists, Option.ite_none_right_eq_some,
          List.isEmpty_iff] at found
        obtain ⟨_, _, isKey, rfl, same⟩ := found
        cases same
        refine ⟨rfl, by rw [marked.1]; rfl, (publicKey?_eq_some_iff short).mp isKey, fun none => ?_⟩
        cases none.symm.trans marked.2
      · cases found
  · rintro ⟨rfl, isVersion, isEnding, accepted⟩
    cases publicKey with
    | none =>
      obtain rfl : version = 0 := UInt8.toNat_inj.mp isVersion
      cases isEnding
      rfl
    | some publicKey =>
      obtain rfl : version = 1 := UInt8.toNat_inj.mp isVersion
      have isAccepted : withPublic = true := by
        cases withPublic with
        | true => rfl
        | false => cases accepted rfl
      rw [if_neg (by decide), if_pos ⟨rfl, isAccepted⟩, (publicKey?_eq_some_iff short).mpr isEnding]
      rfl

/-- An envelope is opened exactly if it is written for the algorithm, with a public key in it only
where one is accepted. -/
theorem open?_eq_some_iff {algorithm der : Bytes} {withPublic : Bool} {opened : Opened} :
    open? algorithm withPublic der = some opened ↔
      Envelope algorithm opened der ∧ (withPublic = false → opened.publicKey = none) := by
  unfold open? Envelope
  simp only [Option.bind_eq_bind, Option.bind_eq_some_iff, Prod.exists, isSequence_iff,
    readSmall?_iff, Option.bind_none, Option.ite_none_left_eq_some, ne_eq, Classical.not_not]
  constructor
  · rintro ⟨row, isSequence, version, behind, same, _, later, isAlgorithm, rfl, privateKey, last,
      isKey, ending, skipped, found⟩
    have short := isSequence.2
    rw [same] at short
    obtain ⟨rfl, -⟩ := (read?_iff (by decide)).mp isAlgorithm
    obtain ⟨rfl, -⟩ := (read?_iff (by decide)).mp isKey
    obtain ⟨attributes, rfl, isAttributes⟩ := exists_of_skipAttributes? skipped
    have endingShort : ending.length < limits.bound := by
      simp only [← List.append_assoc] at short
      exact short_of_append short
    obtain ⟨rfl, isVersion, isEnding, accepted⟩ := (close_eq_some_iff endingShort).mp found
    rw [isVersion] at same
    exact ⟨⟨row, attributes, ending, isSequence, same, isAttributes, isEnding⟩, accepted⟩
  · rintro ⟨⟨row, attributes, ending, isSequence, same, isAttributes, isEnding⟩, accepted⟩
    have short := isSequence.2
    rw [same] at short
    have algorithmShort := short_of_append short
    have keyShort := short_of_append algorithmShort
    have attributesShort := short_of_append keyShort
    obtain ⟨version, isVersion⟩ : ∃ version : UInt8, version.toNat = opened.version := by
      rw [Opened.version]
      split
      · exact ⟨0, rfl⟩
      · exact ⟨1, rfl⟩
    refine ⟨row, isSequence, version, _, isVersion ▸ same, algorithm, _,
      (read?_iff_of_short algorithmShort (by decide)).mpr rfl, rfl, opened.privateKey, _,
      (read?_iff_of_short keyShort (by decide)).mpr rfl, ending,
      skipAttributes?_append isAttributes isEnding attributesShort, ?_⟩
    exact (close_eq_some_iff (short_of_append attributesShort)).mpr
      ⟨rfl, isVersion, isEnding, accepted⟩

/-- An envelope names one algorithm. -/
theorem Envelope.algorithm_unique {algorithm other der : Bytes} {opened openedOther : Opened}
    (envelope : Envelope algorithm opened der)
    (envelopeOther : Envelope other openedOther der) : algorithm = other := by
  obtain ⟨row, _, _, isSequence, same, -, -⟩ := envelope
  obtain ⟨_, _, _, isOther, sameOther, -, -⟩ := envelopeOther
  obtain rfl := isSequence.unique isOther
  have short := isSequence.2
  rw [same] at short
  rw [same, Der.wrapNatural_eq, Der.wrapNatural_eq] at sameOther
  have behind := (wrap_append_inj short (by decide) sameOther).2
  exact (wrap_append_inj (short_of_append short) (by decide) behind).1

/-- An envelope holds one private key. -/
theorem Envelope.unique {algorithm der : Bytes} {opened other : Opened}
    (envelope : Envelope algorithm opened der) (envelopeOther : Envelope algorithm other der) :
    opened = other := by
  have taken := (@open?_eq_some_iff algorithm der true opened).mpr ⟨envelope, nofun⟩
  have takenOther := (@open?_eq_some_iff algorithm der true other).mpr ⟨envelopeOther, nofun⟩
  exact Option.some.inj (taken.symm.trans takenOther)

/-- Where no public key is accepted, what is opened is a private key alone. -/
theorem exists_open?_iff {algorithm der : Bytes} {holds : Bytes → Prop} :
    (∃ opened, open? algorithm false der = some opened ∧ holds opened.privateKey) ↔
      ∃ inner, Envelope algorithm ⟨inner, none⟩ der ∧ holds inner := by
  constructor
  · rintro ⟨⟨inner, publicKey⟩, isOpened, held⟩
    obtain ⟨envelope, noPublic⟩ := open?_eq_some_iff.mp isOpened
    obtain rfl : publicKey = none := noPublic rfl
    exact ⟨inner, envelope, held⟩
  · rintro ⟨inner, envelope, held⟩
    exact ⟨_, open?_eq_some_iff.mpr ⟨envelope, fun _ => rfl⟩, held⟩

end PluginSupport.Pkcs8
