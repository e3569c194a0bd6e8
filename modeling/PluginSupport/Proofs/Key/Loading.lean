import PluginSupport.Key.Loaded
import PluginSupport.Proofs.Key.Rsa

/-!
# Private keys that a file holds

`LoadedKey.Holds` says which private key the contents of a key file are, by how private keys are
written. The format of the file says which forms there are: PKCS#1 for RSA keys, SEC1 for keys on a
curve, and PKCS#8 envelopes, which name the algorithm of the key.

Main result: `LoadedKey.ofFile?_eq_some_iff`. No file holds two keys (`LoadedKey.Holds.unique`), so
the order in which readers are tried does not matter.
-/
namespace PluginSupport

open Utf8 (Bytes)
open Der (wrap wrapNatural wrapBitString octetStringTag markTag)
open Pkcs8 (IsSequence Envelope)

/-! ## Keys on a curve -/

namespace Ecdsa

/-- Whether these bytes name the curve of a key, which need not be named. -/
inductive CurveName (group : Group) : Bytes → Prop
  | absent : CurveName group []
  | present : CurveName group (wrap (markTag 0) group.oid)

/-- Whether these bytes are the private key in SEC1 form: its number, which is below the order of
the curve, and the public key that belongs to it. -/
def Written (key : PrivateKey) (der : Bytes) : Prop :=
  ∃ secret name, 0 < secret ∧ secret < key.group.curve.order ∧
    key.publicKey = key.group.curve.publicKey secret ∧ CurveName key.group name ∧
    IsSequence der (wrapNatural 1 ++
      (wrap octetStringTag (Der.fixedWidth key.group.curve.width secret) ++
        (name ++ wrap (markTag 1) (wrapBitString key.publicKey))))

variable {group : Group} {row rest der : Bytes}

theorem order_le (group : Group) : group.curve.order ≤ 256 ^ group.curve.width := by
  cases group <;> decide +kernel

theorem width_injective {group other : Group} (same : group.curve.width = other.curve.width) :
    group = other := by
  cases group <;> cases other <;> first | rfl | cases same

theorem exists_of_skipCurveName? (taken : skipCurveName? group row = some rest) :
    ∃ name, row = name ++ rest ∧ CurveName group name := by
  rw [skipCurveName?] at taken
  split at taken
  · simp only [Option.bind_eq_bind, Option.bind_eq_some_iff, Prod.exists,
      Option.ite_none_right_eq_some, Option.some.injEq] at taken
    obtain ⟨_, _, isName, rfl, rfl⟩ := taken
    exact ⟨_, ((Pkcs8.read?_iff (by decide)).mp isName).1, .present⟩
  · cases taken
    exact ⟨[], rfl, .absent⟩

theorem skipCurveName?_append {name contents : Bytes} (isName : CurveName group name)
    (short : (name ++ wrap (markTag 1) contents).length < Pkcs8.limits.bound) :
    skipCurveName? group (name ++ wrap (markTag 1) contents) =
      some (wrap (markTag 1) contents) := by
  rw [skipCurveName?]
  cases isName with
  | absent => rfl
  | present =>
    rw [Der.startsWith_wrap, if_pos (by decide)]
    simp only [(Pkcs8.read?_iff_of_short short (by decide)).mpr rfl, Option.bind_eq_bind,
      Option.bind_some, if_true]

/-- A number below the order of a curve makes a key there, together with its public key. -/
theorem make?_eq_some_iff {secretBytes publicKey : Bytes} {key : PrivateKey} :
    make? group secretBytes publicKey = some key ↔ key.group = group ∧ key.publicKey = publicKey ∧
      ∃ secret, 0 < secret ∧ secret < group.curve.order ∧
        publicKey = group.curve.publicKey secret ∧
        secretBytes = Der.fixedWidth group.curve.width secret := by
  obtain ⟨keyGroup, keyPublic⟩ := key
  rw [make?]
  constructor
  · intro made
    split at made
    · rename_i fits
      obtain ⟨width, positive, below, belongs⟩ := fits
      cases made
      exact ⟨rfl, rfl, _, positive, below, belongs, by rw [← width, Der.fixedWidth_number]⟩
    · cases made
  · rintro ⟨rfl, rfl, secret, positive, below, belongs, rfl⟩
    have value : Der.number (Der.fixedWidth keyGroup.curve.width secret) = secret := by
      rw [Der.number_fixedWidth]
      exact Nat.mod_eq_of_lt (Nat.lt_of_lt_of_le below (order_le keyGroup))
    simp only [value]
    exact if_pos ⟨Der.length_fixedWidth _ _, positive, below, belongs⟩

theorem readSec1?_eq_some_iff {key : PrivateKey} :
    readSec1? group der = some key ↔ key.group = group ∧ Written key der := by
  unfold readSec1? Written
  simp only [Option.bind_eq_bind, Option.bind_eq_some_iff, Prod.exists, Pkcs8.isSequence_iff,
    Pkcs8.readSmall?_iff, Option.bind_none, Option.ite_none_left_eq_some, ne_eq,
    Classical.not_not]
  constructor
  · rintro ⟨row, isSequence, _, _, rfl, rfl, secretBytes, _, isSecret, last, skipped, marked,
      isMarked, publicKey, behind, isPublic, made⟩
    have short := isSequence.2
    obtain ⟨rfl, -⟩ := (Pkcs8.read?_iff (by decide)).mp isSecret
    obtain ⟨name, rfl, isName⟩ := exists_of_skipCurveName? skipped
    have markedShort : last.length < Pkcs8.limits.bound := by
      simp only [← List.append_assoc] at short
      exact Pkcs8.short_of_append short
    obtain rfl := (Pkcs8.readOnly?_iff_of_short markedShort (by decide)).mp isMarked
    split at made
    · rename_i whole
      cases whole
      have isBits := (Pkcs8.readBitString?_iff_alone (Pkcs8.short_of_wrap markedShort)).mp isPublic
      obtain ⟨rfl, rfl, secret, positive, below, belongs, rfl⟩ := make?_eq_some_iff.mp made
      rw [isBits] at isSequence
      exact ⟨rfl, secret, name, positive, below, belongs, isName, isSequence⟩
    · cases made
  · rintro ⟨rfl, secret, name, positive, below, belongs, isName, isSequence⟩
    have secretShort := Pkcs8.short_of_append isSequence.2
    have nameShort := Pkcs8.short_of_append secretShort
    have markedShort := Pkcs8.short_of_append nameShort
    have bits := (Pkcs8.readBitString?_iff_alone (Pkcs8.short_of_wrap markedShort)).mpr rfl
    exact ⟨_, isSequence, 1, _, rfl, rfl, _, _,
      (Pkcs8.read?_iff_of_short secretShort (by decide)).mpr rfl, _,
      skipCurveName?_append isName nameShort, _,
      (Pkcs8.readOnly?_iff_of_short markedShort (by decide)).mpr rfl, key.publicKey, [],
      bits, make?_eq_some_iff.mpr ⟨rfl, rfl, secret, positive, below, belongs, rfl⟩⟩

/-- A key in SEC1 form tells its curve by the width of its number. -/
theorem Written.unique {key other : PrivateKey} (written : Written key der)
    (writtenOther : Written other der) : key = other := by
  have sameGroup : key.group = other.group := by
    obtain ⟨_, _, -, -, -, -, isSequence⟩ := written
    obtain ⟨_, _, -, -, -, -, isOther⟩ := writtenOther
    have same := List.append_cancel_left (isSequence.unique isOther)
    have width := (Pkcs8.wrap_append_inj (Pkcs8.short_of_append isSequence.2) (by decide) same).1
    have lengths := congrArg List.length width
    rw [Der.length_fixedWidth, Der.length_fixedWidth] at lengths
    exact width_injective lengths
  exact Option.some.inj ((readSec1?_eq_some_iff.mpr ⟨rfl, written⟩).symm.trans
    (readSec1?_eq_some_iff.mpr ⟨sameGroup.symm, writtenOther⟩))

theorem readPkcs8?_eq_some_iff {key : PrivateKey} :
    readPkcs8? group der = some key ↔ ∃ inner, Envelope group.algorithm ⟨inner, none⟩ der ∧
      key.group = group ∧ Written key inner := by
  rw [readPkcs8?, Option.bind_eq_bind, Option.bind_eq_some_iff]
  simp only [readSec1?_eq_some_iff]
  exact @Pkcs8.exists_open?_iff _ _ fun inner => key.group = group ∧ Written key inner

end Ecdsa

/-! ## Ed25519 keys -/

namespace Ed25519

/-- Whether these bytes are an envelope with the seed of a private key in it. Where the public key
is there too, it must be the one that belongs to the seed. -/
def Written (key : PrivateKey) (der : Bytes) : Prop :=
  ∃ publicKey, Envelope algorithm ⟨wrap octetStringTag key.seed, publicKey⟩ der ∧
    key.seed.length = 32 ∧ (publicKey = none ∨ publicKey = some key.publicKey)

theorem agrees_iff {key : PrivateKey} {publicKey : Option Bytes} :
    key.agrees publicKey = true ↔ publicKey = none ∨ publicKey = some key.publicKey := by
  cases publicKey <;> simp [PrivateKey.agrees]

theorem readPkcs8?_eq_some_iff {key : PrivateKey} {der : Bytes} :
    readPkcs8? der = some key ↔ Written key der := by
  obtain ⟨seed⟩ := key
  unfold readPkcs8? Written
  simp only [Option.bind_eq_bind, Option.bind_eq_some_iff, Pkcs8.open?_eq_some_iff,
    Der.readOnly?_eq_some_iff Pkcs8.limits_sound (by decide : octetStringTag &&& 0x1F ≠ 0x1F),
    Option.ite_none_right_eq_some, agrees_iff]
  constructor
  · rintro ⟨⟨_, publicKey⟩, ⟨envelope, -⟩, _, ⟨rfl, -⟩, ⟨width, agrees⟩, same⟩
    cases same
    exact ⟨publicKey, envelope, width, agrees⟩
  · rintro ⟨publicKey, envelope, width, agrees⟩
    have short : seed.length < Pkcs8.limits.bound := by
      rw [width]
      decide
    exact ⟨_, ⟨envelope, nofun⟩, seed, ⟨rfl, short⟩, ⟨width, agrees⟩, rfl⟩

theorem Written.unique {key other : PrivateKey} {der : Bytes} (written : Written key der)
    (writtenOther : Written other der) : key = other :=
  Option.some.inj ((readPkcs8?_eq_some_iff.mpr written).symm.trans
    (readPkcs8?_eq_some_iff.mpr writtenOther))

end Ed25519

/-! ## Keys of a file -/

namespace LoadedKey

/-- `Holds file key`: the contents of the file are this private key, in a form that the format of
the file allows. -/
inductive Holds : Pem.KeyFile → LoadedKey → Prop
  | pkcs1 {der : Bytes} {key : Rsa.PrivateKey} (written : Rsa.Written key der) :
      Holds ⟨.pkcs1, der⟩ (.rsa key)
  | sec1 {der : Bytes} {key : Ecdsa.PrivateKey} (written : Ecdsa.Written key der) :
      Holds ⟨.sec1, der⟩ (.ecdsa key)
  | rsa {der inner : Bytes} {key : Rsa.PrivateKey}
      (envelope : Envelope Rsa.algorithm ⟨inner, none⟩ der) (written : Rsa.Written key inner) :
      Holds ⟨.pkcs8, der⟩ (.rsa key)
  | ecdsa {der inner : Bytes} {key : Ecdsa.PrivateKey}
      (envelope : Envelope key.group.algorithm ⟨inner, none⟩ der)
      (written : Ecdsa.Written key inner) : Holds ⟨.pkcs8, der⟩ (.ecdsa key)
  | ed25519 {der : Bytes} {key : Ed25519.PrivateKey} (written : Ed25519.Written key der) :
      Holds ⟨.pkcs8, der⟩ (.ed25519 key)

variable {file : Pem.KeyFile} {key : LoadedKey}

/-- A key in an envelope has the algorithm that the envelope names. -/
theorem Holds.envelope {der : Bytes} (holds : Holds ⟨.pkcs8, der⟩ key) :
    ∃ opened, Envelope key.algorithm opened der := by
  cases holds with
  | rsa envelope _ | ecdsa envelope _ => exact ⟨_, envelope⟩
  | ed25519 written =>
    obtain ⟨_, envelope, -⟩ := written
    exact ⟨_, envelope⟩

theorem exists_reader_iff :
    (∃ reader ∈ readers file.format, reader file.der = some key) ↔ Holds file key := by
  obtain ⟨format, der⟩ := file
  cases format with
  | pkcs1 =>
    simp only [readers, List.mem_singleton, exists_eq_left, Option.map_eq_some_iff,
      Rsa.readPkcs1?_eq_some_iff]
    constructor
    · rintro ⟨key, written, rfl⟩
      exact .pkcs1 written
    · intro holds
      cases holds with
      | pkcs1 written => exact ⟨_, written, rfl⟩
  | sec1 =>
    simp only [readers, List.mem_cons, List.not_mem_nil, or_false, exists_eq_or_imp,
      exists_eq_left, Option.map_eq_some_iff, Ecdsa.readSec1?_eq_some_iff]
    constructor
    · rintro (⟨key, ⟨-, written⟩, rfl⟩ | ⟨key, ⟨-, written⟩, rfl⟩) <;> exact .sec1 written
    · intro holds
      cases holds with
      | @sec1 _ key written =>
        cases group : key.group with
        | p256 => exact .inl ⟨key, ⟨group, written⟩, rfl⟩
        | p384 => exact .inr ⟨key, ⟨group, written⟩, rfl⟩
  | pkcs8 =>
    simp only [readers, List.mem_cons, List.not_mem_nil, or_false, exists_eq_or_imp,
      exists_eq_left, Option.map_eq_some_iff, Rsa.readPkcs8?_eq_some_iff,
      Ecdsa.readPkcs8?_eq_some_iff, Ed25519.readPkcs8?_eq_some_iff]
    constructor
    · rintro (⟨key, ⟨inner, envelope, written⟩, rfl⟩ |
        ⟨key, ⟨inner, envelope, isGroup, written⟩, rfl⟩ |
        ⟨key, ⟨inner, envelope, isGroup, written⟩, rfl⟩ | ⟨key, written, rfl⟩)
      · exact .rsa envelope written
      · exact .ecdsa (isGroup ▸ envelope) written
      · exact .ecdsa (isGroup ▸ envelope) written
      · exact .ed25519 written
    · intro holds
      cases holds with
      | rsa envelope written => exact .inl ⟨_, ⟨_, envelope, written⟩, rfl⟩
      | @ecdsa _ inner key envelope written =>
        cases group : key.group with
        | p256 => exact .inr (.inl ⟨key, ⟨inner, group ▸ envelope, group, written⟩, rfl⟩)
        | p384 => exact .inr (.inr (.inl ⟨key, ⟨inner, group ▸ envelope, group, written⟩, rfl⟩))
      | ed25519 written => exact .inr (.inr (.inr ⟨_, written, rfl⟩))

/-- Identifiers tell the algorithms apart. -/
theorem algorithms_apart (group : Ecdsa.Group) :
    Rsa.algorithm ≠ group.algorithm ∧ Ed25519.algorithm ≠ group.algorithm ∧
      Rsa.algorithm ≠ Ed25519.algorithm := by
  cases group <;> decide

/-- A file holds one key at most. -/
theorem Holds.unique {other : LoadedKey} (holds : Holds file key) (holdsOther : Holds file other) :
    key = other := by
  obtain ⟨format, der⟩ := file
  cases format with
  | pkcs1 =>
    cases holds with
    | pkcs1 written =>
      cases holdsOther with
      | pkcs1 writtenOther => rw [written.unique writtenOther]
  | sec1 =>
    cases holds with
    | sec1 written =>
      cases holdsOther with
      | sec1 writtenOther => rw [written.unique writtenOther]
  | pkcs8 =>
    -- Keys of different kinds would need two algorithms in one envelope.
    obtain ⟨_, isEnvelope⟩ := holds.envelope
    obtain ⟨_, isEnvelopeOther⟩ := holdsOther.envelope
    have same := isEnvelope.algorithm_unique isEnvelopeOther
    cases holds with
    | rsa envelope written =>
      cases holdsOther with
      | rsa envelopeOther writtenOther =>
        cases envelope.unique envelopeOther
        rw [written.unique writtenOther]
      | ecdsa => exact absurd same (algorithms_apart _).1
      | ed25519 => exact absurd same (algorithms_apart .p256).2.2
    | @ecdsa _ _ key envelope written =>
      cases holdsOther with
      | rsa => exact absurd same.symm (algorithms_apart _).1
      | @ecdsa _ _ other envelopeOther writtenOther =>
        have sameGroup : key.group.algorithm = other.group.algorithm := same
        rw [← sameGroup] at envelopeOther
        cases envelope.unique envelopeOther
        rw [written.unique writtenOther]
      | ed25519 => exact absurd same.symm (algorithms_apart _).2.1
    | ed25519 written =>
      cases holdsOther with
      | rsa => exact absurd same.symm (algorithms_apart .p256).2.2
      | ecdsa => exact absurd same (algorithms_apart _).2.1
      | ed25519 writtenOther => rw [written.unique writtenOther]

/-- A file is loaded exactly as the key that it holds. -/
theorem ofFile?_eq_some_iff : ofFile? file = some key ↔ Holds file key := by
  have sound : ∀ {found}, ofFile? file = some found → Holds file found := fun loaded =>
    exists_reader_iff.mp (List.exists_of_findSome?_eq_some loaded)
  constructor
  · exact sound
  · intro holds
    -- Some reader accepts the file, and whichever is the first can only give the same key.
    obtain ⟨reader, member, accepts⟩ := exists_reader_iff.mpr holds
    have isLoaded : (ofFile? file).isSome = true :=
      List.findSome?_isSome_iff.mpr ⟨reader, member, by rw [accepts]; rfl⟩
    obtain ⟨found, loaded⟩ := Option.isSome_iff_exists.mp isLoaded
    rw [loaded, (sound loaded).unique holds]

end LoadedKey

end PluginSupport
