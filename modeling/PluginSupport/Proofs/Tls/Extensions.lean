import PluginSupport.Proofs.Der.Element
import PluginSupport.Tls.Certificate

/-!
# Extensions of certificates

How extensions are written behind the public key information of a certificate (`Certificate.Tail`),
and when they are in order (`Certificate.Admissible`), without regard to how they are read.

Main results: `Certificate.readTail_eq_ok_iff`, and `Certificate.remembered_iff`, what is remembered
of extensions that are read for a trust anchor.
-/
namespace PluginSupport

theorem bind_eq_ok_iff {ε α β : Type} {first : Except ε α} {next : α → Except ε β} {result : β} :
    first >>= next = .ok result ↔ ∃ a, first = .ok a ∧ next a = .ok result := by
  cases first with
  | error error =>
    constructor
    · intro impossible
      cases impossible
    · rintro ⟨a, impossible, -⟩
      cases impossible
  | ok a =>
    constructor
    · exact fun done => ⟨a, rfl, done⟩
    · rintro ⟨_, same, done⟩
      cases same
      exact done

namespace Certificate

open Utf8 (Bytes)
open Der (wrap sequenceTag integerTag bitStringTag octetStringTag oidTag booleanTag markTag)

/-! ## Extensions as they are written -/

/-- Whether the fields of an extension are written as these bytes. An extension that is not critical
may do without its mark. -/
def Extension.Fields (extension : Extension) (bytes : Bytes) : Prop :=
  ∃ mark, bytes = wrap oidTag extension.id ++ (mark ++ wrap octetStringTag extension.value) ∧
    (mark = wrap booleanTag [if extension.critical then 0xff else 0] ∨
      mark = [] ∧ extension.critical = false)

/-- `ExtensionRow row extensions`: the extensions are written one after another. -/
inductive ExtensionRow : Bytes → List Extension → Prop
  | nil : ExtensionRow [] []
  | cons {extension : Extension} {fields rest : Bytes} {extensions : List Extension}
      (isFields : extension.Fields fields) (more : ExtensionRow rest extensions) :
      ExtensionRow (wrap sequenceTag fields ++ rest) (extension :: extensions)

/-- Whether the extensions are written behind the public key information: all together in their
marks, or nothing at all if there are none. -/
def Tail (bytes : Bytes) (extensions : List Extension) : Prop :=
  (bytes = [] ∧ extensions = []) ∨
    ∃ row, bytes = wrap (markTag 3) (wrap sequenceTag row) ∧ ExtensionRow row extensions

/-- Whether extensions are in order: known ones occur once each, and the value of a known one, other
than key usage, is a sequence. -/
structure Admissible (extensions : List Extension) : Prop where
  distinct : (extensions.filterMap Extension.known?).Nodup
  sequences : ∀ extension ∈ extensions, ∀ n, extension.known? = some n → n ≠ keyUsage →
    ∃ contents, extension.value = wrap sequenceTag contents

/-- Whether these are the name constraints among extensions, if there are any. -/
def Constrain (extensions : List Extension) (constraints : Option Bytes) : Prop :=
  ∀ contents, constraints = some contents ↔ ∃ extension ∈ extensions,
    extension.known? = some nameConstraints ∧ extension.value = wrap sequenceTag contents

/-! ## Reading steps -/

theorem limits_sound : limits.Sound :=
  ⟨by decide, by decide⟩

theorem orBad_eq_ok_iff {α : Type} {read? : Option α} {a : α} :
    orBad read? = .ok a ↔ read? = some a := by
  cases read? <;> simp [orBad]

variable {row rest contents : Bytes} {tag : UInt8}

theorem read?_iff (plain : tag &&& 0x1F ≠ 0x1F) :
    Der.read? limits tag row = some (contents, rest) ↔
      row = wrap tag contents ++ rest ∧ contents.length < limits.bound :=
  Der.read?_eq_some_iff limits_sound plain

theorem readOnly?_iff (plain : tag &&& 0x1F ≠ 0x1F) :
    Der.readOnly? limits tag row = some contents ↔
      row = wrap tag contents ∧ contents.length < limits.bound :=
  Der.readOnly?_eq_some_iff limits_sound plain

theorem sequence_eq_ok_iff :
    sequence row = .ok (contents, rest) ↔
      row = wrap sequenceTag contents ++ rest ∧ contents.length < limits.bound := by
  rw [sequence, orBad_eq_ok_iff, read?_iff (by decide)]

theorem readBitString?_iff :
    Der.readBitString? limits bitStringTag row = some (contents, rest) ↔
      row = wrap bitStringTag (0 :: contents) ++ rest ∧
        (0 :: contents : Bytes).length < limits.bound :=
  Der.readBitString?_eq_some_iff limits_sound (by decide)

theorem atEnd_eq_ok_iff {done : Unit} : atEnd row = .ok done ↔ row = [] := by
  cases row <;> simp [atEnd]

/-! ## One extension -/

/-- The mark of an extension is read up to its value. -/
theorem readCritical_append {critical : Bool} {mark : Bytes} (value : Bytes)
    (isMark : mark = wrap booleanTag [if critical then 0xff else 0] ∨
      mark = [] ∧ critical = false) :
    readCritical (mark ++ wrap octetStringTag value) =
      .ok (critical, wrap octetStringTag value) := by
  rcases isMark with rfl | ⟨rfl, rfl⟩
  · have short : ([if critical then 0xff else 0] : Bytes).length < limits.bound := by
      show 1 < 0xffff
      decide
    have taken := Der.read?_wrap limits_sound (by decide : booleanTag &&& 0x1F ≠ 0x1F) short
      (wrap octetStringTag value)
    rw [readCritical, Der.startsWith_wrap, if_pos (by decide), taken]
    cases critical <;> rfl
  · have starts := @Der.startsWith_wrap booleanTag octetStringTag value []
    rw [List.append_nil] at starts
    rw [List.nil_append, readCritical, starts, if_neg (by decide)]

theorem exists_of_readCritical {critical : Bool} (taken : readCritical row = .ok (critical, rest)) :
    ∃ mark, row = mark ++ rest ∧ (mark = wrap booleanTag [if critical then 0xff else 0] ∨
      mark = [] ∧ critical = false) := by
  unfold readCritical at taken
  split at taken
  · split at taken
    · rename_i behind isMark
      cases taken
      exact ⟨_, ((read?_iff (by decide)).mp isMark).1, .inl rfl⟩
    · rename_i behind isMark
      cases taken
      exact ⟨_, ((read?_iff (by decide)).mp isMark).1, .inl rfl⟩
    · cases taken
  · cases taken
    exact ⟨[], rfl, .inr ⟨rfl, rfl⟩⟩

theorem readExtension_eq_ok_iff {extension : Extension} (short : row.length < limits.bound) :
    readExtension row = .ok (extension, []) ↔ extension.Fields row := by
  obtain ⟨id, critical, value⟩ := extension
  unfold readExtension Extension.Fields
  simp only [bind_eq_ok_iff, orBad_eq_ok_iff, Prod.exists,
    read?_iff (by decide : oidTag &&& 0x1F ≠ 0x1F),
    read?_iff (by decide : octetStringTag &&& 0x1F ≠ 0x1F)]
  constructor
  · rintro ⟨_, _, ⟨rfl, -⟩, _, _, marked, _, _, ⟨rfl, -⟩, same⟩
    cases same
    obtain ⟨mark, rfl, isMark⟩ := exists_of_readCritical marked
    rw [List.append_nil]
    exact ⟨mark, rfl, isMark⟩
  · rintro ⟨mark, rfl, isMark⟩
    have idShorter := Der.length_lt_wrap oidTag id
    have valueShorter := Der.length_lt_wrap octetStringTag value
    rw [List.length_append, List.length_append] at short
    exact ⟨id, _, ⟨rfl, by omega⟩, critical, _, readCritical_append value isMark, value, [],
      ⟨(List.append_nil _).symm, by omega⟩, rfl⟩

/-- What an extension adds to those met before. -/
theorem remember_eq_ok_iff {met known : Known} {extension : Extension} :
    remember .trusted met extension = .ok known ↔
      (extension.known? = none ∧ known = met) ∨
        ∃ n contents, extension.known? = some n ∧ met.lookup n = none ∧
          contents? n extension.value = some contents ∧ known = (n, contents) :: met := by
  rw [remember]
  split
  · rename_i unknown
    rw [if_neg fun critical => by cases critical.2]
    constructor
    · intro same
      exact .inl ⟨unknown, (Except.ok.inj same).symm⟩
    · rintro (⟨-, rfl⟩ | ⟨n, _, isKnown, -⟩)
      · rfl
      · exact absurd (unknown.symm.trans isKnown) nofun
  · rename_i n isKnown
    split
    · rename_i isMet
      refine iff_of_false nofun ?_
      rintro (⟨unknown, -⟩ | ⟨m, _, sameKnown, notMet, -⟩)
      · exact absurd (unknown.symm.trans isKnown) nofun
      · obtain rfl : n = m := Option.some.inj (isKnown.symm.trans sameKnown)
        rw [notMet] at isMet
        cases isMet
    · rename_i notMet
      rw [Bool.not_eq_true, Option.isSome_eq_false_iff, Option.isNone_iff_eq_none] at notMet
      simp only [bind_eq_ok_iff, orBad_eq_ok_iff]
      constructor
      · rintro ⟨contents, isValue, same⟩
        exact .inr ⟨n, contents, isKnown, notMet, isValue, (Except.ok.inj same).symm⟩
      · rintro (⟨unknown, -⟩ | ⟨m, contents, sameKnown, -, isValue, rfl⟩)
        · exact absurd (unknown.symm.trans isKnown) nofun
        · obtain rfl : n = m := Option.some.inj (isKnown.symm.trans sameKnown)
          exact ⟨contents, isValue, rfl⟩

/-! ## Rows of extensions -/

theorem extensionRow_cons_iff {b : UInt8} {row : Bytes} {extensions : List Extension} :
    ExtensionRow (b :: row) extensions ↔ ∃ extension fields rest more,
      b :: row = wrap sequenceTag fields ++ rest ∧ extensions = extension :: more ∧
        extension.Fields fields ∧ ExtensionRow rest more := by
  constructor
  · intro isRow
    generalize same : b :: row = bytes at isRow
    cases isRow with
    | nil => cases same
    | cons isFields more => exact ⟨_, _, _, _, rfl, rfl, isFields, more⟩
  · rintro ⟨extension, fields, rest, more, same, rfl, isFields, isRest⟩
    rw [same]
    exact .cons isFields isRest

theorem extensionRow_nil_iff {extensions : List Extension} :
    ExtensionRow [] extensions ↔ extensions = [] := by
  constructor
  · intro isRow
    generalize same : ([] : Bytes) = bytes at isRow
    cases isRow with
    | nil => rfl
    | cons => cases same
  · rintro rfl
    exact .nil

/-- By induction on the fuel, of which every extension uses less than it has bytes. -/
theorem readExtensions_eq_ok_iff {met known : Known} {fuel : Nat} (enough : row.length ≤ fuel)
    (short : row.length < limits.bound) :
    readExtensions .trusted met fuel row = .ok known ↔ ∃ extensions,
      ExtensionRow row extensions ∧ extensions.foldlM (remember .trusted) met = .ok known := by
  induction fuel generalizing row met with
  | zero =>
    obtain rfl : row = [] := List.length_eq_zero_iff.mp (Nat.le_zero.mp enough)
    simp only [extensionRow_nil_iff, exists_eq_left]
    exact Iff.rfl
  | succ fuel ih =>
    cases row with
    | nil =>
      simp only [extensionRow_nil_iff, exists_eq_left]
      exact Iff.rfl
    | cons b row =>
      unfold readExtensions
      simp only [bind_eq_ok_iff, Prod.exists, sequence_eq_ok_iff, atEnd_eq_ok_iff,
        extensionRow_cons_iff]
      have parts : ∀ {fields rest : Bytes}, b :: row = wrap sequenceTag fields ++ rest →
          fields.length < limits.bound ∧ rest.length ≤ fuel ∧ rest.length < limits.bound := by
        intro fields rest same
        have lengths := congrArg List.length same
        have shorter := Der.length_lt_wrap sequenceTag fields
        rw [List.length_append] at lengths
        omega
      constructor
      · rintro ⟨fields, rest, ⟨same, -⟩, extension, _, isFields, met', remembered, _, rfl, later⟩
        obtain ⟨fieldsShort, restFits, restShort⟩ := parts same
        obtain ⟨more, isRest, folded⟩ := (ih restFits restShort).mp later
        refine ⟨_, ⟨extension, fields, rest, more, same, rfl,
          (readExtension_eq_ok_iff fieldsShort).mp isFields, isRest⟩, ?_⟩
        rw [List.foldlM_cons, remembered]
        exact folded
      · rintro ⟨_, ⟨extension, fields, rest, more, same, rfl, isFields, isRest⟩, folded⟩
        obtain ⟨fieldsShort, restFits, restShort⟩ := parts same
        rw [List.foldlM_cons, bind_eq_ok_iff] at folded
        obtain ⟨met', remembered, folded⟩ := folded
        exact ⟨fields, rest, ⟨same, fieldsShort⟩, extension, [],
          (readExtension_eq_ok_iff fieldsShort).mpr isFields, met', remembered, (), rfl,
          (ih restFits restShort).mpr ⟨more, isRest, folded⟩⟩

theorem readTail_eq_ok_iff {known : Known} (short : row.length < limits.bound) :
    readTail .trusted row = .ok known ↔ ∃ extensions,
      Tail row extensions ∧ extensions.foldlM (remember .trusted) [] = .ok known := by
  unfold readTail Tail
  cases row with
  | nil =>
    have nothing : ∀ row, ([] : Bytes) ≠ wrap (markTag 3) row := fun row => nofun
    simp only [List.isEmpty_nil, if_true, nothing, false_and, exists_false, or_false, true_and,
      exists_eq_left]
    exact Iff.rfl
  | cons b row =>
    simp only [List.isEmpty_cons, reduceCtorEq, false_and, false_or, if_false, bind_eq_ok_iff,
      Prod.exists, sequence_eq_ok_iff, atEnd_eq_ok_iff, orBad_eq_ok_iff,
      read?_iff (by decide : markTag 3 &&& 0x1F ≠ 0x1F)]
    constructor
    · rintro ⟨marked, _, ⟨same, -⟩, row, _, ⟨rfl, rowShort⟩, _, taken, _, rfl, _, rfl, found⟩
      cases found
      obtain ⟨extensions, isRow, folded⟩ :=
        (readExtensions_eq_ok_iff (Nat.le_refl _) rowShort).mp taken
      rw [List.append_nil, List.append_nil] at same
      exact ⟨extensions, ⟨row, same, isRow⟩, folded⟩
    · rintro ⟨extensions, ⟨inner, same, isRow⟩, folded⟩
      have lengths := congrArg List.length same
      have marked := Der.length_lt_wrap (markTag 3) (wrap sequenceTag inner)
      have shorter := Der.length_lt_wrap sequenceTag inner
      have innerShort : inner.length < limits.bound := by omega
      exact ⟨_, [], ⟨by rw [same, List.append_nil], by omega⟩, inner, [],
        ⟨(List.append_nil _).symm, innerShort⟩, known,
        (readExtensions_eq_ok_iff (Nat.le_refl _) innerShort).mpr ⟨extensions, isRow, folded⟩,
        (), rfl, (), rfl, rfl⟩

/-! ## Known extensions -/

theorem contents?_eq_some_iff {n : UInt8} {value contents : Bytes}
    (short : value.length < limits.bound) :
    contents? n value = some contents ↔
      (n = keyUsage ∧ contents = value) ∨ n ≠ keyUsage ∧ value = wrap sequenceTag contents := by
  rw [contents?]
  split
  · rename_i usage
    simp [usage, eq_comm]
  · rename_i other
    rw [readOnly?_iff (by decide)]
    have shorter := Der.length_lt_wrap sequenceTag contents
    constructor
    · rintro ⟨same, -⟩
      exact .inr ⟨other, same⟩
    · rintro (⟨usage, -⟩ | ⟨-, rfl⟩)
      · exact absurd usage other
      · exact ⟨rfl, by omega⟩

/-- What is looked up behind a new entry: the entry, or what was met before. -/
theorem lookup_cons_eq_some_iff {n m : UInt8} {met : Known} {contents found : Bytes}
    (new : met.lookup n = none) :
    ((n, contents) :: met).lookup m = some found ↔
      (n = m ∧ contents = found) ∨ met.lookup m = some found := by
  rw [List.lookup_cons]
  by_cases same : m = n
  · subst same
    simp [new]
  · have different : (m == n) = false := by simpa using same
    simp [different, Ne.symm same]

theorem lookup_cons_eq_none_iff {n m : UInt8} {met : Known} :
    ((n, contents) :: met).lookup m = none ↔ n ≠ m ∧ met.lookup m = none := by
  rw [List.lookup_cons]
  by_cases same : m = n
  · simp [same]
  · have different : (m == n) = false := by simpa using same
    simp only [different, ne_eq, Ne.symm same, not_false_eq_true, true_and]

/-- Extensions are remembered if known ones are new and have contents. By induction on the
extensions, behind any that were met before. -/
theorem exists_foldlM_remember_iff {extensions : List Extension} {met : Known} :
    (∃ known, extensions.foldlM (remember .trusted) met = .ok known) ↔
      (extensions.filterMap Extension.known?).Nodup ∧
        (∀ n ∈ extensions.filterMap Extension.known?, met.lookup n = none) ∧
        ∀ extension ∈ extensions, ∀ n, extension.known? = some n →
          ∃ contents, contents? n extension.value = some contents := by
  induction extensions generalizing met with
  | nil => exact iff_of_true ⟨met, rfl⟩ ⟨List.nodup_nil, nofun, nofun⟩
  | cons extension extensions ih =>
    have step : (∃ known, (extension :: extensions).foldlM (remember .trusted) met = .ok known) ↔
        ∃ met', remember .trusted met extension = .ok met' ∧
          ∃ known, extensions.foldlM (remember .trusted) met' = .ok known := by
      simp only [List.foldlM_cons, bind_eq_ok_iff]
      exact ⟨fun ⟨known, met', first, later⟩ => ⟨met', first, known, later⟩,
        fun ⟨met', first, known, later⟩ => ⟨known, met', first, later⟩⟩
    simp only [step, ih, remember_eq_ok_iff, List.forall_mem_cons]
    cases isKnown : extension.known? with
    | none =>
      rw [List.filterMap_cons_none isKnown]
      constructor
      · rintro ⟨_, ⟨-, rfl⟩ | ⟨n, _, impossible, -⟩, distinct, fresh, contents⟩
        · exact ⟨distinct, fresh, nofun, contents⟩
        · cases impossible
      · rintro ⟨distinct, fresh, -, contents⟩
        exact ⟨met, .inl ⟨rfl, rfl⟩, distinct, fresh, contents⟩
    | some n =>
      rw [List.filterMap_cons_some isKnown, List.nodup_cons, List.forall_mem_cons]
      constructor
      · rintro ⟨_, ⟨impossible, -⟩ | ⟨m, found, same, new, hasContents, rfl⟩, distinct, fresh,
          contents⟩
        · cases impossible
        · obtain rfl := Option.some.inj same
          simp only [lookup_cons_eq_none_iff] at fresh
          refine ⟨⟨fun member => (fresh n member).1 rfl, distinct⟩,
            ⟨new, fun m member => (fresh m member).2⟩, ?_, contents⟩
          rintro _ ⟨⟩
          exact ⟨found, hasContents⟩
      · rintro ⟨⟨notMember, distinct⟩, ⟨new, fresh⟩, hasContents, contents⟩
        obtain ⟨found, isFound⟩ := hasContents n rfl
        refine ⟨(n, found) :: met, .inr ⟨n, found, rfl, new, isFound, rfl⟩, distinct, ?_, contents⟩
        intro m member
        rw [lookup_cons_eq_none_iff]
        exact ⟨fun same => notMember (same ▸ member), fresh m member⟩

theorem lookup_of_foldlM_remember {extensions : List Extension} {met known : Known}
    (remembered : extensions.foldlM (remember .trusted) met = .ok known) {m : UInt8}
    {found : Bytes} :
    known.lookup m = some found ↔ met.lookup m = some found ∨ ∃ extension ∈ extensions,
      extension.known? = some m ∧ contents? m extension.value = some found := by
  induction extensions generalizing met with
  | nil =>
    cases remembered
    simp
  | cons extension extensions ih =>
    rw [List.foldlM_cons, bind_eq_ok_iff] at remembered
    obtain ⟨met', first, later⟩ := remembered
    simp only [ih later, List.mem_cons, exists_eq_or_imp]
    rcases remember_eq_ok_iff.mp first with ⟨unknown, rfl⟩ | ⟨n, contents, isKnown, new, has, rfl⟩
    · simp [unknown]
    · rw [lookup_cons_eq_some_iff new, isKnown, Option.some.injEq, or_assoc, or_left_comm]
      have here : n = m ∧ contents = found ↔ n = m ∧ contents? m extension.value = some found := by
        constructor
        · rintro ⟨rfl, rfl⟩
          exact ⟨rfl, has⟩
        · rintro ⟨rfl, same⟩
          exact ⟨rfl, Option.some.inj (has.symm.trans same)⟩
      rw [here]

theorem ExtensionRow.value_short {extensions : List Extension} (isRow : ExtensionRow row extensions)
    (short : row.length < limits.bound) :
    ∀ extension ∈ extensions, extension.value.length < limits.bound := by
  induction isRow with
  | nil => nofun
  | @cons extension fields rest extensions isFields _ ih =>
    obtain ⟨mark, rfl, -⟩ := isFields
    rw [List.length_append] at short
    refine List.forall_mem_cons.mpr ⟨?_, ih (by omega)⟩
    have shorter := Der.length_lt_wrap octetStringTag extension.value
    have whole := Der.length_lt_wrap sequenceTag
      (wrap oidTag extension.id ++ (mark ++ wrap octetStringTag extension.value))
    rw [List.length_append, List.length_append] at whole
    omega

theorem Tail.value_short {extensions : List Extension} (isTail : Tail row extensions)
    (short : row.length < limits.bound) :
    ∀ extension ∈ extensions, extension.value.length < limits.bound := by
  rcases isTail with ⟨-, rfl⟩ | ⟨inner, rfl, isRow⟩
  · exact nofun
  · have marked := Der.length_lt_wrap (markTag 3) (wrap sequenceTag inner)
    have shorter := Der.length_lt_wrap sequenceTag inner
    exact isRow.value_short (by omega)

/-- Extensions are remembered if they are in order, and so are their name constraints. -/
theorem remembered_iff {extensions : List Extension}
    (short : ∀ extension ∈ extensions, extension.value.length < limits.bound)
    {constraints : Option Bytes} :
    (∃ known, extensions.foldlM (remember .trusted) [] = .ok known ∧
        known.lookup nameConstraints = constraints) ↔
      Admissible extensions ∧ Constrain extensions constraints := by
  have contents : ∀ extension ∈ extensions, ∀ n found, contents? n extension.value = some found ↔
      (n = keyUsage ∧ found = extension.value) ∨
        n ≠ keyUsage ∧ extension.value = wrap sequenceTag found :=
    fun extension member n found => contents?_eq_some_iff (short extension member)
  have admissible : (∃ known, extensions.foldlM (remember .trusted) [] = .ok known) ↔
      Admissible extensions := by
    rw [exists_foldlM_remember_iff]
    constructor
    · rintro ⟨distinct, -, has⟩
      refine ⟨distinct, fun extension member n isKnown other => ?_⟩
      obtain ⟨found, isFound⟩ := has extension member n isKnown
      rcases (contents extension member n found).mp isFound with ⟨usage, -⟩ | ⟨-, same⟩
      · exact absurd usage other
      · exact ⟨found, same⟩
    · rintro ⟨distinct, sequences⟩
      refine ⟨distinct, fun _ _ => rfl, fun extension member n isKnown => ?_⟩
      by_cases usage : n = keyUsage
      · exact ⟨_, (contents extension member n _).mpr (.inl ⟨usage, rfl⟩)⟩
      · obtain ⟨found, same⟩ := sequences extension member n isKnown usage
        exact ⟨found, (contents extension member n found).mpr (.inr ⟨usage, same⟩)⟩
  have constrains : ∀ {known : Known}, extensions.foldlM (remember .trusted) [] = .ok known →
      (known.lookup nameConstraints = constraints ↔ Constrain extensions constraints) := by
    intro known remembered
    have value : ∀ found, known.lookup nameConstraints = some found ↔ ∃ extension ∈ extensions,
        extension.known? = some nameConstraints ∧ extension.value = wrap sequenceTag found := by
      intro found
      rw [lookup_of_foldlM_remember remembered]
      constructor
      · rintro (impossible | ⟨extension, member, isKnown, isFound⟩)
        · cases impossible
        · rcases (contents extension member _ found).mp isFound with ⟨usage, -⟩ | ⟨-, same⟩
          · exact absurd usage (by decide)
          · exact ⟨extension, member, isKnown, same⟩
      · rintro ⟨extension, member, isKnown, same⟩
        exact .inr ⟨extension, member, isKnown,
          (contents extension member _ found).mpr (.inr ⟨by decide, same⟩)⟩
    constructor
    · rintro rfl
      exact value
    · intro constrain
      exact Option.ext fun found => (value found).trans (constrain found).symm
  constructor
  · rintro ⟨known, remembered, same⟩
    exact ⟨admissible.mp ⟨known, remembered⟩, (constrains remembered).mp same⟩
  · rintro ⟨isAdmissible, constrain⟩
    obtain ⟨known, remembered⟩ := admissible.mpr isAdmissible
    exact ⟨known, remembered, (constrains remembered).mpr constrain⟩

end Certificate

end PluginSupport
