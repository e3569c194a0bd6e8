import PluginSupport.Proofs.Pem.Layout

/-!
# Certificates and keys of a file

Which certificates a file holds, and which private key is its first, by the layout of the file.

Main results: `certificates_of_laid`, `privateKey_eq_some_iff`, and `privateKey_of_laid` for files
without broken parts.
-/
namespace PluginSupport.Pem

open Utf8 (Bytes)

/-! ## Certificates -/

/-- Contents of a whole certificate section. -/
def Part.certificate? : Part → Option Bytes
  | .whole s => if s.label = certificateLabel then some s.contents else none
  | .broken _ | .illegal _ | .unfinished _ => none

/-- Contents of the certificate sections, in order. -/
def certificatesOf (parts : List Part) : List Bytes :=
  parts.filterMap Part.certificate?

/-- Certificates are found as the contents of their sections. -/
theorem Part.filterMap_found (part : Part) :
    (part.found.filterMap fun found => found.bind fun s =>
      if s.label = certificateLabel then some s.contents else none) =
      part.certificate?.toList := by
  have known : certificateLabel ∈ knownLabels := by decide
  cases part with
  | whole s =>
    by_cases labelled : s.label = certificateLabel
    · simp [Part.found, Part.certificate?, labelled, known]
    · simp only [Part.found, Part.certificate?, if_neg labelled]
      split <;> simp [labelled]
  | broken label =>
    rw [Part.found]
    split <;> rfl
  | illegal | unfinished => rfl

theorem certificates_of_laid {file : Bytes} {parts : List Part} (laid : Laid file parts) :
    certificates file = certificatesOf parts := by
  have found : certificates file = ((read file).map Except.toOption).filterMap fun found =>
      found.bind fun s => if s.label = certificateLabel then some s.contents else none := by
    rw [certificates, List.filterMap_map]
    refine List.filterMap_congr fun result _ => ?_
    cases result <;> rfl
  rw [found, read_of_laid laid, List.filterMap_flatMap, certificatesOf,
    List.filterMap_eq_flatMap_toList]
  simp only [Part.filterMap_found]

/-! ## The first key -/

/-- Private key of a section, in the format that its label says. -/
def Section.key? (s : Section) : Option KeyFile :=
  (keyFormat? s.label).map fun format => ⟨format, s.contents⟩

/-- Whether a part in front of a private key leaves it the first one: the part is a section that
holds no private key, and its label is of no interest if it is broken. -/
def Part.PassedOver : Part → Prop
  | .whole s => s.key? = none
  | .broken label => label ∉ knownLabels
  | .illegal _ | .unfinished _ => False

/-- Whether a key is the first private key, with nothing broken in front of it. -/
def FirstKey (keyFile : KeyFile) (parts : List Part) : Prop :=
  ∃ before s after, parts = before ++ .whole s :: after ∧
    (∀ part ∈ before, part.PassedOver) ∧ s.key? = some keyFile

theorem firstKey_cons {keyFile : KeyFile} {part : Part} {parts : List Part} :
    FirstKey keyFile (part :: parts) ↔
      (∃ s, part = .whole s ∧ s.key? = some keyFile) ∨
        part.PassedOver ∧ FirstKey keyFile parts := by
  constructor
  · rintro ⟨before, s, after, split, passed, isKey⟩
    cases before with
    | nil =>
      obtain ⟨rfl, -⟩ := List.cons.inj split
      exact .inl ⟨s, rfl, isKey⟩
    | cons first before =>
      obtain ⟨rfl, rfl⟩ := List.cons.inj split
      obtain ⟨passedFirst, passed⟩ := List.forall_mem_cons.mp passed
      exact .inr ⟨passedFirst, before, s, after, rfl, passed, isKey⟩
  · rintro (⟨s, rfl, isKey⟩ | ⟨passedFirst, before, s, after, rfl, passed, isKey⟩)
    · exact ⟨[], s, parts, rfl, nofun, isKey⟩
    · exact ⟨part :: before, s, after, rfl, List.forall_mem_cons.mpr ⟨passedFirst, passed⟩, isKey⟩

/-- Sections without a label of interest hold no private key. -/
theorem key?_eq_none {s : Section} (unknown : s.label ∉ knownLabels) : s.key? = none := by
  have pkcs1 : pkcs1Label ∈ knownLabels := by decide
  have sec1 : sec1Label ∈ knownLabels := by decide
  have pkcs8 : pkcs8Label ∈ knownLabels := by decide
  have other : ∀ label ∈ knownLabels, s.label ≠ label := fun label known same =>
    unknown (same ▸ known)
  rw [Section.key?, keyFormat?, if_neg (other _ pkcs1), if_neg (other _ sec1),
    if_neg (other _ pkcs8)]
  rfl

theorem firstKey_ok_cons (s : Section) (rest : List (Except PemError Section)) :
    firstKey (.ok s :: rest) = s.key?.elim (firstKey rest) fun keyFile => .ok (some keyFile) := by
  rw [firstKey, Section.key?]
  cases keyFormat? s.label <;> rfl

theorem eq_ok_of_toOption {results : List (Except PemError Section)} {s : Section}
    (found : results.map Except.toOption = [some s]) : results = [.ok s] := by
  obtain ⟨result, rfl, same⟩ := List.map_eq_singleton_iff.mp found
  cases result with
  | ok t => rw [Option.some.inj same]
  | error => cases same

theorem eq_error_of_toOption {results : List (Except PemError Section)}
    (found : results.map Except.toOption = [none]) : ∃ error, results = [.error error] := by
  obtain ⟨result, rfl, same⟩ := List.map_eq_singleton_iff.mp found
  cases result with
  | ok => cases same
  | error error => exact ⟨error, rfl⟩

/-- What is found of a part is the first key, or stops the search, or is passed over. -/
theorem firstKey_append_eq_some_iff {part : Part} {front : List (Except PemError Section)}
    (isFront : front.map Except.toOption = part.found) (back : List (Except PemError Section))
    {keyFile : KeyFile} :
    firstKey (front ++ back) = .ok (some keyFile) ↔
      (∃ s, part = .whole s ∧ s.key? = some keyFile) ∨
        part.PassedOver ∧ firstKey back = .ok (some keyFile) := by
  have stopped : front.map Except.toOption = [none] →
      firstKey (front ++ back) ≠ .ok (some keyFile) := by
    intro broken
    obtain ⟨error, rfl⟩ := eq_error_of_toOption broken
    exact nofun
  have nothing : front.map Except.toOption = [] → firstKey (front ++ back) = firstKey back := by
    intro none
    rw [List.map_eq_nil_iff.mp none, List.nil_append]
  cases part with
  | whole s =>
    simp only [Part.found, List.contains_iff_mem] at isFront
    split at isFront
    · rw [eq_ok_of_toOption isFront, List.singleton_append, firstKey_ok_cons]
      cases isKey : s.key? <;> simp [Part.PassedOver, isKey]
    · rename_i unknown
      simp [nothing isFront, Part.PassedOver, key?_eq_none unknown]
  | broken label =>
    simp only [Part.found, List.contains_iff_mem] at isFront
    split at isFront
    · rename_i known
      simp [stopped isFront, Part.PassedOver, known]
    · rename_i unknown
      simp [nothing isFront, Part.PassedOver, unknown]
  | illegal row => simp [stopped isFront, Part.PassedOver]
  | unfinished label => simp [stopped isFront, Part.PassedOver]

theorem firstKey_eq_some_iff {results : List (Except PemError Section)} {parts : List Part}
    (found : results.map Except.toOption = parts.flatMap Part.found) {keyFile : KeyFile} :
    firstKey results = .ok (some keyFile) ↔ FirstKey keyFile parts := by
  induction parts generalizing results with
  | nil =>
    obtain rfl : results = [] := List.map_eq_nil_iff.mp found
    refine iff_of_false nofun ?_
    rintro ⟨before, s, after, split, -⟩
    simp at split
  | cons part parts ih =>
    obtain ⟨front, back, rfl, isFront, isBack⟩ := List.map_eq_append_iff.mp found
    rw [firstKey_cons, ← ih isBack, firstKey_append_eq_some_iff isFront]

/-- A file gives a private key exactly if it is its first one, with nothing broken in front. -/
theorem privateKey_eq_some_iff {file : Bytes} {parts : List Part} (laid : Laid file parts)
    {keyFile : KeyFile} : privateKey file = .ok (some keyFile) ↔ FirstKey keyFile parts :=
  firstKey_eq_some_iff (read_of_laid laid)

/-! ## Files of whole sections -/

/-- Private keys of the private key sections, in order. -/
def keysOf (sections : List Section) : List KeyFile :=
  sections.filterMap Section.key?

theorem firstKey_of_whole {results : List (Except PemError Section)} {sections : List Section}
    (found : results.map Except.toOption = (sections.map Part.whole).flatMap Part.found) :
    firstKey results = .ok (keysOf sections).head? := by
  induction sections generalizing results with
  | nil =>
    obtain rfl : results = [] := List.map_eq_nil_iff.mp found
    rfl
  | cons s sections ih =>
    obtain ⟨front, back, rfl, isFront, isBack⟩ := List.map_eq_append_iff.mp found
    simp only [Part.found, List.contains_iff_mem] at isFront
    split at isFront
    · rw [eq_ok_of_toOption isFront, List.singleton_append, firstKey_ok_cons, ih isBack]
      cases isKey : s.key? <;> simp [keysOf, isKey]
    · rename_i unknown
      rw [List.map_eq_nil_iff.mp isFront, List.nil_append, ih isBack, keysOf, keysOf,
        List.filterMap_cons_none (key?_eq_none unknown)]

/-- A file of whole sections gives the first of its keys. -/
theorem privateKey_of_laid {file : Bytes} {sections : List Section}
    (laid : Laid file (sections.map .whole)) :
    privateKey file = .ok (keysOf sections).head? :=
  firstKey_of_whole (read_of_laid laid)

end PluginSupport.Pem
