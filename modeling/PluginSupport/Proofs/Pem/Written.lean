import PluginSupport.Proofs.Pem.Layout

/-!
# Files written section by section

`Written file parts` says that a file consists of these sections, one after another, with any lines
of text between them in which no five dashes stand. The body of a section is split into lines in any
way. Lines end in one of the two line ends, and the last line of a file may end without; where a
line ends in both, the second one belongs to the next line.

Main results: `Written.laid`, and `block_encodedRow`, by which any contents can be written.
-/
namespace PluginSupport.Pem

open Utf8 (Bytes)

/-! ## Sections and text -/

/-- Line that opens a section, up to its line end. -/
def beginLine (label : Bytes) : Bytes := beginMark ++ (label ++ fiveDashes)

/-- Whether bytes can be a label: they stand in a line, and no dash of theirs joins the dashes
behind the label. -/
structure IsLabel (label : Bytes) : Prop where
  withinLine : WithinLine label
  noDash : dash ∉ label.rtakeWhile isTail

/-- Whether bytes are a line of text, without its line end: no five dashes stand in it. -/
structure IsText (line : Bytes) : Prop where
  withinLine : WithinLine line
  noDashes : ¬ fiveDashes <:+: line

/-- `Ended tail rest`: behind a line comes `tail`, which is its line end and then `rest`, or else
nothing. -/
inductive Ended : (tail rest : Bytes) → Prop
  | line {b : UInt8} {rest : Bytes} (ends : isLineEnd b = true) : Ended (b :: rest) rest
  | file : Ended [] []

/-- Bytes of a section, up to the line end of its last line. -/
def block (label : Bytes) (lineEnd : UInt8) (rows : List Bytes) : Bytes :=
  beginLine label ++ lineEnd :: (rows.flatten ++ endLine label)

/-- `part.Block bytes`: the section is written as these bytes, up to the line end of its last
line. -/
inductive Part.Block : Part → Bytes → Prop
  | whole {label contents : Bytes} {lineEnd : UInt8} {rows : List Bytes} (isLabel : IsLabel label)
      (ends : isLineEnd lineEnd = true) (areRows : ∀ row ∈ rows, IsRow row)
      (stands : Base64.Stands rows.flatten contents) :
      Block (.whole ⟨label, contents⟩) (block label lineEnd rows)
  | broken {label : Bytes} {lineEnd : UInt8} {rows : List Bytes}
      (isLabel : IsLabel label) (ends : isLineEnd lineEnd = true)
      (areRows : ∀ row ∈ rows, IsRow row)
      (inside : ∀ row ∈ rows, ¬ beginMark <+: row ∧ ¬ endLine label <+: row)
      (nothing : ∀ contents, ¬ Base64.Stands rows.flatten contents) :
      Block (.broken label) (block label lineEnd rows)

/-- `Written file parts`: the file consists of these sections and of lines of text around them. -/
inductive Written : Bytes → List Part → Prop
  | nil : Written [] []
  | text {line tail rest : Bytes} {parts : List Part} (isText : IsText line)
      (ended : Ended tail rest) (more : Written rest parts) : Written (line ++ tail) parts
  | part {part : Part} {bytes tail rest : Bytes} {parts : List Part} (isBlock : part.Block bytes)
      (ended : Ended tail rest) (more : Written rest parts) :
      Written (bytes ++ tail) (part :: parts)

/-! ## Contents in one line -/

/-- Row with the encoding of some contents. -/
def encodedRow (contents : Bytes) : Bytes :=
  Base64.encode contents ++ [10]

theorem isRow_encodedRow (contents : Bytes) : IsRow (encodedRow contents) := by
  refine ⟨Base64.encode contents, 10, rfl, fun b member => ?_, rfl⟩
  have solid := Base64.solid_encode contents b member
  rw [← Bool.not_eq_true]
  intro isEnd
  obtain rfl | rfl : b = 10 ∨ b = 13 := by simpa [isLineEnd] using isEnd
  · exact solid (by decide)
  · exact solid (by decide)

/-- Any contents can be written as a section. -/
theorem block_encodedRow {label : Bytes} (isLabel : IsLabel label) (contents : Bytes) :
    (Part.whole ⟨label, contents⟩).Block (block label 10 [encodedRow contents]) := by
  refine .whole isLabel rfl (List.forall_mem_singleton.mpr (isRow_encodedRow contents)) ?_
  rw [List.flatten_singleton]
  exact Base64.stands_encode contents (List.forall_mem_singleton.mpr (by decide))

/-! ## Lines of a written file -/

theorem Rows.append {rows : List Bytes} (areRows : ∀ row ∈ rows, IsRow row) {rest : Bytes}
    {more : List Bytes} (isRest : Rows rest more) : Rows (rows.flatten ++ rest) (rows ++ more) := by
  induction rows with
  | nil => exact isRest
  | cons row rows ih =>
    obtain ⟨first, others⟩ := List.forall_mem_cons.mp areRows
    rw [List.flatten_cons, List.append_assoc]
    exact .row first (ih others)

/-- A line is one of the lines of its file, with its line end if it has one, unless the file is
over. -/
theorem Ended.rows {tail rest : Bytes} (ended : Ended tail rest) {rows : List Bytes}
    (isRest : Rows rest rows) {line : Bytes} (withinLine : WithinLine line)
    (notOver : line ++ tail ≠ []) :
    ∃ ending, (∀ b ∈ ending, isLineEnd b = true) ∧
      Rows (line ++ tail) ((line ++ ending) :: rows) := by
  cases ended with
  | @line b rest ends =>
    have row := Rows.row ⟨line, b, rfl, withinLine, ends⟩ isRest
    exact ⟨[b], List.forall_mem_singleton.mpr ends, by simpa using row⟩
  | file =>
    obtain rfl : rows = [] := isRest.lines_eq.symm
    refine ⟨[], nofun, ?_⟩
    rw [List.append_nil] at notOver ⊢
    exact .last withinLine notOver

/-- A front part without a line end is a front part of the line alone. -/
theorem isPrefix_of_withinLine {mark line ending : Bytes} (withinLine : WithinLine mark)
    (ends : ∀ b ∈ ending, isLineEnd b = true) (isFront : mark <+: line ++ ending) :
    mark <+: line := by
  obtain ⟨back, same⟩ := isFront
  rcases List.append_eq_append_iff.mp same with ⟨more, rfl, -⟩ | ⟨more, rfl, behind⟩
  · exact List.prefix_append mark more
  · -- Nothing of the mark can be part of the line's end.
    cases more with
    | nil => simp
    | cons b more =>
      have noEnd := withinLine b (by simp)
      rw [ends b (by simp [behind])] at noEnd
      cases noEnd

/-- A line of text opens no section. -/
theorem IsText.not_beginMark_prefix {line ending : Bytes} (isText : IsText line)
    (ends : ∀ b ∈ ending, isLineEnd b = true) : ¬ beginMark <+: line ++ ending := by
  intro isFront
  have dashes : fiveDashes <+: beginMark := by decide
  have within : WithinLine fiveDashes := by decide
  have inFront := isPrefix_of_withinLine within ends (dashes.trans isFront)
  exact isText.noDashes inFront.isInfix

theorem WithinLine.append {one two : Bytes} (first : WithinLine one) (second : WithinLine two) :
    WithinLine (one ++ two) :=
  List.forall_mem_append.mpr ⟨first, second⟩

theorem IsLabel.withinLine_beginLine {label : Bytes} (isLabel : IsLabel label) :
    WithinLine (beginLine label) := by
  have begins : WithinLine beginMark := by decide
  have dashes : WithinLine fiveDashes := by decide
  exact begins.append (isLabel.withinLine.append dashes)

theorem IsLabel.withinLine_endLine {label : Bytes} (isLabel : IsLabel label) :
    WithinLine (endLine label) := by
  have ends : WithinLine endMark := by decide
  have dashes : WithinLine fiveDashes := by decide
  exact (ends.append isLabel.withinLine).append dashes

/-- A BEGIN line opens a section with its label. -/
theorem IsLabel.opens {label : Bytes} (isLabel : IsLabel label) {lineEnd : UInt8}
    (ends : isLineEnd lineEnd = true) : Opens (beginLine label ++ [lineEnd]) label := by
  refine ⟨fiveDashes ++ [lineEnd], ?_, ⟨rfl, ?_, ?_⟩, isLabel.noDash⟩
  · simp [beginLine]
  · have other : lineEnd ≠ dash := by
      rintro rfl
      cases ends
    rw [List.count_append, List.count_singleton, if_neg (by simpa using other)]
    decide
  · have dashes : ∀ b ∈ fiveDashes, isTail b = true := List.all_eq_true.mp (by decide)
    exact List.forall_mem_append.mpr
      ⟨dashes, List.forall_mem_singleton.mpr (by simp [isTail, ends])⟩

/-- Rows without marks are taken into the body of the section. -/
theorem Opened.append {front rows : List Bytes} {label body : Bytes}
    (opened : Opened front label body)
    (inside : ∀ row ∈ rows, ¬ beginMark <+: row ∧ ¬ endLine label <+: row) :
    Opened (front ++ rows) label (body ++ rows.flatten) := by
  induction rows generalizing front body with
  | nil => simpa using opened
  | cons row rows ih =>
    obtain ⟨⟨noMark, stays⟩, inside⟩ := List.forall_mem_cons.mp inside
    have further := ih (.body opened noMark stays) inside
    rwa [← List.append_cons, List.append_assoc, ← List.flatten_cons] at further

/-- A body that stands for bytes holds no dash, so it closes no section. -/
theorem inside_of_stands {label contents : Bytes} {rows : List Bytes}
    (stands : Base64.Stands rows.flatten contents) :
    ∀ row ∈ rows, ¬ beginMark <+: row ∧ ¬ endLine label <+: row := by
  have noDash : dash ∉ rows.flatten := by
    have table : dash ∉ Base64.blanks ∧ dash ∉ Base64.alphabet ∧ dash ≠ Base64.padding := by decide
    intro member
    rcases stands.bytes dash member with isBlank | isSymbol | isPad
    · exact table.1 isBlank
    · exact table.2.1 isSymbol
    · exact table.2.2 isPad
  have notIn : ∀ {mark : Bytes}, dash ∈ mark → ∀ row ∈ rows, ¬ mark <+: row := by
    intro mark inMark row isRow isFront
    exact noDash (List.mem_flatten.mpr ⟨row, isRow, isFront.subset inMark⟩)
  have inEndLine : dash ∈ endLine label :=
    List.mem_append_left _ (List.mem_append_left _ (by decide))
  exact fun row isRow => ⟨notIn (by decide) row isRow, notIn inEndLine row isRow⟩

/-- The lines of a section stand in front of those of the rest. -/
theorem rows_block {label : Bytes} {lineEnd : UInt8} {rows : List Bytes} (isLabel : IsLabel label)
    (ends : isLineEnd lineEnd = true) (areRows : ∀ row ∈ rows, IsRow row)
    (inside : ∀ row ∈ rows, ¬ beginMark <+: row ∧ ¬ endLine label <+: row) {tail rest : Bytes}
    (ended : Ended tail rest) {more : List Bytes} (isRest : Rows rest more) :
    ∃ front row, Opened front label rows.flatten ∧ endLine label <+: row ∧
      Rows (block label lineEnd rows ++ tail) (front ++ row :: more) := by
  have marked : endMark ≠ [] := by decide
  have notEmpty : endLine label ++ tail ≠ [] := by simp [endLine, marked]
  obtain ⟨ending, -, closing⟩ := ended.rows isRest isLabel.withinLine_endLine notEmpty
  refine ⟨(beginLine label ++ [lineEnd]) :: rows, endLine label ++ ending, ?_,
    List.prefix_append _ _, ?_⟩
  · exact (Opened.start (isLabel.opens ends)).append inside
  · have opening : IsRow (beginLine label ++ [lineEnd]) :=
      ⟨beginLine label, lineEnd, rfl, isLabel.withinLine_beginLine, ends⟩
    have whole := Rows.row opening (Rows.append areRows closing)
    simpa [block] using whole

/-- A file that is written section by section has these sections as its parts. -/
theorem Written.laid {file : Bytes} {parts : List Part} (written : Written file parts) :
    Laid file parts := by
  induction written with
  | nil => exact ⟨[], .nil, .nil⟩
  | @text line tail rest parts isText ended _ ih =>
    obtain ⟨rows, isRows, laid⟩ := ih
    by_cases finished : line ++ tail = []
    · obtain ⟨rfl, rfl⟩ := List.append_eq_nil_iff.mp finished
      cases ended
      exact ⟨rows, isRows, laid⟩
    · obtain ⟨ending, areEnds, whole⟩ := ended.rows isRows isText.withinLine finished
      exact ⟨_, whole, .text (isText.not_beginMark_prefix areEnds) laid⟩
  | part isBlock ended _ ih =>
    obtain ⟨rows, isRows, laid⟩ := ih
    cases isBlock with
    | whole isLabel ends areRows stands =>
      obtain ⟨front, row, opened, closes, whole⟩ :=
        rows_block isLabel ends areRows (inside_of_stands stands) ended isRows
      exact ⟨_, whole, .whole opened closes stands laid⟩
    | broken isLabel ends areRows inside nothing =>
      obtain ⟨front, row, opened, closes, whole⟩ :=
        rows_block isLabel ends areRows inside ended isRows
      exact ⟨_, whole, .broken opened closes nothing laid⟩

end PluginSupport.Pem
