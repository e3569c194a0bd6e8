import Mathlib.Data.List.DropRight
import PluginSupport.Pem.Section
import PluginSupport.Proofs.Pem.Base64

/-!
# Layout of PEM files

`Laid file parts` says what a file consists of, without regard to how it is read. Its lines
(`Rows`) are lines of text, or they belong to a part: to a section that is opened and closed, whole
or broken, to a line that looks as if it opened a section and does not, or to a section that the
end of the file cuts off.

Main results: every file has exactly one layout (`existsUnique_laid`), and is read part by part
(`read_of_laid`).
-/
namespace PluginSupport.Pem

open Utf8 (Bytes)

/-! ## Lines -/

/-- Whether bytes go on to the end of their line at most. -/
def WithinLine (bytes : Bytes) : Prop :=
  ∀ b ∈ bytes, isLineEnd b = false

instance : DecidablePred WithinLine := fun bytes =>
  decidable_of_iff (bytes.all fun b => !isLineEnd b) (by simp [WithinLine])

/-- Whether bytes are a line together with its line end. -/
def IsRow (row : Bytes) : Prop :=
  ∃ text b, row = text ++ [b] ∧ WithinLine text ∧ isLineEnd b = true

/-- `Rows file rows`: the file consists of these lines, each with its line end. The last one may
have none. -/
inductive Rows : Bytes → List Bytes → Prop
  | nil : Rows [] []
  | last {line : Bytes} (withinLine : WithinLine line) (notEmpty : line ≠ []) : Rows line [line]
  | row {row rest : Bytes} {rows : List Bytes} (isRow : IsRow row) (more : Rows rest rows) :
      Rows (row ++ rest) (row :: rows)

/-- Whether bytes end a line that opens a section: from their first dash on they hold five dashes,
and else only spaces and line ends. -/
structure IsMark (mark : Bytes) : Prop where
  starts : mark.head? = some dash
  dashes : mark.count dash = 5
  tail : ∀ b ∈ mark, isTail b = true

/-- Whether a line opens a section with this label: the label stands between the BEGIN mark and the
mark at the line's end, and no dash of its own joins the dashes there. -/
def Opens (row label : Bytes) : Prop :=
  ∃ mark, row = beginMark ++ (label ++ mark) ∧ IsMark mark ∧ dash ∉ label.rtakeWhile isTail

/-- Start of a line that closes a section with this label. -/
def endLine (label : Bytes) : Bytes := endMark ++ label ++ fiveDashes

/-! ## Parts -/

/-- A part of a file. -/
inductive Part where
  /-- A section whose body stands for its contents. -/
  | whole (s : Section)
  /-- A section whose body stands for nothing. -/
  | broken (label : Bytes)
  /-- A line that starts like one that opens a section, and opens none. -/
  | illegal (row : Bytes)
  /-- A section that is not closed. -/
  | unfinished (label : Bytes)
deriving DecidableEq

/-- `Opened rows label body`: these lines open a section and do not close it. Its label is that of
the last line that opens a section, and its body is what stands in the other lines. -/
inductive Opened : List Bytes → Bytes → Bytes → Prop
  | start {row label : Bytes} (opens : Opens row label) : Opened [row] label []
  | rename {rows : List Bytes} {row label other body : Bytes} (opened : Opened rows label body)
      (opens : Opens row other) : Opened (rows ++ [row]) other body
  | body {rows : List Bytes} {row label body : Bytes} (opened : Opened rows label body)
      (noMark : ¬ beginMark <+: row) (stays : ¬ endLine label <+: row) :
      Opened (rows ++ [row]) label (body ++ row)

/-- `LaidRows rows parts`: the lines consist of these parts, and of lines of text around them. -/
inductive LaidRows : List Bytes → List Part → Prop
  | nil : LaidRows [] []
  | text {row : Bytes} {rows : List Bytes} {parts : List Part} (noMark : ¬ beginMark <+: row)
      (more : LaidRows rows parts) : LaidRows (row :: rows) parts
  | illegal {row : Bytes} {rows : List Bytes} {parts : List Part} (mark : beginMark <+: row)
      (opensNone : ∀ label, ¬ Opens row label) (more : LaidRows rows parts) :
      LaidRows (row :: rows) (.illegal row :: parts)
  | whole {front rows : List Bytes} {row label body contents : Bytes} {parts : List Part}
      (opened : Opened front label body) (closes : endLine label <+: row)
      (stands : Base64.Stands body contents) (more : LaidRows rows parts) :
      LaidRows (front ++ row :: rows) (.whole ⟨label, contents⟩ :: parts)
  | broken {front rows : List Bytes} {row label body : Bytes} {parts : List Part}
      (opened : Opened front label body) (closes : endLine label <+: row)
      (nothing : ∀ contents, ¬ Base64.Stands body contents) (more : LaidRows rows parts) :
      LaidRows (front ++ row :: rows) (.broken label :: parts)
  | cut {front rows : List Bytes} {row label body : Bytes} {parts : List Part}
      (opened : Opened front label body) (mark : beginMark <+: row)
      (opensNone : ∀ label, ¬ Opens row label) (more : LaidRows rows parts) :
      LaidRows (front ++ row :: rows) (.illegal row :: parts)
  | unfinished {rows : List Bytes} {label body : Bytes} (opened : Opened rows label body) :
      LaidRows rows [.unfinished label]

/-- `Laid file parts`: the file consists of these parts, and of lines of text around them. -/
def Laid (file : Bytes) (parts : List Part) : Prop :=
  ∃ rows, Rows file rows ∧ LaidRows rows parts

/-! ## Splitting into lines -/

theorem lines_row {row : Bytes} (isRow : IsRow row) (rest : Bytes) :
    lines (row ++ rest) = row :: lines rest := by
  obtain ⟨text, b, rfl, withinLine, ends⟩ := isRow
  induction text with
  | nil => simp [lines, ends]
  | cons c text ih =>
    obtain ⟨inside, withinLine⟩ := List.forall_mem_cons.mp withinLine
    show lines (c :: (text ++ [b] ++ rest)) = _
    rw [lines, if_neg (Bool.eq_false_iff.mp inside), ih withinLine]
    rfl

theorem lines_last {line : Bytes} (withinLine : WithinLine line) (notEmpty : line ≠ []) :
    lines line = [line] := by
  induction line with
  | nil => exact absurd rfl notEmpty
  | cons b line ih =>
    obtain ⟨inside, withinLine⟩ := List.forall_mem_cons.mp withinLine
    cases line with
    | nil => simp [lines, inside]
    | cons c line => simp [lines.eq_def (b :: _), inside, ih withinLine]

theorem Rows.lines_eq {file : Bytes} {rows : List Bytes} (isRows : Rows file rows) :
    lines file = rows := by
  induction isRows with
  | nil => rfl
  | last withinLine notEmpty => exact lines_last withinLine notEmpty
  | row isRow _ ih => rw [lines_row isRow, ih]

theorem isRow_cons {b : UInt8} (inside : isLineEnd b = false) {row : Bytes} (isRow : IsRow row) :
    IsRow (b :: row) := by
  obtain ⟨text, c, rfl, withinLine, ends⟩ := isRow
  exact ⟨b :: text, c, rfl, List.forall_mem_cons.mpr ⟨inside, withinLine⟩, ends⟩

theorem rows_lines (file : Bytes) : Rows file (lines file) := by
  induction file with
  | nil => exact .nil
  | cons b rest ih =>
    rw [lines]
    split
    · rename_i ends
      exact @Rows.row [b] _ _ ⟨[], b, rfl, nofun, ends⟩ ih
    · rename_i inside
      rw [Bool.not_eq_true] at inside
      split
      · rename_i none
        rw [none] at ih
        cases ih
        exact .last (List.forall_mem_singleton.mpr inside) (List.cons_ne_nil _ _)
      · rename_i line more isLines
        rw [isLines] at ih
        cases ih with
        | last withinLine _ =>
          exact .last (List.forall_mem_cons.mpr ⟨inside, withinLine⟩) (List.cons_ne_nil _ _)
        | row isRow more => exact @Rows.row (b :: line) _ _ (isRow_cons inside isRow) more

/-! ## Labels -/

theorem rtakeWhile_append (front : Bytes) {back : Bytes} (areTail : ∀ b ∈ back, isTail b = true) :
    (front ++ back).rtakeWhile isTail = front.rtakeWhile isTail ++ back := by
  have allTail : ∀ b ∈ back.reverse, isTail b = true := fun b member =>
    areTail b (List.mem_reverse.mp member)
  rw [List.rtakeWhile, List.reverse_append, List.takeWhile_append_of_pos allTail,
    List.reverse_append, List.reverse_reverse, List.rtakeWhile]

theorem rtakeWhile_rdropWhile (line : Bytes) :
    (line.rdropWhile isTail).rtakeWhile isTail = [] :=
  List.rtakeWhile_eq_nil_iff.mpr (List.rdropWhile_last_not isTail line)

/-- Neither the label of a BEGIN line nor what stands in front of it ends in a dash that joins the
mark. -/
theorem dash_mem_rtakeWhile_iff (label : Bytes) :
    dash ∈ (beginMark ++ label).rtakeWhile isTail ↔ dash ∈ label.rtakeWhile isTail := by
  rw [List.rtakeWhile, List.mem_reverse, List.reverse_append, List.takeWhile_append,
    List.rtakeWhile, List.mem_reverse]
  split
  · -- The label is blank, and the last blank of the mark joins it.
    rename_i allTail
    have mark : dash ∉ beginMark.reverse.takeWhile isTail := by decide
    rw [(List.takeWhile_prefix isTail).eq_of_length allTail, List.mem_append]
    exact ⟨fun member => member.resolve_right mark, .inl⟩
  · exact Iff.rfl

/-- A BEGIN line has a label if its last dashes are exactly five. -/
theorem beginLabel?_append {outer inner mark : Bytes} (stops : outer.rtakeWhile isTail = [])
    (areTail : ∀ b ∈ inner, isTail b = true) (noDash : dash ∉ inner) (isMark : IsMark mark) :
    beginLabel? (outer ++ (inner ++ mark)) = some ((outer ++ inner).drop beginMark.length) := by
  have tail : ((outer ++ (inner ++ mark)).reverse.takeWhile isTail).reverse = inner ++ mark := by
    have whole := rtakeWhile_append outer (List.forall_mem_append.mpr ⟨areTail, isMark.tail⟩)
    rwa [stops, List.nil_append] at whole
  have five : (inner ++ mark).count dash = 5 := by
    rw [List.count_append, List.count_eq_zero.mpr noDash, isMark.dashes]
  have front : (outer ++ (inner ++ mark)).take
      ((outer ++ (inner ++ mark)).length - (inner ++ mark).length) = outer := by
    rw [List.length_append, Nat.add_sub_cancel, List.take_left' rfl]
  have stop : (inner ++ mark).takeWhile (· ≠ dash) = inner := by
    obtain ⟨rest, rfl⟩ := List.head?_eq_some_iff.mp isMark.starts
    have passed : ∀ b ∈ inner, decide (b ≠ dash) = true := fun b member =>
      decide_eq_true fun same => noDash (same ▸ member)
    rw [List.takeWhile_append_of_pos passed, List.takeWhile_cons_of_neg (by decide),
      List.append_nil]
  simp only [beginLabel?, tail, five, front, stop, if_true]

theorem exists_mark {tail : Bytes} (areTail : ∀ b ∈ tail, isTail b = true)
    (five : tail.count dash = 5) :
    ∃ mark, tail = tail.takeWhile (· ≠ dash) ++ mark ∧ IsMark mark := by
  have split : tail.takeWhile (· ≠ dash) ++ tail.dropWhile (· ≠ dash) = tail :=
    List.takeWhile_append_dropWhile
  have noDash : dash ∉ tail.takeWhile (· ≠ dash) := fun member => by
    simpa using List.mem_takeWhile_imp member
  have dashes : (tail.dropWhile (· ≠ dash)).count dash = 5 := by
    rw [← split, List.count_append, List.count_eq_zero.mpr noDash, Nat.zero_add] at five
    exact five
  refine ⟨tail.dropWhile (· ≠ dash), split.symm, ?_, dashes, fun b member => ?_⟩
  · have stops := List.head?_dropWhile_not (· ≠ dash) tail
    generalize tail.dropWhile (· ≠ dash) = mark at dashes stops
    cases mark with
    | nil => cases dashes
    | cons b rest => simpa using stops
  · exact areTail b (split ▸ List.mem_append_right _ member)

/-- What stands in front of the last dashes of a line with a label. -/
theorem exists_of_beginLabel? {row label : Bytes} (found : beginLabel? row = some label) :
    ∃ outer inner mark, row = outer ++ (inner ++ mark) ∧ outer.rtakeWhile isTail = [] ∧
      (∀ b ∈ inner, isTail b = true) ∧ dash ∉ inner ∧ IsMark mark ∧
      label = (outer ++ inner).drop beginMark.length := by
  have split : row.rdropWhile isTail ++ row.rtakeWhile isTail = row :=
    List.rdropWhile_append_rtakeWhile
  have areTail : ∀ b ∈ row.rtakeWhile isTail, isTail b = true := fun b =>
    List.mem_rtakeWhile_imp
  have front : row.take (row.length - (row.rtakeWhile isTail).length) = row.rdropWhile isTail := by
    have lengths := congrArg List.length split
    rw [List.length_append] at lengths
    have taken := @List.take_left' _ (row.rdropWhile isTail) (row.rtakeWhile isTail)
      (row.length - (row.rtakeWhile isTail).length) (by omega)
    rwa [split] at taken
  have label_eq : (if (row.rtakeWhile isTail).count dash = 5 then
      some ((row.take (row.length - (row.rtakeWhile isTail).length) ++
        (row.rtakeWhile isTail).takeWhile (· ≠ dash)).drop beginMark.length)
      else none) = some label := found
  split at label_eq
  · rename_i five
    obtain ⟨mark, tail_eq, isMark⟩ := exists_mark areTail five
    rw [front, Option.some.injEq] at label_eq
    refine ⟨row.rdropWhile isTail, (row.rtakeWhile isTail).takeWhile (· ≠ dash), mark, ?_,
      rtakeWhile_rdropWhile row, fun b member => areTail b ((List.takeWhile_subset _) member),
      fun member => ?_, isMark, label_eq.symm⟩
    · rw [← tail_eq, split]
    · simpa using List.mem_takeWhile_imp member
  · cases label_eq

/-- The BEGIN mark holds no dash that could stand at its end. -/
theorem beginMark_of_append {front mark : Bytes} (isMark : IsMark mark)
    (marked : beginMark <+: front ++ mark) : beginMark <+: front := by
  obtain ⟨rest, same⟩ := marked
  rcases List.append_eq_append_iff.mp same with ⟨more, rfl, -⟩ | ⟨more, whole, behind⟩
  · exact List.prefix_append _ _
  · cases more with
    | nil => simp [whole]
    | cons b more =>
      -- No end of the BEGIN mark starts with a dash and goes on like the mark at a line's end.
      have table : ∀ i < beginMark.length, ¬ ((beginMark.drop i).head? = some dash ∧
          ∀ b ∈ beginMark.drop i, isTail b = true) := by
        decide
      have inside : front.length < beginMark.length := by
        rw [whole, List.length_append, List.length_cons]
        omega
      refine absurd ⟨?_, ?_⟩ (table front.length inside) <;> rw [whole, List.drop_left' rfl]
      · have starts := isMark.starts
        rwa [behind] at starts
      · exact fun c member => isMark.tail c (behind ▸ List.mem_append_left rest member)

theorem beginLabel?_eq_some_iff {row label : Bytes} (marked : beginMark <+: row) :
    beginLabel? row = some label ↔ Opens row label := by
  constructor
  · intro found
    obtain ⟨outer, inner, mark, rfl, stops, areTail, noDash, isMark, rfl⟩ :=
      exists_of_beginLabel? found
    rw [← List.append_assoc] at marked ⊢
    obtain ⟨label, same⟩ := beginMark_of_append isMark marked
    have label_eq : (outer ++ inner).drop beginMark.length = label := by
      rw [← same, List.drop_left' rfl]
    rw [label_eq]
    refine ⟨mark, by rw [← same, List.append_assoc], isMark, ?_⟩
    rwa [← dash_mem_rtakeWhile_iff, same, rtakeWhile_append outer areTail, stops,
      List.nil_append]
  · rintro ⟨mark, rfl, isMark, noDash⟩
    have split := @List.rdropWhile_append_rtakeWhile _ isTail (beginMark ++ label)
    have found := beginLabel?_append (rtakeWhile_rdropWhile (beginMark ++ label))
      (fun b => List.mem_rtakeWhile_imp) (mt (dash_mem_rtakeWhile_iff label).mp noDash) isMark
    rwa [← List.append_assoc, split, List.drop_left' rfl, List.append_assoc] at found

/-- A line that closes a section opens none. -/
theorem not_beginMark_of_endLine {label row : Bytes} (closes : endLine label <+: row) :
    ¬ beginMark <+: row := by
  intro opens
  have endFront : endMark <+: row := by
    rw [endLine, List.append_assoc] at closes
    exact (List.prefix_append _ _).trans closes
  have nested := List.prefix_of_prefix_length_le endFront opens (by decide)
  exact absurd nested (by decide)

/-! ## The layout of a file -/

/-- What a section is, once it is closed. -/
def OpenSection.part (s : OpenSection) : Part :=
  match Base64.decode s.body with
  | .ok contents => .whole ⟨s.label, contents⟩
  | .error _ => .broken s.label

/-- Parts of the remaining lines. -/
def partsOf : Option OpenSection → List Bytes → List Part
  | none, [] => []
  | some s, [] => [.unfinished s.label]
  | state, row :: rest =>
    if beginMark.isPrefixOf row then
      match beginLabel? row with
      | none => .illegal row :: partsOf none rest
      | some label => partsOf (some ⟨label, (state.map OpenSection.body).getD []⟩) rest
    else
      match state with
      | none => partsOf none rest
      | some s =>
        if closes s.label row then s.part :: partsOf none rest
        else partsOf (some ⟨s.label, s.body ++ row⟩) rest

variable {row label body : Bytes} {state : Option OpenSection} {rest : List Bytes}

theorem partsOf_opens (opens : Opens row label) :
    partsOf state (row :: rest) =
      partsOf (some ⟨label, (state.map OpenSection.body).getD []⟩) rest := by
  have mark : beginMark <+: row := by
    obtain ⟨mark, rfl, -⟩ := opens
    exact List.prefix_append _ _
  cases state <;> rw [partsOf, if_pos (List.isPrefixOf_iff_prefix.mpr mark),
    (beginLabel?_eq_some_iff mark).mpr opens]

theorem partsOf_illegal (mark : beginMark <+: row) (opensNone : ∀ label, ¬ Opens row label) :
    partsOf state (row :: rest) = .illegal row :: partsOf none rest := by
  have noLabel : beginLabel? row = none :=
    Option.eq_none_iff_forall_ne_some.mpr fun label found =>
      opensNone label ((beginLabel?_eq_some_iff mark).mp found)
  cases state <;> rw [partsOf, if_pos (List.isPrefixOf_iff_prefix.mpr mark), noLabel]

theorem partsOf_text (noMark : ¬ beginMark <+: row) :
    partsOf none (row :: rest) = partsOf none rest := by
  rw [partsOf, if_neg (mt List.isPrefixOf_iff_prefix.mp noMark)]

theorem partsOf_body (noMark : ¬ beginMark <+: row) (stays : ¬ endLine label <+: row) :
    partsOf (some ⟨label, body⟩) (row :: rest) = partsOf (some ⟨label, body ++ row⟩) rest := by
  have notClosed : ¬ closes label row = true := mt List.isPrefixOf_iff_prefix.mp stays
  rw [partsOf, if_neg (mt List.isPrefixOf_iff_prefix.mp noMark)]
  exact if_neg notClosed

theorem partsOf_closes (isEnd : endLine label <+: row) :
    partsOf (some ⟨label, body⟩) (row :: rest) =
      OpenSection.part ⟨label, body⟩ :: partsOf none rest := by
  have closed : closes label row = true := List.isPrefixOf_iff_prefix.mpr isEnd
  rw [partsOf, if_neg (mt List.isPrefixOf_iff_prefix.mp (not_beginMark_of_endLine isEnd))]
  exact if_pos closed

/-- Behind the lines that open a section, it is open. -/
theorem Opened.partsOf {front : List Bytes} (opened : Opened front label body)
    (rest : List Bytes) :
    Pem.partsOf none (front ++ rest) = Pem.partsOf (some ⟨label, body⟩) rest := by
  induction opened generalizing rest with
  | start opens => exact partsOf_opens opens
  | rename _ opens ih => rw [List.append_assoc, ih, List.singleton_append, partsOf_opens opens]; rfl
  | body _ noMark stays ih =>
    rw [List.append_assoc, ih, List.singleton_append, partsOf_body noMark stays]

theorem LaidRows.partsOf {rows : List Bytes} {parts : List Part} (laid : LaidRows rows parts) :
    Pem.partsOf none rows = parts := by
  induction laid with
  | nil => rfl
  | text noMark _ ih => rw [partsOf_text noMark, ih]
  | illegal mark opensNone _ ih => rw [partsOf_illegal mark opensNone, ih]
  | whole opened closes stands _ ih =>
    rw [opened.partsOf, partsOf_closes closes, ih, OpenSection.part,
      Base64.decode_eq_ok_iff.mpr stands]
  | @broken _ _ _ _ body _ opened closes nothing _ ih =>
    rw [opened.partsOf, partsOf_closes closes, ih, OpenSection.part]
    cases decoded : Base64.decode body with
    | ok contents => exact absurd (Base64.decode_eq_ok_iff.mp decoded) (nothing contents)
    | error => rfl
  | cut opened mark opensNone _ ih => rw [opened.partsOf, partsOf_illegal mark opensNone, ih]
  | unfinished opened => simpa [Pem.partsOf] using opened.partsOf []

theorem OpenSection.laidRows {front rows : List Bytes} {parts : List Part}
    (opened : Opened front label body) (closes : endLine label <+: row)
    (more : LaidRows rows parts) :
    LaidRows (front ++ row :: rows) (OpenSection.part ⟨label, body⟩ :: parts) := by
  rw [OpenSection.part]
  cases decoded : Base64.decode body with
  | ok contents => exact .whole opened closes (Base64.decode_eq_ok_iff.mp decoded) more
  | error error =>
    refine .broken opened closes (fun contents stands => ?_) more
    simp [Base64.decode_eq_ok_iff.mpr stands] at decoded

/-- By induction on the lines: what is open stands in front of them. -/
theorem laidRows_partsOf (rows : List Bytes) :
    LaidRows rows (partsOf none rows) ∧ ∀ front label body, Opened front label body →
      LaidRows (front ++ rows) (partsOf (some ⟨label, body⟩) rows) := by
  induction rows with
  | nil =>
    refine ⟨.nil, fun front label body opened => ?_⟩
    rw [List.append_nil]
    exact .unfinished opened
  | cons row rows ih =>
    obtain ⟨closed, inside⟩ := ih
    by_cases mark : beginMark <+: row
    · by_cases opensOne : ∃ label, Opens row label
      · obtain ⟨other, opens⟩ := opensOne
        refine ⟨?_, fun front label body opened => ?_⟩
        · rw [partsOf_opens opens]
          exact inside [row] other [] (.start opens)
        · rw [partsOf_opens opens, List.append_cons]
          exact inside _ other body (.rename opened opens)
      · have opensNone : ∀ label, ¬ Opens row label := not_exists.mp opensOne
        refine ⟨?_, fun front label body opened => ?_⟩
        · rw [partsOf_illegal mark opensNone]
          exact .illegal mark opensNone closed
        · rw [partsOf_illegal mark opensNone]
          exact .cut opened mark opensNone closed
    · refine ⟨?_, fun front label body opened => ?_⟩
      · rw [partsOf_text mark]
        exact .text mark closed
      · by_cases isEnd : endLine label <+: row
        · rw [partsOf_closes isEnd]
          exact OpenSection.laidRows opened isEnd closed
        · rw [partsOf_body mark isEnd, List.append_cons]
          exact inside _ label _ (.body opened mark isEnd)

theorem laid_iff {file : Bytes} {parts : List Part} :
    Laid file parts ↔ partsOf none (lines file) = parts := by
  constructor
  · rintro ⟨rows, isRows, laid⟩
    rw [isRows.lines_eq, laid.partsOf]
  · rintro rfl
    exact ⟨lines file, rows_lines file, (laidRows_partsOf _).1⟩

/-- Every file has exactly one layout. -/
theorem existsUnique_laid (file : Bytes) : ∃! parts, Laid file parts :=
  ⟨partsOf none (lines file), laid_iff.mpr rfl, fun _ laid => (laid_iff.mp laid).symm⟩

/-! ## Reading -/

/-- What is found of a part, without what is wrong with it: nothing if it is a section whose label
is of no interest. -/
def Part.found : Part → List (Option Section)
  | .whole s => if knownLabels.contains s.label then [some s] else []
  | .broken label => if knownLabels.contains label then [none] else []
  | .illegal _ | .unfinished _ => [none]

theorem OpenSection.found_part (s : OpenSection) :
    s.part.found = s.close.toList.map Except.toOption := by
  rw [OpenSection.part, OpenSection.close]
  cases Base64.decode s.body <;> by_cases known : s.label ∈ knownLabels <;>
    simp [Part.found, known, Except.toOption]

theorem readLines_eq (state : Option OpenSection) (rows : List Bytes) :
    (readLines state rows).map Except.toOption = (partsOf state rows).flatMap Part.found := by
  induction rows generalizing state with
  | nil => cases state <;> rfl
  | cons row rows ih =>
    cases state with
    | none =>
      rw [readLines, partsOf]
      split
      · cases beginLabel? row with
        | none => simp [ih, Part.found, Except.toOption]
        | some label => exact ih _
      · exact ih none
    | some s =>
      rw [readLines, partsOf]
      split
      · cases beginLabel? row with
        | none => simp [ih, Part.found, Except.toOption]
        | some label => exact ih _
      · by_cases closed : closes s.label row = true
        · simp [closed, ih, s.found_part]
        · simp [closed, ih]

/-- A file is read part by part. -/
theorem read_of_laid {file : Bytes} {parts : List Part} (laid : Laid file parts) :
    (read file).map Except.toOption = parts.flatMap Part.found := by
  rw [read, readLines_eq, laid_iff.mp laid]

end PluginSupport.Pem
