import PluginSupport.Json.Value
import PluginSupport.Proofs.Text.Numeral

/-!
# Spellings of JSON values

`Spells cs value` says that `cs` is a JSON text of a value: it fixes neither the white space nor how
the characters of a string are escaped. Numbers are kept by their lexeme, so they have one spelling.

What stands behind an opening bracket is spelled as a whole, closing bracket included, because that
is how lists and objects are read and written: item by item, each behind its comma (`SpellsItems`,
`SpellsMembers`).

A number does not say where it ends. What follows must not go on like a number (`Stops`), and within
a list or an object it never does.
-/
namespace PluginSupport.Json

/-! ## White space -/

/-- Whether a text is white space, or empty. -/
def Blanks (cs : List Char) : Prop :=
  ∀ c ∈ cs, isBlank c = true

theorem isBlank_iff {c : Char} :
    isBlank c = true ↔ c = ' ' ∨ c = '\n' ∨ c = '\t' ∨ c = '\r' := by
  simp [isBlank]

theorem blanks_nil : Blanks [] :=
  nofun

theorem skipBlank_append {blanks : List Char} (blank : Blanks blanks) (rest : List Char) :
    skipBlank (blanks ++ rest) = skipBlank rest :=
  List.dropWhile_append_of_pos blank

theorem skipBlank_blanks {blanks : List Char} (blank : Blanks blanks) : skipBlank blanks = [] := by
  have skipped := skipBlank_append blank []
  rwa [List.append_nil] at skipped

theorem skipBlank_cons {c : Char} (notBlank : isBlank c = false) (rest : List Char) :
    skipBlank (c :: rest) = c :: rest :=
  List.dropWhile_cons_of_neg (by simp [notBlank])

/-! ## Strings -/

/-- `SpellsText spelled cs`: between quotes, `spelled` stands for the characters `cs`. Surrogate
escapes come in pairs. -/
inductive SpellsText : List Char → List Char → Prop
  | nil : SpellsText [] []
  | plain {c : Char} {spelled cs : List Char} (notQuote : c ≠ '"') (notBackslash : c ≠ '\\')
      (printable : 0x20 ≤ c.toNat) (more : SpellsText spelled cs) :
      SpellsText (c :: spelled) (c :: cs)
  | short {e c : Char} {spelled cs : List Char} (escape : simpleEscape? e = some c)
      (more : SpellsText spelled cs) : SpellsText ('\\' :: e :: spelled) (c :: cs)
  | long {h1 h2 h3 h4 : Char} {unit : Nat} {spelled cs : List Char}
      (digits : hex4? h1 h2 h3 h4 = some unit) (notLeading : isLeading unit = false)
      (notTrailing : isTrailing unit = false) (more : SpellsText spelled cs) :
      SpellsText ('\\' :: 'u' :: h1 :: h2 :: h3 :: h4 :: spelled) (Char.ofNat unit :: cs)
  | pair {h1 h2 h3 h4 k1 k2 k3 k4 : Char} {lead trail : Nat} {spelled cs : List Char}
      (leadDigits : hex4? h1 h2 h3 h4 = some lead) (leading : isLeading lead = true)
      (trailDigits : hex4? k1 k2 k3 k4 = some trail) (trailing : isTrailing trail = true)
      (more : SpellsText spelled cs) :
      SpellsText
        ('\\' :: 'u' :: h1 :: h2 :: h3 :: h4 :: '\\' :: 'u' :: k1 :: k2 :: k3 :: k4 :: spelled)
        (pairChar lead trail :: cs)

/-! ## Numbers -/

/-- Whether a text is a row of decimal digits. -/
def Digits (cs : List Char) : Prop :=
  cs ≠ [] ∧ ∀ c ∈ cs, c.isDigit = true

theorem Digits.exists_cons {cs : List Char} (digits : Digits cs) :
    ∃ c more, cs = c :: more ∧ c.isDigit = true ∧
      ∀ {other : Char}, other.isDigit = false → c ≠ other := by
  obtain ⟨c, more, rfl⟩ := List.exists_cons_of_ne_nil digits.1
  have isDigit := digits.2 c List.mem_cons_self
  refine ⟨c, more, rfl, isDigit, ?_⟩
  rintro _ noDigit rfl
  exact Bool.false_ne_true (noDigit.symm.trans isDigit)

/-- Fraction of a number, with its point, or nothing. -/
inductive IsFraction : List Char → Prop
  | absent : IsFraction []
  | present {cs : List Char} (digits : Digits cs) : IsFraction ('.' :: cs)

/-- Exponent of a number, with its mark, or nothing. -/
inductive IsExponent : List Char → Prop
  | absent : IsExponent []
  | present {mark : Char} {sign cs : List Char} (marked : mark = 'e' ∨ mark = 'E')
      (signed : sign ∈ [[], ['+'], ['-']]) (digits : Digits cs) : IsExponent (mark :: sign ++ cs)

/-- Numbers: whole digits without a leading zero, then perhaps a fraction and an exponent. -/
inductive IsNumber : List Char → Prop
  | intro {sign whole fraction exponent : List Char} (signed : sign ∈ [[], ['-']])
      (digits : Digits whole) (leading : whole.head? = some '0' → whole.length ≤ 1)
      (isFraction : IsFraction fraction) (isExponent : IsExponent exponent) :
      IsNumber (sign ++ whole ++ fraction ++ exponent)

theorem digits_write (n : Nat) : Digits (Numeral.write 10 n) := by
  obtain ⟨notEmpty, allDigits, -⟩ :=
    Numeral.read?_ten_eq_some_iff.mp (Numeral.read?_write (by decide) (by decide) n)
  exact ⟨notEmpty, allDigits⟩

/-- Digits without a leading zero are a number. -/
theorem Digits.isNumber {cs : List Char} (digits : Digits cs)
    (leading : cs.head? = some '0' → cs.length ≤ 1) : IsNumber cs := by
  have number : IsNumber ([] ++ cs ++ [] ++ []) :=
    .intro List.mem_cons_self digits leading .absent .absent
  simpa using number

theorem isNumber_write (n : Nat) : IsNumber (Numeral.write 10 n) :=
  (digits_write n).isNumber fun zero => (Numeral.length_write_of_zero zero).le

/-- Whether a text does not go on like a number. -/
def Stops (rest : List Char) : Prop :=
  ∀ c ∈ rest.head?, c.isDigit = false ∧ c ≠ '.' ∧ c ≠ 'e' ∧ c ≠ 'E'

theorem Stops.noDigit {rest : List Char} (stops : Stops rest) :
    ∀ c ∈ rest.head?, c.isDigit = false :=
  fun c head => (stops c head).1

theorem stops_nil : Stops [] :=
  nofun

theorem stops_cons {c : Char} (stops : c.isDigit = false ∧ c ≠ '.' ∧ c ≠ 'e' ∧ c ≠ 'E')
    (rest : List Char) : Stops (c :: rest) := by
  intro head same
  obtain rfl : c = head := Option.some.inj same
  exact stops

theorem Stops.blanks_append {blanks rest : List Char} (stops : Stops rest)
    (blank : Blanks blanks) : Stops (blanks ++ rest) := by
  cases blanks with
  | nil => exact stops
  | cons c blanks =>
    refine stops_cons ?_ _
    obtain rfl | rfl | rfl | rfl := isBlank_iff.mp (blank c List.mem_cons_self) <;> decide

/-! ## Values -/

/-- What stands in front of an item: white space, and a comma unless the item is the first. -/
inductive Lead : (first : Bool) → List Char → Prop
  | first {blanks : List Char} (blank : Blanks blanks) : Lead true blanks
  | next {blanks gap : List Char} (blank : Blanks blanks) (gapBlank : Blanks gap) :
      Lead false (blanks ++ ',' :: gap)

mutual

/-- `Spells cs value`: the text `cs` is a JSON text of the value. -/
inductive Spells : List Char → Value → Prop
  | null : Spells "null".toList .null
  | yes : Spells "true".toList (.bool true)
  | no : Spells "false".toList (.bool false)
  | number {lexeme : List Char} (isNumber : IsNumber lexeme) : Spells lexeme (.number lexeme)
  | text {spelled cs : List Char} (spells : SpellsText spelled cs) :
      Spells ('"' :: (spelled ++ ['"'])) (.text cs)
  | list {body : List Char} {items : List Value} (spells : SpellsItems true body items) :
      Spells ('[' :: body) (.list items)
  | object {body : List Char} {members : List (List Char × Value)}
      (spells : SpellsMembers true body members) : Spells ('\x7b' :: body) (.object members)

/-- Items of a list with its closing bracket. -/
inductive SpellsItems : (first : Bool) → List Char → List Value → Prop
  | close {first : Bool} {blanks : List Char} (blank : Blanks blanks) :
      SpellsItems first (blanks ++ [']']) []
  | item {first : Bool} {lead spelled body : List Char} {item : Value} {items : List Value}
      (isLead : Lead first lead) (spells : Spells spelled item)
      (more : SpellsItems false body items) :
      SpellsItems first (lead ++ (spelled ++ body)) (item :: items)

/-- Members of an object with its closing brace. -/
inductive SpellsMembers : (first : Bool) → List Char → List (List Char × Value) → Prop
  | close {first : Bool} {blanks : List Char} (blank : Blanks blanks) :
      SpellsMembers first (blanks ++ ['\x7d']) []
  | member {first : Bool} {lead name blanks gap spelled body key : List Char} {value : Value}
      {members : List (List Char × Value)} (isLead : Lead first lead)
      (spellsKey : SpellsText name key) (blank : Blanks blanks) (gapBlank : Blanks gap)
      (spells : Spells spelled value) (more : SpellsMembers false body members) :
      SpellsMembers first
        (lead ++ '"' :: (name ++ '"' :: (blanks ++ ':' :: (gap ++ (spelled ++ body)))))
        ((key, value) :: members)

end

/-- Whether a text is a JSON document of a value: one of its spellings between white space. -/
def IsDocument (text : String) (value : Value) : Prop :=
  ∃ before spelled after, Blanks before ∧ Spells spelled value ∧ Blanks after ∧
    text.toList = before ++ (spelled ++ after)

/-- `value.Opens c`: texts of the value begin with the character `c`, or may do so. -/
def Value.Opens (c : Char) : Value → Prop
  | .null => c = 'n'
  | .bool b => c = if b then 't' else 'f'
  | .number _ => c = '-' ∨ c.isDigit = true
  | .text _ => c = '"'
  | .list _ => c = '['
  | .object _ => c = '\x7b'

theorem Spells.opens {cs : List Char} {value : Value} (spells : Spells cs value) :
    ∃ c rest, cs = c :: rest ∧ value.Opens c := by
  cases spells with
  | number isNumber =>
    -- The lexeme begins with its sign, or with its first digit.
    cases isNumber with
    | @intro sign whole fraction exponent signed digits =>
      obtain ⟨c, more, rfl, isDigit, -⟩ := digits.exists_cons
      obtain rfl | rfl : sign = [] ∨ sign = ['-'] := by simpa using signed
      · exact ⟨c, more ++ fraction ++ exponent, rfl, .inr isDigit⟩
      · exact ⟨'-', c :: more ++ fraction ++ exponent, rfl, .inl rfl⟩
  | _ => exact ⟨_, _, rfl, rfl⟩

/-- A value begins with none of the characters that a reader passes over or stops at. -/
theorem Value.Opens.notBlank {c : Char} {value : Value} (opens : value.Opens c) :
    isBlank c = false ∧ c ≠ ']' := by
  cases value with
  | number =>
    obtain rfl | isDigit := opens
    · decide
    · refine ⟨Bool.eq_false_iff.mpr fun blank => ?_, ?_⟩
      · obtain rfl | rfl | rfl | rfl := isBlank_iff.mp blank <;> cases isDigit
      · rintro rfl
        cases isDigit
  | bool b => cases b <;> cases opens <;> decide
  | _ =>
    cases opens
    decide

/-- A number begins as the readers of numbers want it. -/
theorem Value.Opens.of_number {c : Char} {lexeme : List Char}
    (opens : (Value.number lexeme).Opens c) :
    c = '-' ∨ (Numeral.digitValue? 10 c).isSome = true := by
  obtain rfl | isDigit := opens
  · exact .inl rfl
  · have denotes := Numeral.digitValue?_ten_eq_some_iff.mpr ⟨isDigit, rfl⟩
    exact .inr (by simp [denotes])

/-- A number does not begin like any other value. -/
theorem Value.Opens.ne_of_number {c other : Char} {lexeme : List Char}
    (opens : (Value.number lexeme).Opens c) (noStart : other ≠ '-' ∧ other.isDigit = false) :
    c ≠ other := by
  rintro rfl
  obtain rfl | isDigit := opens
  · exact noStart.1 rfl
  · exact Bool.false_ne_true (noStart.2.symm.trans isDigit)

theorem Spells.head {cs : List Char} {value : Value} (spells : Spells cs value) :
    ∃ c rest, cs = c :: rest ∧ isBlank c = false ∧ c ≠ ']' := by
  obtain ⟨c, rest, same, opens⟩ := spells.opens
  exact ⟨c, rest, same, opens.notBlank⟩

theorem Spells.length_pos {cs : List Char} {value : Value} (spells : Spells cs value) :
    0 < cs.length := by
  obtain ⟨c, rest, rfl, -⟩ := spells.opens
  exact Nat.succ_pos _

/-! ## What follows a value -/

theorem Lead.stops {lead : List Char} (isLead : Lead false lead) (rest : List Char) :
    Stops (lead ++ rest) := by
  cases isLead with
  | @next blanks gap blank gapBlank =>
    have comma : Stops (',' :: (gap ++ rest)) := stops_cons (by decide) _
    simpa using comma.blanks_append blank

theorem SpellsItems.stops {body : List Char} {items : List Value}
    (spells : SpellsItems false body items) (rest : List Char) : Stops (body ++ rest) := by
  cases spells with
  | @close _ blanks blank =>
    have bracket : Stops (']' :: rest) := stops_cons (by decide) rest
    simpa using bracket.blanks_append blank
  | item isLead =>
    rw [List.append_assoc]
    exact isLead.stops _

theorem SpellsMembers.stops {body : List Char} {members : List (List Char × Value)}
    (spells : SpellsMembers false body members) (rest : List Char) : Stops (body ++ rest) := by
  cases spells with
  | @close _ blanks blank =>
    have brace : Stops ('\x7d' :: rest) := stops_cons (by decide) rest
    simpa using brace.blanks_append blank
  | member isLead =>
    rw [List.append_assoc]
    exact isLead.stops _

/-! ## How many items fit -/

theorem SpellsItems.length_lt {first : Bool} {body : List Char} {items : List Value}
    (spells : SpellsItems first body items) : items.length < body.length := by
  induction items generalizing first body with
  | nil => cases spells with | close => simp
  | cons item items ih =>
    cases spells with
    | item isLead spells more =>
      obtain ⟨c, rest, rfl, -⟩ := spells.head
      have shorter := ih more
      simp only [List.length_cons, List.length_append]
      omega

theorem SpellsMembers.length_lt {first : Bool} {body : List Char}
    {members : List (List Char × Value)} (spells : SpellsMembers first body members) :
    members.length < body.length := by
  induction members generalizing first body with
  | nil => cases spells with | close => simp
  | cons member members ih =>
    cases spells with
    | member isLead spellsKey blank gapBlank spells more =>
      have shorter := ih more
      simp only [List.length_cons, List.length_append]
      omega

end PluginSupport.Json
