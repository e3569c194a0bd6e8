import PluginSupport.Proofs.Json.Grammar

/-!
# Reading what is spelled

What the readers find in a spelling: the characters of a string, whichever escapes they come in
(`string_of_spells`), the number that a row of digits denotes (`number_of_read?`), and the next
place of a list or an object (`nextItem_more`, `nextKey_more`, `nextItem_close`, `nextKey_close`).

`Accepts read value a` says that a reader takes any JSON text of `value`, with white space in front
of it, off a text, and makes `a` of it.
-/
namespace PluginSupport.Json

/-! ## Strings -/

theorem isTrailing_of_isLeading {unit : Nat} (leading : isLeading unit = true) :
    isTrailing unit = false := by
  simp only [isLeading, isTrailing, decide_eq_true_eq, decide_eq_false_iff_not] at leading ⊢
  omega

theorem string_of_spells {spelled cs : List Char} (spells : SpellsText spelled cs)
    (rest : List Char) : string (spelled ++ '"' :: rest) = .ok (cs, rest) := by
  induction spells with
  | nil => simp [string.eq_def]
  | plain notQuote notBackslash printable more ih =>
    simp [string.eq_def (_ :: _), notQuote, notBackslash, Nat.not_lt.mpr printable, ih, consChar]
  | short escape more ih =>
    -- Which escape it is has to be known, for `u` would begin a code unit.
    unfold simpleEscape? at escape
    split at escape <;> cases escape <;> simp [string, simpleEscape?, ih, consChar]
  | long digits notLeading notTrailing more ih =>
    simp [string, digits, notLeading, notTrailing, ih, consChar]
  | pair leadDigits leading trailDigits trailing more ih =>
    have notTrailing := isTrailing_of_isLeading leading
    simp [string, leadDigits, notTrailing, leading, trailDigits, trailing, ih, consChar]

/-! ## Whole numbers -/

theorem digitRun_append {lexeme : List Char} (digits : ∀ c ∈ lexeme, c.isDigit = true)
    {rest : List Char} (noDigit : ∀ c ∈ rest.head?, c.isDigit = false) :
    digitRun (lexeme ++ rest) = (lexeme.map fun c => c.toNat - 48, rest) := by
  induction lexeme with
  | nil =>
    cases rest with
    | nil => rfl
    | cons c rest =>
      have noValue : Numeral.digitValue? 10 c = none := by
        refine Option.eq_none_iff_forall_ne_some.mpr fun d denotes => ?_
        have isDigit := (Numeral.digitValue?_ten_eq_some_iff.mp denotes).1
        rw [noDigit c rfl] at isDigit
        cases isDigit
      simp [digitRun, noValue]
  | cons c lexeme ih =>
    obtain ⟨isDigit, digits⟩ := List.forall_mem_cons.mp digits
    have denotes := Numeral.digitValue?_ten_eq_some_iff.mpr ⟨isDigit, rfl⟩
    simp [digitRun, denotes, ih digits]

/-- Digits that fit are all taken in. -/
theorem foldl_wholeDigit {ds : List Nat} (fits : Numeral.value 10 ds ≤ maxSignificand) :
    ds.foldl Significand.wholeDigit ⟨0, 0⟩ = ⟨Numeral.value 10 ds, 0⟩ := by
  induction ds using List.reverseRecOn with
  | nil => rfl
  | append_singleton ds d ih =>
    rw [Numeral.value_append] at fits
    rw [List.foldl_append, ih (by omega), Numeral.value_append]
    simp [Significand.wholeDigit, Nat.not_lt.mpr fits]

theorem afterWhole_of_stops {rest : List Char} (stops : Stops rest) (n : Nat) :
    afterWhole false ⟨n, 0⟩ rest = .ok (.natural n, rest) := by
  cases rest with
  | nil => rfl
  | cons c rest =>
    obtain ⟨-, notPoint, notSmall, notLarge⟩ := stops c rfl
    simp [afterWhole, notPoint, notSmall, notLarge]

/-- Nothing stands behind a leading zero. -/
theorem digits_ne_of_leading {whole : List Char} (digits : ∀ c ∈ whole, c.isDigit = true)
    (leading : whole.head? = some '0' → whole.length ≤ 1) (d : Nat) (ds : List Nat) :
    (whole.map fun c => c.toNat - 48) ≠ 0 :: d :: ds := by
  intro same
  cases whole with
  | nil => cases same
  | cons c whole =>
    obtain ⟨zero, others⟩ := List.cons.inj same
    have atLeast := (Char.isDigit_iff_toNat.mp (digits c List.mem_cons_self)).1
    obtain rfl : c = '0' := Char.toNat_inj.mp (Nat.le_antisymm (Nat.le_of_sub_eq_zero zero) atLeast)
    obtain rfl : whole = [] := by simpa using leading rfl
    cases others

/-- The whole digits of a number are taken in at once. -/
theorem unsignedNumber_append (negative : Bool) {whole : List Char} (digits : Digits whole)
    (leading : whole.head? = some '0' → whole.length ≤ 1) {rest : List Char}
    (noDigit : ∀ c ∈ rest.head?, c.isDigit = false) :
    unsignedNumber negative (whole ++ rest) =
      afterWhole negative
        ((whole.map fun c => c.toNat - 48).foldl Significand.wholeDigit ⟨0, 0⟩) rest := by
  obtain ⟨notEmpty, allDigits⟩ := digits
  have noZero := digits_ne_of_leading allDigits leading
  rw [unsignedNumber, digitRun_append allDigits noDigit]
  split
  · simp_all
  · simp_all
  · rename_i same
    exact absurd (congrArg Prod.fst same) (noZero _ _)
  · rename_i _ _ same
    cases same
    rfl

/-- A number is scanned as its whole digits and what follows them. -/
theorem number_append {sign whole : List Char} (signed : sign ∈ [[], ['-']])
    (digits : Digits whole) (leading : whole.head? = some '0' → whole.length ≤ 1)
    {rest : List Char} (noDigit : ∀ c ∈ rest.head?, c.isDigit = false) :
    number (sign ++ (whole ++ rest)) =
      afterWhole (sign = ['-'])
        ((whole.map fun c => c.toNat - 48).foldl Significand.wholeDigit ⟨0, 0⟩) rest := by
  obtain rfl | rfl : sign = [] ∨ sign = ['-'] := by simpa using signed
  · have unsigned := unsignedNumber_append false digits leading noDigit
    obtain ⟨c, more, rfl, -, notOther⟩ := digits.exists_cons
    have noSign : c ≠ '-' := notOther rfl
    simpa [number, noSign] using unsigned
  · exact unsignedNumber_append true digits leading noDigit

/-- Whole digits without a leading zero are read as the number that they denote. -/
theorem number_of_read? {lexeme : List Char} {n : Nat} (denotes : Numeral.read? 10 lexeme = some n)
    (leading : lexeme.head? = some '0' → lexeme.length ≤ 1) (fits : n ≤ maxSignificand)
    {rest : List Char} (stops : Stops rest) :
    number (lexeme ++ rest) = .ok (.natural n, rest) := by
  obtain ⟨notEmpty, ds, digits, rfl⟩ := Numeral.mapM_of_read? denotes
  obtain ⟨allDigits, rfl⟩ := Numeral.mapM_digitValue?_ten.mp digits
  have scanned := number_append List.mem_cons_self ⟨notEmpty, allDigits⟩ leading stops.noDigit
  rw [List.nil_append, foldl_wholeDigit fits] at scanned
  exact scanned.trans (afterWhole_of_stops stops _)

/-! ## Places of a list or an object -/

theorem nextItem_close (first : Bool) {blanks : List Char} (blank : Blanks blanks)
    (rest : List Char) : nextItem first (blanks ++ ']' :: rest) = .ok (.close rest) := by
  rw [nextItem, skipBlank_append blank, skipBlank_cons rfl]
  rfl

theorem nextItem_more {first : Bool} {lead : List Char} (isLead : Lead first lead) {c : Char}
    (notBlank : isBlank c = false) (notClose : c ≠ ']') (rest : List Char) :
    nextItem first (lead ++ c :: rest) = .ok (.more () (c :: rest)) := by
  cases isLead with
  | first blank =>
    rw [nextItem, skipBlank_append blank, skipBlank_cons notBlank]
    simp [notClose]
  | next blank gapBlank =>
    rw [nextItem, List.append_assoc, skipBlank_append blank, List.cons_append, skipBlank_cons rfl]
    simp [skipBlank_append gapBlank, skipBlank_cons notBlank, notClose]

theorem nextKey_close {α : Type} (readKey : Reader α) (first : Bool) {blanks : List Char}
    (blank : Blanks blanks) (rest : List Char) :
    nextKey readKey first (blanks ++ '\x7d' :: rest) = .ok (.close rest) := by
  rw [nextKey, skipBlank_append blank, skipBlank_cons rfl]
  rfl

theorem nextKey_quote {α : Type} (readKey : Reader α) {first : Bool} {lead : List Char}
    (isLead : Lead first lead) (rest : List Char) :
    nextKey readKey first (lead ++ '"' :: rest) = key readKey rest := by
  cases isLead with
  | first blank =>
    rw [nextKey, skipBlank_append blank, skipBlank_cons rfl]
    simp
  | next blank gapBlank =>
    rw [nextKey, List.append_assoc, skipBlank_append blank, List.cons_append, skipBlank_cons rfl]
    simp [skipBlank_append gapBlank, skipBlank_cons, isBlank]

theorem nextKey_more {α : Type} {readKey : Reader α} {first : Bool} {lead name : List Char} {a : α}
    {rest : List Char} (isLead : Lead first lead)
    (keyRead : readKey (name ++ '"' :: rest) = .ok (a, rest)) :
    nextKey readKey first (lead ++ '"' :: (name ++ '"' :: rest)) = .ok (.more a rest) := by
  rw [nextKey_quote readKey isLead, key, keyRead]

theorem colon_append {blanks : List Char} (blank : Blanks blanks) (rest : List Char) :
    colon (blanks ++ ':' :: rest) = .ok rest := by
  rw [colon, skipBlank_append blank, skipBlank_cons rfl]
  rfl

/-! ## Documents -/

/-- Whether a reader takes every spelling of a value, with white space in front, as `a`. -/
def Accepts {α : Type} (read : Reader α) (value : Value) (a : α) : Prop :=
  ∀ ⦃blanks spelled rest : List Char⦄, Blanks blanks → Spells spelled value → Stops rest →
    read (blanks ++ (spelled ++ rest)) = .ok (a, rest)

theorem document_of_spells {α : Type} {read : Reader α} {value : Value} {a : α}
    (accepts : Accepts read value a) {cs : List Char} (spells : Spells cs value) :
    document read cs = .ok a := by
  have whole := accepts blanks_nil spells stops_nil
  rw [List.nil_append, List.append_nil] at whole
  rw [document, whole]
  rfl

end PluginSupport.Json
