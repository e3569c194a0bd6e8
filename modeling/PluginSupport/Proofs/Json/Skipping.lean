import PluginSupport.Json.Skip
import PluginSupport.Proofs.Json.Reading

/-!
# Skipping passes over every spelling

A value that nobody asked for is passed over, however it is spelled and however deep it is nested
(`skipValue_of_spells`). Skipping takes at most two steps for each character.
-/
namespace PluginSupport.Json

/-! ## Strings -/

theorem skipString_of_spells {spelled cs : List Char} (spells : SpellsText spelled cs)
    (rest : List Char) : skipString (spelled ++ '"' :: rest) = .ok rest := by
  induction spells with
  | nil => simp [skipString.eq_def]
  | plain notQuote notBackslash printable more ih =>
    simp [skipString.eq_def (_ :: _), notQuote, notBackslash, Nat.not_lt.mpr printable, ih]
  | short escape more ih =>
    unfold simpleEscape? at escape
    split at escape <;> cases escape <;> simp [skipString, simpleEscape?, ih]
  | long digits notLeading notTrailing more ih => simp [skipString, digits, ih]
  | pair leadDigits leading trailDigits trailing more ih =>
    simp [skipString, leadDigits, trailDigits, ih]

/-! ## Numbers -/

theorem IsExponent.noDigit {exponent : List Char} (isExponent : IsExponent exponent)
    {rest : List Char} (stops : Stops rest) :
    ∀ c ∈ (exponent ++ rest).head?, c.isDigit = false := by
  cases isExponent with
  | absent => exact stops.noDigit
  | @present mark _ _ marked =>
    rintro c head
    obtain rfl : mark = c := Option.some.inj head
    obtain rfl | rfl := marked <;> rfl

theorem IsFraction.noDigit {fraction : List Char} (isFraction : IsFraction fraction)
    {rest : List Char} (noDigit : ∀ c ∈ rest.head?, c.isDigit = false) :
    ∀ c ∈ (fraction ++ rest).head?, c.isDigit = false := by
  cases isFraction with
  | absent => exact noDigit
  | present =>
    rintro c head
    obtain rfl : '.' = c := Option.some.inj head
    rfl

theorem digitRun_of_digits {cs : List Char} (digits : Digits cs) {rest : List Char}
    (noDigit : ∀ c ∈ rest.head?, c.isDigit = false) :
    ∃ d ds, digitRun (cs ++ rest) = (d :: ds, rest) := by
  have run := digitRun_append digits.2 noDigit
  obtain ⟨c, more, rfl, -⟩ := digits.exists_cons
  exact ⟨_, _, run⟩

theorem skipExponent_append {sign cs : List Char} (signed : sign ∈ [[], ['+'], ['-']])
    (digits : Digits cs) {rest : List Char} (noDigit : ∀ c ∈ rest.head?, c.isDigit = false) :
    skipExponent (sign ++ (cs ++ rest)) = .ok rest := by
  obtain ⟨d, ds, run⟩ := digitRun_of_digits digits noDigit
  obtain rfl | rfl | rfl : sign = [] ∨ sign = ['+'] ∨ sign = ['-'] := by simpa using signed
  · -- The first digit is no sign.
    obtain ⟨c, more, rfl, -, notOther⟩ := digits.exists_cons
    have notPlus : c ≠ '+' := notOther rfl
    have notMinus : c ≠ '-' := notOther rfl
    rw [List.cons_append] at run
    simp [skipExponent, notPlus, notMinus, run]
  · simp [skipExponent, run]
  · simp [skipExponent, run]

theorem skipExponent?_append {exponent : List Char} (isExponent : IsExponent exponent)
    {rest : List Char} (stops : Stops rest) : skipExponent? (exponent ++ rest) = .ok rest := by
  cases isExponent with
  | absent =>
    cases rest with
    | nil => rfl
    | cons c rest =>
      obtain ⟨-, -, notSmall, notLarge⟩ := stops c rfl
      simp [skipExponent?, notSmall, notLarge]
  | present marked signed digits =>
    have skipped := skipExponent_append signed digits stops.noDigit
    obtain rfl | rfl := marked <;> simpa [skipExponent?] using skipped

theorem IsExponent.ne_point {exponent : List Char} (isExponent : IsExponent exponent)
    {rest : List Char} (stops : Stops rest) (more : List Char) :
    exponent ++ rest ≠ '.' :: more := by
  cases isExponent with
  | absent =>
    rintro rfl
    exact (stops '.' rfl).2.1 rfl
  | present marked =>
    intro same
    obtain rfl | rfl := marked <;> cases same

theorem skipUnsigned_append {whole fraction exponent : List Char} (digits : Digits whole)
    (leading : whole.head? = some '0' → whole.length ≤ 1) (isFraction : IsFraction fraction)
    (isExponent : IsExponent exponent) {rest : List Char} (stops : Stops rest) :
    skipUnsigned (whole ++ (fraction ++ (exponent ++ rest))) = .ok rest := by
  have noZero := digits_ne_of_leading digits.2 leading
  have afterFraction := isExponent.noDigit stops
  have skipped := skipExponent?_append isExponent stops
  rw [skipUnsigned, digitRun_append digits.2 (isFraction.noDigit afterFraction)]
  cases isFraction with
  | absent =>
    split
    · simp_all [Digits]
    · rename_i same
      exact absurd (congrArg Prod.fst same) (noZero _ _)
    · rename_i same
      exact absurd (congrArg Prod.snd same) (isExponent.ne_point stops _)
    · rename_i same
      cases same
      exact skipped
  | present fractionDigits =>
    obtain ⟨d, ds, run⟩ := digitRun_of_digits fractionDigits afterFraction
    rw [List.cons_append]
    split
    · simp_all [Digits]
    · rename_i same
      exact absurd (congrArg Prod.fst same) (noZero _ _)
    · rename_i same
      cases same
      rw [run]
      exact skipped
    · rename_i notPoint same
      exact (notPoint _ (congrArg Prod.snd same).symm).elim

theorem skipNumber_of_isNumber {lexeme : List Char} (isNumber : IsNumber lexeme)
    {rest : List Char} (stops : Stops rest) : skipNumber (lexeme ++ rest) = .ok rest := by
  cases isNumber with
  | @intro sign whole fraction exponent signed digits leading isFraction isExponent =>
    have skipped := skipUnsigned_append digits leading isFraction isExponent stops
    simp only [List.append_assoc]
    obtain rfl | rfl : sign = [] ∨ sign = ['-'] := by simpa using signed
    · obtain ⟨c, more, rfl, -, notOther⟩ := digits.exists_cons
      have noSign : c ≠ '-' := notOther rfl
      simpa [skipNumber, noSign] using skipped
    · exact skipped

/-! ## Values -/

/-- Whether `fuel` steps suffice to pass over texts with at most half as many characters. -/
structure Skips (fuel : Nat) : Prop where
  value : ∀ ⦃blanks cs rest : List Char⦄ ⦃value : Value⦄, Blanks blanks → Spells cs value →
    2 * cs.length ≤ fuel → Stops rest → skipValue fuel (blanks ++ (cs ++ rest)) = .ok rest
  items : ∀ ⦃first : Bool⦄ ⦃body rest : List Char⦄ ⦃items : List Value⦄,
    SpellsItems first body items → 2 * body.length ≤ fuel →
    skipItems fuel first (body ++ rest) = .ok rest
  members : ∀ ⦃first : Bool⦄ ⦃body rest : List Char⦄ ⦃members : List (List Char × Value)⦄,
    SpellsMembers first body members → 2 * body.length ≤ fuel →
    skipMembers fuel first (body ++ rest) = .ok rest

theorem Skips.value_succ {fuel : Nat} (skips : Skips fuel) {blanks cs rest : List Char}
    {value : Value} (blank : Blanks blanks) (spells : Spells cs value)
    (enough : 2 * cs.length ≤ fuel + 1) (stops : Stops rest) :
    skipValue (fuel + 1) (blanks ++ (cs ++ rest)) = .ok rest := by
  obtain ⟨c, more, same, opens⟩ := spells.opens
  have begun : skipBlank (blanks ++ (cs ++ rest)) = cs ++ rest := by
    rw [skipBlank_append blank, same, List.cons_append, skipBlank_cons opens.notBlank.1]
  rw [skipValue, begun]
  cases spells with
  | null => rfl
  | yes => rfl
  | no => rfl
  | number isNumber =>
    have isStart := opens.of_number
    have notNull : c ≠ 'n' := opens.ne_of_number (by decide)
    have notTrue : c ≠ 't' := opens.ne_of_number (by decide)
    have notFalse : c ≠ 'f' := opens.ne_of_number (by decide)
    have skipped := skipNumber_of_isNumber isNumber stops
    rw [same] at skipped ⊢
    rw [List.cons_append] at skipped ⊢
    simpa [isStart, notNull, notTrue, notFalse] using skipped
  | @text spelled _ spells =>
    show skipString (spelled ++ ['"'] ++ rest) = .ok rest
    rw [List.append_assoc]
    exact skipString_of_spells spells rest
  | @list body _ spells =>
    have shorter : 2 * body.length ≤ fuel := by
      rw [List.length_cons] at enough
      omega
    exact skips.items spells shorter
  | @object body _ spells =>
    have shorter : 2 * body.length ≤ fuel := by
      rw [List.length_cons] at enough
      omega
    exact skips.members spells shorter

theorem Skips.items_succ {fuel : Nat} (skips : Skips fuel) {first : Bool} {body rest : List Char}
    {items : List Value} (spells : SpellsItems first body items)
    (enough : 2 * body.length ≤ fuel + 1) :
    skipItems (fuel + 1) first (body ++ rest) = .ok rest := by
  cases spells with
  | close blank =>
    rw [List.append_assoc, skipItems]
    simp [nextItem_close first blank, bind, Except.bind]
  | @item _ lead spelled body _ _ isLead spells more =>
    have somethingHere := spells.length_pos
    have somethingLater := more.length_lt
    simp only [List.length_append] at enough
    have here : skipValue fuel (spelled ++ (body ++ rest)) = .ok (body ++ rest) :=
      skips.value blanks_nil spells (by omega) (more.stops rest)
    have later : skipItems fuel false (body ++ rest) = .ok rest := skips.items more (by omega)
    obtain ⟨c, tail, same, notBlank, notClose⟩ := spells.head
    rw [same, List.cons_append] at here
    rw [List.append_assoc, List.append_assoc, same, List.cons_append, skipItems,
      nextItem_more isLead notBlank notClose]
    simp [here, later, bind, Except.bind]

theorem Skips.members_succ {fuel : Nat} (skips : Skips fuel) {first : Bool}
    {body rest : List Char} {members : List (List Char × Value)}
    (spells : SpellsMembers first body members) (enough : 2 * body.length ≤ fuel + 1) :
    skipMembers (fuel + 1) first (body ++ rest) = .ok rest := by
  cases spells with
  | close blank =>
    rw [List.append_assoc, skipMembers]
    simp [nextKey_close skippedKey first blank, bind, Except.bind]
  | @member _ lead name blanks gap spelled body _ _ _ isLead spellsKey blank gapBlank spells
      more =>
    simp only [List.length_append, List.length_cons] at enough
    have here : skipValue fuel (gap ++ (spelled ++ (body ++ rest))) = .ok (body ++ rest) :=
      skips.value gapBlank spells (by omega) (more.stops rest)
    have later : skipMembers fuel false (body ++ rest) = .ok rest :=
      skips.members more (by omega)
    have keySkipped : ∀ rest, skippedKey (name ++ '"' :: rest) = .ok ((), rest) := by
      intro rest
      rw [skippedKey, skipString_of_spells spellsKey]
      rfl
    simp only [List.append_assoc, List.cons_append]
    rw [skipMembers, nextKey_more isLead (keySkipped _)]
    simp [colon_append blank, here, later, bind, Except.bind]

theorem skips (fuel : Nat) : Skips fuel := by
  induction fuel with
  | zero =>
    -- No text is empty.
    refine ⟨fun _ _ _ _ _ spells enough => ?_, fun _ _ _ _ spells enough => ?_,
      fun _ _ _ _ spells enough => ?_⟩
    · have := spells.length_pos
      omega
    · have := spells.length_lt
      omega
    · have := spells.length_lt
      omega
  | succ fuel ih =>
    exact ⟨fun _ _ _ _ => ih.value_succ, fun _ _ _ _ => ih.items_succ,
      fun _ _ _ _ => ih.members_succ⟩

/-- A value that nobody asked for is passed over. -/
theorem skipValue_of_spells {blanks cs rest : List Char} {value : Value} (blank : Blanks blanks)
    (spells : Spells cs value) (stops : Stops rest) :
    skipValue (enoughFuel (blanks ++ (cs ++ rest))) (blanks ++ (cs ++ rest)) = .ok rest := by
  refine (skips _).value blank spells ?_ stops
  simp only [enoughFuel, List.length_append]
  omega

end PluginSupport.Json
