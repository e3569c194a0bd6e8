import PluginSupport.Proofs.Json.Filling

/-!
# Texts that are cut short

What readers make of a front part of a JSON text (`Cuts`). Wherever the cut falls, a reader gets to
the end of the text before it has anything else to complain of, so what it reports is that the text
ended early (`EndsEarly`).

A number is the exception: a front part of one is another number, so its reader may be content with
what is left (`Exhausts`). Within a list or an object that makes no difference, for the closing
bracket is missing then.

* `string_of_cuts`: a string is missed without its closing quote, wherever in an escape the cut is.
* `misses_list`, `misses_record`: lists and objects are missed without their closing bracket.
* `Misses.document`: so is a document.

Members that a record does not know are left out here: they are passed over by scanners that do not
tell an early end from a wrong character.
-/
namespace PluginSupport.Json

/-! ## Cuts -/

/-- `Cuts cut whole`: the text `cut` is a front part of `whole`, and not all of it. -/
inductive Cuts : (cut whole : List Char) → Prop
  | off {c : Char} {rest : List Char} : Cuts [] (c :: rest)
  | past {c : Char} {cut rest : List Char} (more : Cuts cut rest) : Cuts (c :: cut) (c :: rest)

theorem cuts_iff {cut whole : List Char} : Cuts cut whole ↔ cut <+: whole ∧ cut ≠ whole := by
  constructor
  · intro cuts
    induction cuts with
    | off => exact ⟨List.nil_prefix, (List.cons_ne_nil _ _).symm⟩
    | @past c _ _ _ ih =>
      exact ⟨(List.prefix_cons_inj c).mpr ih.1, fun same => ih.2 (List.cons.inj same).2⟩
  · rintro ⟨front, different⟩
    induction cut generalizing whole with
    | nil =>
      obtain ⟨c, rest, rfl⟩ := List.exists_cons_of_ne_nil different.symm
      exact .off
    | cons c cut ih =>
      obtain ⟨rest, rfl⟩ := front
      exact .past (ih (List.prefix_append cut rest) fun same => different (congrArg _ same))

/-- A cut falls into the front of a text, or into what is behind. -/
theorem Cuts.append {cut front back : List Char} (cuts : Cuts cut (front ++ back)) :
    Cuts cut front ∨ ∃ later, cut = front ++ later ∧ Cuts later back := by
  induction front generalizing cut with
  | nil => exact .inr ⟨cut, rfl, cuts⟩
  | cons c front ih =>
    cases cuts with
    | off => exact .inl .off
    | past more =>
      rcases ih more with here | ⟨later, rfl, behind⟩
      · exact .inl (.past here)
      · exact .inr ⟨later, rfl, behind⟩

theorem Cuts.length_lt {cut whole : List Char} (cuts : Cuts cut whole) :
    cut.length < whole.length := by
  obtain ⟨front, different⟩ := cuts_iff.mp cuts
  exact Nat.lt_of_le_of_ne front.length_le fun same => different (front.eq_of_length same)

theorem Cuts.subset {cut whole : List Char} (cuts : Cuts cut whole) : cut ⊆ whole :=
  (cuts_iff.mp cuts).1.subset

/-- What is cut off a text is at least its last character. -/
theorem Cuts.isPrefix {cut front : List Char} {c : Char} (cuts : Cuts cut (front ++ [c])) :
    cut <+: front := by
  rcases cuts.append with here | ⟨later, rfl, last⟩
  · exact (cuts_iff.mp here).1
  · cases last with
    | off => simp
    | past more => cases more

theorem Blanks.of_isPrefix {cut blanks : List Char} (blank : Blanks blanks)
    (front : cut <+: blanks) : Blanks cut :=
  fun c member => blank c (front.subset member)

theorem Cuts.stops {cut whole : List Char} (cuts : Cuts cut whole) (stops : Stops whole) :
    Stops cut := by
  cases cuts with
  | off => exact stops_nil
  | past => exact stops

/-- A value is more than nothing. -/
theorem Spells.cuts_nil {spelled : List Char} {value : Value} (spells : Spells spelled value) :
    Cuts [] spelled := by
  obtain ⟨c, rest, rfl, -⟩ := spells.opens
  exact .off

/-! ## The end of the text -/

/-- Whether reading stopped because the text ended early. -/
def EndsEarly {α : Type} (result : Except Fault α) : Prop :=
  ∃ fault, result = .error fault ∧ fault.category = .endOfInput

/-- Whether reading got to the end of the text: it stopped there, or nothing is left. -/
def GetsToEnd {α : Type} (result : Except Fault (α × List Char)) : Prop :=
  EndsEarly result ∨ ∃ a, result = .ok (a, [])

theorem EndsEarly.bind {α β : Type} {result : Except Fault α} (ends : EndsEarly result)
    (next : α → Except Fault β) : EndsEarly (result >>= next) := by
  obtain ⟨fault, rfl, category⟩ := ends
  exact ⟨fault, rfl, category⟩

theorem EndsEarly.map {α β : Type} {result : Except Fault α} (ends : EndsEarly result)
    (f : α → β) : EndsEarly (result.map f) := by
  obtain ⟨fault, rfl, category⟩ := ends
  exact ⟨fault, rfl, category⟩

theorem endsEarly_onto {α : Type} {cause : Cause} (category : cause.category = .endOfInput)
    (rest : List Char) : EndsEarly (.error (.onto cause rest) : Except Fault α) :=
  ⟨_, rfl, category⟩

/-- Whether a reader reports an early end wherever the spelling of a value is cut. -/
def Misses {α : Type} (read : Reader α) (value : Value) : Prop :=
  ∀ ⦃blanks spelled cut : List Char⦄, Blanks blanks → Spells spelled value → Cuts cut spelled →
    EndsEarly (read (blanks ++ cut))

/-- Whether a reader gets to the end wherever the spelling of a value is cut. -/
def Exhausts {α : Type} (read : Reader α) (value : Value) : Prop :=
  ∀ ⦃blanks spelled cut : List Char⦄, Blanks blanks → Spells spelled value → Cuts cut spelled →
    GetsToEnd (read (blanks ++ cut))

theorem Misses.exhausts {α : Type} {read : Reader α} {value : Value}
    (misses : Misses read value) : Exhausts read value :=
  fun _ _ _ blank spells cuts => .inl (misses blank spells cuts)

/-! ## Strings -/

theorem utf8Size_of_digitValue? {c : Char} (digit : Numeral.digitValue? 16 c ≠ none) :
    c.utf8Size = 1 := by
  rw [Char.utf8Size_eq_one_iff]
  by_contra beyond
  refine digit ?_
  have large : 127 < c.toNat := by
    simpa [UInt32.lt_iff_toNat_lt] using beyond
  simp only [Numeral.digitValue?]
  rw [if_neg (by omega), if_neg (by omega), if_neg (by omega)]
  rfl

/-- Fewer than four digits of an escape are an early end. -/
theorem hexFault_category {cs : List Char} (few : cs.length < 4)
    (digits : ∀ c ∈ cs, Numeral.digitValue? 16 c ≠ none) :
    (hexFault cs).category = .endOfInput := by
  have bytes : byteLength cs = cs.length := by
    clear few
    induction cs with
    | nil => rfl
    | cons c cs ih =>
      obtain ⟨first, rest⟩ := List.forall_mem_cons.mp digits
      rw [byteLength, List.foldr_cons, ← byteLength, ih rest, utf8Size_of_digitValue? first,
        List.length_cons, Nat.add_comm]
  rw [hexFault, if_pos (bytes ▸ few)]
  rfl

theorem digits_of_hex4? {h1 h2 h3 h4 : Char} {unit : Nat}
    (digits : hex4? h1 h2 h3 h4 = some unit) :
    ∀ c ∈ [h1, h2, h3, h4], Numeral.digitValue? 16 c ≠ none := by
  obtain ⟨ds, all, -⟩ := Option.map_eq_some_iff.mp digits
  exact (Numeral.digits_of_mapM all).2.2

/-- An escape that is cut among its four digits is an early end. -/
theorem endsEarly_hexFault {α : Type} {h1 h2 h3 h4 : Char} {unit : Nat}
    (digits : hex4? h1 h2 h3 h4 = some unit) {cut : List Char} (cuts : Cuts cut [h1, h2, h3, h4]) :
    EndsEarly (.error (hexFault cut) : Except Fault α) := by
  exact ⟨_, rfl, hexFault_category cuts.length_lt fun c member =>
    digits_of_hex4? digits c (cuts.subset member)⟩

theorem string_shortUnit {hex : List Char} (few : hex.length < 4) :
    string ('\\' :: 'u' :: hex) = .error (hexFault hex) := by
  obtain _ | ⟨_, _ | ⟨_, _ | ⟨_, _ | ⟨_, _⟩⟩⟩⟩ := hex
  · simp [string]
  · simp [string]
  · simp [string]
  · simp [string]
  · simp only [List.length_cons] at few
    omega

/-- Behind the first half of a pair it is the digits of the second half that are missing. -/
theorem string_shortTrail {h1 h2 h3 h4 : Char} {unit : Nat}
    (digits : hex4? h1 h2 h3 h4 = some unit) (leading : isLeading unit = true) {hex : List Char}
    (few : hex.length < 4) :
    string ('\\' :: 'u' :: h1 :: h2 :: h3 :: h4 :: '\\' :: 'u' :: hex) =
      .error (hexFault hex) := by
  have notTrailing := isTrailing_of_isLeading leading
  obtain _ | ⟨_, _ | ⟨_, _ | ⟨_, _ | ⟨_, _⟩⟩⟩⟩ := hex
  · simp [string, digits, leading, notTrailing]
  · simp [string, digits, leading, notTrailing]
  · simp [string, digits, leading, notTrailing]
  · simp [string, digits, leading, notTrailing]
  · simp only [List.length_cons] at few
    omega

theorem EndsEarly.consChar {result : Except Fault (List Char × List Char)}
    (ends : EndsEarly result) (c : Char) : EndsEarly (consChar c result) := by
  obtain ⟨fault, rfl, category⟩ := ends
  exact ⟨fault, rfl, category⟩

/-- A string is missed without its closing quote. -/
theorem string_of_cuts {spelled cs cut : List Char} (spells : SpellsText spelled cs)
    (cuts : Cuts cut (spelled ++ ['"'])) : EndsEarly (string cut) := by
  have nothing : EndsEarly (string []) := ⟨_, rfl, rfl⟩
  have backslash : EndsEarly (string ['\\']) := ⟨_, rfl, rfl⟩
  induction spells generalizing cut with
  | nil =>
    cases cuts with
    | off => exact nothing
    | past more => cases more
  | @plain c _ _ notQuote notBackslash printable _ ih =>
    cases cuts with
    | off => exact nothing
    | @past _ cut _ more =>
      have taken : string (c :: cut) = consChar c (string cut) := by
        simp [string.eq_def (_ :: _), notQuote, notBackslash, Nat.not_lt.mpr printable]
      exact taken ▸ (ih more).consChar c
  | @short e c _ _ escape _ ih =>
    rcases cuts with _ | ⟨_ | @⟨_, cut, _, more⟩⟩
    · exact nothing
    · exact backslash
    · have taken : string ('\\' :: e :: cut) = consChar c (string cut) := by
        unfold simpleEscape? at escape
        split at escape <;> cases escape <;> simp [string, simpleEscape?]
      exact taken ▸ (ih more).consChar c
  | @long h1 h2 h3 h4 unit spelled _ digits notLeading notTrailing _ ih =>
    rcases cuts with _ | ⟨_ | @⟨_, cut, _, more⟩⟩
    · exact nothing
    · exact backslash
    · have unitCut : Cuts cut ([h1, h2, h3, h4] ++ (spelled ++ ['"'])) := more
      rcases unitCut.append with among | ⟨cut, rfl, behind⟩
      · rw [string_shortUnit among.length_lt]
        exact endsEarly_hexFault digits among
      · have taken : string ('\\' :: 'u' :: h1 :: h2 :: h3 :: h4 :: cut) =
            consChar (Char.ofNat unit) (string cut) := by
          simp [string, digits, notLeading, notTrailing]
        exact taken ▸ (ih behind).consChar _
  | @pair h1 h2 h3 h4 k1 k2 k3 k4 lead trail spelled _ leadDigits leading trailDigits trailing _
      ih =>
    have notTrailing := isTrailing_of_isLeading leading
    rcases cuts with _ | ⟨_ | @⟨_, cut, _, more⟩⟩
    · exact nothing
    · exact backslash
    · have leadCut : Cuts cut
          ([h1, h2, h3, h4] ++ '\\' :: 'u' :: ([k1, k2, k3, k4] ++ (spelled ++ ['"']))) := more
      rcases leadCut.append with among | ⟨cut, rfl, behind⟩
      · rw [string_shortUnit among.length_lt]
        exact endsEarly_hexFault leadDigits among
      · -- The first half alone is not taken off, so what is behind it has cases of its own.
        rcases behind with _ | ⟨_ | @⟨_, cut, _, more⟩⟩
        · exact ⟨.before .endInString [], by simp [string, leadDigits, leading, notTrailing], rfl⟩
        · exact ⟨.before .endInString [], by simp [string, leadDigits, leading, notTrailing], rfl⟩
        · rcases more.append with among | ⟨cut, rfl, behind⟩
          · have missed : string ('\\' :: 'u' :: ([h1, h2, h3, h4] ++ '\\' :: 'u' :: cut)) =
                .error (hexFault cut) := string_shortTrail leadDigits leading among.length_lt
            exact missed ▸ endsEarly_hexFault trailDigits among
          · have taken : string ('\\' :: 'u' :: h1 :: h2 :: h3 :: h4 ::
                '\\' :: 'u' :: k1 :: k2 :: k3 :: k4 :: cut) =
                consChar (pairChar lead trail) (string cut) := by
              simp [string, leadDigits, notTrailing, leading, trailDigits, trailing]
            exact taken ▸ (ih behind).consChar _

/-! ## Scalars -/

theorem word_of_cuts {whole cut : List Char} (cuts : Cuts cut whole) :
    EndsEarly (word whole cut) := by
  induction cuts with
  | off => exact endsEarly_onto rfl []
  | past _ ih =>
    rw [word, if_pos rfl]
    exact ih

theorem misses_text (cs : List Char) : Misses readText (.text cs) := by
  intro blanks spelled cut blank spells cuts
  cases spells with
  | text spells =>
    cases cuts with
    | off =>
      rw [List.append_nil, readText, skipBlank_blanks blank]
      exact endsEarly_onto rfl []
    | past more =>
      rw [readText, skipBlank_append blank, skipBlank_cons rfl]
      exact (string_of_cuts spells more).map _

theorem misses_flag (b : Bool) : Misses readFlag (.bool b) := by
  intro blanks spelled cut blank spells cuts
  cases cuts with
  | off =>
    rw [List.append_nil, readFlag, skipBlank_blanks blank]
    exact endsEarly_onto rfl []
  | past more =>
    cases spells with
    | yes =>
      rw [readFlag, skipBlank_append blank, skipBlank_cons rfl]
      exact (word_of_cuts more).map _
    | no =>
      rw [readFlag, skipBlank_append blank, skipBlank_cons rfl]
      exact (word_of_cuts more).map _

/-- The front digits of an index are another index. -/
theorem exhausts_index {lexeme : List Char} {index : UInt32}
    (isIndex : (Value.number lexeme).asIndex? = some index) :
    Exhausts readIndex (.number lexeme) := by
  intro blanks spelled cut blank spells cuts
  cases spells with
  | number isNumber =>
    cases cut with
    | nil =>
      rw [List.append_nil, readIndex, skipBlank_blanks blank]
      exact .inl (endsEarly_onto rfl [])
    | cons c more =>
      have isFront := (cuts_iff.mp cuts).1
      obtain ⟨_, same, denotes⟩ := (Value.asIndex?_eq_some_iff _ _).mp isIndex
      cases same
      obtain ⟨-, allDigits, -⟩ := Numeral.read?_ten_eq_some_iff.mp denotes
      obtain ⟨n, atMost, denotesFront⟩ :=
        Numeral.read?_of_isPrefix (by decide) denotes isFront (List.cons_ne_nil c more)
      have digits : Digits (c :: more) :=
        ⟨List.cons_ne_nil c more, fun d member => allDigits d (isFront.subset member)⟩
      have leading : (c :: more).head? = some '0' → (c :: more).length ≤ 1 := by
        intro zero
        refine Nat.le_trans isFront.length_le (isNumber.leading allDigits ?_)
        obtain ⟨back, rfl⟩ := isFront
        exact zero
      have small : n < UInt32.size := Nat.lt_of_le_of_lt atMost index.toNat_lt
      have isFrontIndex : (Value.number (c :: more)).asIndex? = some (UInt32.ofNat n) := by
        rw [Value.asIndex?, denotesFront, Option.bind_some, if_pos small]
      have read := decides_index.accepts isFrontIndex blank (.number (digits.isNumber leading))
        stops_nil
      rw [List.append_nil] at read
      exact .inr ⟨_, read⟩

/-! ## Places of a list or an object -/

theorem nextItem_of_blanks (first : Bool) {blanks : List Char} (blank : Blanks blanks) :
    EndsEarly (nextItem first blanks) := by
  rw [nextItem, skipBlank_blanks blank]
  exact endsEarly_onto rfl []

theorem nextKey_of_blanks {α : Type} (readKey : Reader α) (first : Bool) {blanks : List Char}
    (blank : Blanks blanks) : EndsEarly (nextKey readKey first blanks) := by
  rw [nextKey, skipBlank_blanks blank]
  exact endsEarly_onto rfl []

/-- What stands in front of an item is nothing but white space, or has its comma. -/
theorem Lead.of_isPrefix {first : Bool} {lead cut : List Char} (isLead : Lead first lead)
    (isFront : cut <+: lead) :
    Blanks cut ∨ first = false ∧ ∃ blanks gap, Blanks blanks ∧ Blanks gap ∧
      cut = blanks ++ ',' :: gap := by
  cases isLead with
  | first blank => exact .inl (blank.of_isPrefix isFront)
  | @next blanks gap blank gapBlank =>
    obtain ⟨back, same⟩ := isFront
    rcases List.append_eq_append_iff.mp same with ⟨_, rfl, -⟩ | ⟨later, rfl, behind⟩
    · exact .inl (blank.of_isPrefix (List.prefix_append cut _))
    · cases later with
      | nil =>
        rw [List.append_nil]
        exact .inl blank
      | cons c later =>
        obtain ⟨rfl, rfl⟩ := List.cons.inj behind
        exact .inr ⟨rfl, blanks, later, blank, gapBlank.of_isPrefix (List.prefix_append later _),
          rfl⟩

theorem nextItem_of_lead {first : Bool} {lead cut : List Char} (isLead : Lead first lead)
    (isFront : cut <+: lead) : EndsEarly (nextItem first cut) := by
  rcases isLead.of_isPrefix isFront with blank | ⟨rfl, blanks, gap, blank, gapBlank, rfl⟩
  · exact nextItem_of_blanks first blank
  · rw [nextItem, skipBlank_append blank, skipBlank_cons rfl]
    simp only [skipBlank_blanks gapBlank]
    exact endsEarly_onto rfl []

theorem nextKey_of_lead {α : Type} (readKey : Reader α) {first : Bool} {lead cut : List Char}
    (isLead : Lead first lead) (isFront : cut <+: lead) :
    EndsEarly (nextKey readKey first cut) := by
  rcases isLead.of_isPrefix isFront with blank | ⟨rfl, blanks, gap, blank, gapBlank, rfl⟩
  · exact nextKey_of_blanks readKey first blank
  · rw [nextKey, skipBlank_append blank, skipBlank_cons rfl]
    simp only [skipBlank_blanks gapBlank]
    exact endsEarly_onto rfl []

theorem colon_of_blanks {blanks : List Char} (blank : Blanks blanks) :
    EndsEarly (colon blanks) := by
  rw [colon, skipBlank_blanks blank]
  exact endsEarly_onto rfl []

/-- The value at the next place is not passed before the end of what is cut. -/
theorem Exhausts.of_cuts {α : Type} {read : Reader α} {value : Value}
    (exhausts : Exhausts read value) {gap spelled back cut : List Char} (blank : Blanks gap)
    (spells : Spells spelled value) (cuts : Cuts cut (gap ++ (spelled ++ back))) :
    GetsToEnd (read cut) ∨ ∃ later, cut = gap ++ (spelled ++ later) ∧ Cuts later back := by
  rcases cuts.append with inGap | ⟨later, rfl, behind⟩
  · have gapBlank := blank.of_isPrefix (cuts_iff.mp inGap).1
    have ends := exhausts gapBlank spells spells.cuts_nil
    rw [List.append_nil] at ends
    exact .inl ends
  · rcases behind.append with inValue | ⟨later, rfl, inBack⟩
    · exact .inl (exhausts blank spells inValue)
    · exact .inr ⟨later, rfl, inBack⟩

/-! ## Lists -/

theorem readListItems_nil {α : Type} (read : Reader α) {fuel : Nat} (enough : 0 < fuel) :
    EndsEarly (readListItems read fuel false []) := by
  obtain ⟨fuel, rfl⟩ := Nat.exists_eq_succ_of_ne_zero (Nat.ne_of_gt enough)
  rw [readListItems]
  exact (nextItem_of_blanks false blanks_nil).bind _

theorem readListItems_of_cuts {α : Type} {read : Reader α} {items : List Value}
    (each : ∀ item ∈ items, (∃ a, Accepts read item a) ∧ Exhausts read item) {first : Bool}
    {body cut : List Char} (spells : SpellsItems first body items) (cuts : Cuts cut body)
    {fuel : Nat} (enough : cut.length < fuel) :
    EndsEarly (readListItems read fuel first cut) := by
  induction items generalizing first body cut fuel with
  | nil =>
    obtain ⟨fuel, rfl⟩ := Nat.exists_eq_succ_of_ne_zero (Nat.ne_zero_of_lt enough)
    cases spells with
    | close blank =>
      rw [readListItems]
      exact (nextItem_of_blanks first (blank.of_isPrefix cuts.isPrefix)).bind _
  | cons item items ih =>
    obtain ⟨fuel, rfl⟩ := Nat.exists_eq_succ_of_ne_zero (Nat.ne_zero_of_lt enough)
    obtain ⟨⟨⟨a, accepts⟩, exhausts⟩, others⟩ := List.forall_mem_cons.mp each
    cases spells with
    | @item _ lead spelled back _ _ isLead spells more =>
      rw [readListItems]
      rcases cuts.append with inLead | ⟨cut, rfl, behind⟩
      · exact (nextItem_of_lead isLead (cuts_iff.mp inLead).1).bind _
      · cases cut with
        | nil =>
          rw [List.append_nil]
          exact (nextItem_of_lead isLead List.prefix_rfl).bind _
        | cons c cut =>
          obtain ⟨d, tail, rfl, notBlank, notClose⟩ := spells.head
          obtain rfl : c = d := by
            cases behind
            rfl
          simp only [List.length_append, List.length_cons] at enough
          rw [nextItem_more isLead notBlank notClose]
          rcases exhausts.of_cuts blanks_nil spells behind with ends | ⟨later, same, inBack⟩
          · rcases ends with ends | ⟨a, last⟩
            · exact ends.bind _
            · have closing := readListItems_nil read (by omega : 0 < fuel)
              simp only [bind, Except.bind, last]
              exact closing.bind _
          · have stops := inBack.stops (by simpa using more.stops [])
            have taken := accepts blanks_nil spells stops
            rw [← same] at taken
            have shorter := congrArg List.length same
            simp only [List.length_append, List.length_cons] at shorter
            have rest := ih others more inBack (by omega : later.length < fuel)
            simp only [bind, Except.bind, taken]
            exact rest.bind _

theorem misses_list {α : Type} {read : Reader α} {items : List Value}
    (each : ∀ item ∈ items, (∃ a, Accepts read item a) ∧ Exhausts read item) :
    Misses (readList read) (.list items) := by
  intro blanks spelled cut blank spells cuts
  cases spells with
  | list spells =>
    cases cuts with
    | off =>
      rw [List.append_nil, readList, skipBlank_blanks blank]
      exact endsEarly_onto rfl []
    | @past _ cut _ more =>
      have enough : cut.length < enoughFuel cut := by
        rw [enoughFuel]
        omega
      rw [readList, skipBlank_append blank, skipBlank_cons rfl]
      exact readListItems_of_cuts each spells more enough

/-! ## Records -/

section Record

variable {σ α : Type}

/-- Whether a record has a column of the member's name that gets to the end of a cut value. -/
def Known (columns : List (Column σ)) (member : List Char × Value) : Prop :=
  ∃ column ∈ columns, column.name.toList = member.1 ∧ Exhausts column.read member.2

theorem Column.exhausts {column : Column σ} {value : Value}
    (exhausts : Exhausts column.read value) (draft : σ) :
    Exhausts (column.field.read draft) value := by
  intro blanks spelled cut blank spells cuts
  rw [field, Field.make]
  dsimp only
  rcases exhausts blank spells cuts with ends | ⟨a, last⟩
  · exact .inl (ends.map _)
  · exact .inr ⟨column.set draft a, by rw [last, Except.map]⟩

theorem readFields_nil (fields : List (Field σ)) {fuel : Nat} (enough : 0 < fuel) (draft : σ) :
    EndsEarly (readFields fields fuel false draft []) := by
  obtain ⟨fuel, rfl⟩ := Nat.exists_eq_succ_of_ne_zero (Nat.ne_of_gt enough)
  rw [readFields]
  exact (nextKey_of_blanks string false blanks_nil).bind _

/-- The next key is missed where it is cut. -/
theorem nextKey_of_cuts {first : Bool} {lead name cs back cut : List Char}
    (isLead : Lead first lead) (spells : SpellsText name cs)
    (cuts : Cuts cut (lead ++ '"' :: (name ++ '"' :: back))) :
    EndsEarly (nextKey string first cut) ∨
      ∃ later, cut = lead ++ '"' :: (name ++ '"' :: later) ∧ Cuts later back := by
  rcases cuts.append with inLead | ⟨cut, rfl, behind⟩
  · exact .inl (nextKey_of_lead string isLead (cuts_iff.mp inLead).1)
  · cases behind with
    | off =>
      rw [List.append_nil]
      exact .inl (nextKey_of_lead string isLead List.prefix_rfl)
    | @past _ cut _ more =>
      have afterQuote : Cuts cut ((name ++ ['"']) ++ back) := by simpa using more
      rcases afterQuote.append with inName | ⟨later, rfl, inBack⟩
      · rw [nextKey_quote string isLead, key]
        obtain ⟨fault, missed, category⟩ := string_of_cuts spells inName
        rw [missed]
        exact .inl ⟨fault, rfl, category⟩
      · exact .inr ⟨later, by simp, inBack⟩

theorem colon_of_cuts {blanks back cut : List Char} (blank : Blanks blanks)
    (cuts : Cuts cut (blanks ++ ':' :: back)) :
    EndsEarly (colon cut) ∨ ∃ later, cut = blanks ++ ':' :: later ∧ Cuts later back := by
  have split : Cuts cut ((blanks ++ [':']) ++ back) := by simpa using cuts
  rcases split.append with before | ⟨later, rfl, inBack⟩
  · exact .inl (colon_of_blanks (blank.of_isPrefix before.isPrefix))
  · exact .inr ⟨later, by simp, inBack⟩

theorem readFields_more {columns : List (Column σ)} (apart : columns.Pairwise Column.Apart)
    {column : Column σ} (isColumn : column ∈ columns) {first : Bool} {draft : σ}
    (unset : (column.get draft).isSome = false) {cs rest : List Char}
    (next : nextKey string first cs = .ok (.more column.name.toList rest)) (fuel : Nat) :
    readFields (columns.map Column.field) (fuel + 1) first draft cs =
      colon rest >>= fun rest => column.field.read draft rest >>= fun (draft, rest) =>
        readFields (columns.map Column.field) fuel false draft rest := by
  have notSet : ¬column.field.isSet draft = true := Bool.eq_false_iff.mp unset
  simp only [readFields, next, bind, Except.bind, find?_field, find?_column apart isColumn,
    Option.map_some, if_neg notSet]

theorem readFields_of_cuts {columns : List (Column σ)} (apart : columns.Pairwise Column.Apart)
    {members : List (List Char × Value)} (known : ∀ member ∈ members, Known columns member)
    {draft last : σ} (filled : fill columns draft members = some last) {first : Bool}
    {body cut : List Char} (spells : SpellsMembers first body members) (cuts : Cuts cut body)
    {fuel : Nat} (enough : cut.length < fuel) :
    EndsEarly (readFields (columns.map Column.field) fuel first draft cut) := by
  induction members generalizing draft first body cut fuel with
  | nil =>
    obtain ⟨fuel, rfl⟩ := Nat.exists_eq_succ_of_ne_zero (Nat.ne_zero_of_lt enough)
    cases spells with
    | close blank =>
      rw [readFields]
      exact (nextKey_of_blanks string first (blank.of_isPrefix cuts.isPrefix)).bind _
  | cons member members ih =>
    obtain ⟨fuel, rfl⟩ := Nat.exists_eq_succ_of_ne_zero (Nat.ne_zero_of_lt enough)
    obtain ⟨⟨column, isColumn, sameName, exhausts⟩, others⟩ := List.forall_mem_cons.mp known
    cases spells with
    | @member _ lead name blanks gap spelled back key value _ isLead spellsKey blank gapBlank spells
        more =>
      obtain rfl : column.name.toList = key := sameName
      rw [fill, absorb, find?_column apart isColumn] at filled
      obtain ⟨next, put, filled⟩ := Option.bind_eq_some_iff.mp filled
      obtain ⟨unset, take⟩ :
          (column.get draft).isSome = false ∧ column.take draft value = some next := by
        simpa [Column.put] using put
      rcases nextKey_of_cuts isLead spellsKey cuts with ends | ⟨cut, rfl, afterKey⟩
      · rw [readFields]
        exact ends.bind _
      · have isMore := nextKey_more isLead (string_of_spells spellsKey cut)
        rw [readFields_more apart isColumn unset isMore]
        rcases colon_of_cuts blank afterKey with ends | ⟨cut, rfl, afterColon⟩
        · exact ends.bind _
        · rw [colon_append blank]
          simp only [List.length_append, List.length_cons] at enough
          rcases (column.exhausts exhausts draft).of_cuts gapBlank spells afterColon with
            (ends | ⟨next, atEnd⟩) | ⟨cut, rfl, afterValue⟩
          · exact ends.bind _
          · have closing := readFields_nil (columns.map Column.field) (by omega : 0 < fuel) next
            simp only [bind, Except.bind, atEnd]
            exact closing
          · have stops := afterValue.stops (by simpa using more.stops [])
            have taken := (column.decides_take draft).accepts take gapBlank spells stops
            simp only [List.length_append] at enough
            simp only [bind, Except.bind, taken]
            exact ih others filled more afterValue (by omega)

/-- An object that makes a record is missed without its closing brace. -/
theorem misses_record {shape : Shape σ α} {columns : List (Column σ)}
    (table : shape.IsTable columns) {members : List (List Char × Value)} {a : α}
    (means : shape.meaning columns (.object members) = some a)
    (known : ∀ member ∈ members, Known columns member) :
    Misses (readRecord shape) (.object members) := by
  intro blanks spelled cut blank spells cuts
  obtain ⟨_, same, filling⟩ := Option.bind_eq_some_iff.mp means
  cases same
  obtain ⟨last, filled, -⟩ := Option.bind_eq_some_iff.mp filling
  cases spells with
  | object spells =>
    cases cuts with
    | off =>
      rw [List.append_nil, readRecord, skipBlank_blanks blank]
      exact endsEarly_onto rfl []
    | @past _ cut _ more =>
      have enough : cut.length < enoughFuel cut := by
        rw [enoughFuel]
        omega
      rw [readRecord, skipBlank_append blank, skipBlank_cons rfl, table.fields]
      exact (readFields_of_cuts table.apart known filled spells more enough).bind _

end Record

/-! ## Documents -/

theorem Misses.document {α : Type} {read : Reader α} {value : Value} (misses : Misses read value)
    {text cut : String} (spells : Spells text.toList value) (isFront : cut.toList <+: text.toList)
    (different : cut ≠ text) : EndsEarly (Json.document read cut.toList) := by
  have cuts : Cuts cut.toList text.toList :=
    cuts_iff.mpr ⟨isFront, fun same => different (String.toList_injective same)⟩
  exact (misses blanks_nil spells cuts).bind _

end PluginSupport.Json
