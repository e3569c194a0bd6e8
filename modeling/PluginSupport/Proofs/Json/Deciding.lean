import Mathlib.Data.List.Forall2
import PluginSupport.Json.Record
import PluginSupport.Proofs.Json.Skipping

/-!
# What typed readers make of a value

`Decides read meaning` says that a reader makes of a value what `meaning` makes of it, however the
value is spelled, and refuses the values of which `meaning` makes nothing. It settles acceptance and
refusal at once.

* `decides_text`, `decides_flag`, `decides_index`: strings, the two words, and whole numbers below
  2³².
* `decides_list`: lists, item by item.

A number is an index only if it consists of digits. Everything else that a number may have keeps its
scanner from reporting a natural, and so do digits that do not fit (`number_eq_natural_iff`).
-/
namespace PluginSupport.Json

/-! ## Results without their faults -/

theorem toOption_ok {α : Type} (a : α) : (.ok a : Except Fault α).toOption = some a :=
  rfl

theorem toOption_bind {α β : Type} (result : Except Fault α) (next : α → Except Fault β) :
    (result >>= next).toOption = result.toOption.bind fun a => (next a).toOption := by
  cases result <;> rfl

theorem toOption_map {α β : Type} (f : α → β) (result : Except Fault α) :
    (result.map f).toOption = result.toOption.map f := by
  cases result <;> rfl

theorem toOption_eq_some_iff {ε α : Type} {result : Except ε α} {a : α} :
    result.toOption = some a ↔ result = .ok a := by
  cases result <;> simp [Except.toOption]

theorem exists_error_of_toOption {ε α : Type} {result : Except ε α}
    (nothing : result.toOption = none) : ∃ error, result = .error error := by
  cases result with
  | ok a => cases nothing
  | error error => exact ⟨error, rfl⟩

/-! ## Readers and meanings -/

/-- Whether a reader makes `meaning` of the values that it finds, and refuses the others. -/
def Decides {α : Type} (read : Reader α) (meaning : Value → Option α) : Prop :=
  ∀ ⦃blanks spelled rest : List Char⦄ ⦃value : Value⦄, Blanks blanks → Spells spelled value →
    Stops rest →
    (read (blanks ++ (spelled ++ rest))).toOption = (meaning value).map fun a => (a, rest)

theorem Decides.accepts {α : Type} {read : Reader α} {meaning : Value → Option α}
    (decides : Decides read meaning) {value : Value} {a : α} (means : meaning value = some a) :
    Accepts read value a := by
  intro blanks spelled rest blank spells stops
  have result := decides blank spells stops
  rw [means] at result
  exact toOption_eq_some_iff.mp result

/-- What is read as another type is refused. -/
theorem toOption_mismatch {α : Type} (cs : List Char) :
    (mismatch cs : Except Fault (α × List Char)).toOption = none := by
  unfold mismatch
  dsimp only
  repeat' split
  all_goals rfl

theorem Spells.skipBlank_append {spelled : List Char} {value : Value}
    (spells : Spells spelled value) {blanks : List Char} (blank : Blanks blanks)
    (rest : List Char) : skipBlank (blanks ++ (spelled ++ rest)) = spelled ++ rest := by
  obtain ⟨c, more, rfl, opens⟩ := spells.opens
  rw [Json.skipBlank_append blank, List.cons_append, skipBlank_cons opens.notBlank.1]

/-! ## Texts and flags -/

/-- Text that a value is. -/
def Value.asText? : Value → Option String
  | .text cs => some (String.ofList cs)
  | _ => none

theorem Value.asText?_eq_some_iff (value : Value) (text : String) :
    value.asText? = some text ↔ value = .text text.toList := by
  cases value with
  | text cs =>
    have same : String.ofList cs = text ↔ cs = text.toList :=
      ⟨fun same => same ▸ String.toList_ofList.symm, fun same => same ▸ String.ofList_toList⟩
    simp [Value.asText?, same]
  | _ => simp [Value.asText?]

theorem decides_text : Decides readText Value.asText? := by
  intro blanks spelled rest value blank spells _
  obtain ⟨c, more, same, opens⟩ := spells.opens
  rw [readText, spells.skipBlank_append blank]
  cases spells with
  | text spells =>
    rw [List.cons_append, List.append_assoc]
    simp [string_of_spells spells, Except.map, Except.toOption, Value.asText?]
  | number =>
    have notQuote : c ≠ '"' := opens.ne_of_number (by decide)
    simpa [same, notQuote, Value.asText?] using toOption_mismatch _
  | _ => exact toOption_mismatch _

/-- Flag that a value is. -/
def Value.asFlag? : Value → Option Bool
  | .bool b => some b
  | _ => none

theorem Value.asFlag?_eq_some_iff (value : Value) (flag : Bool) :
    value.asFlag? = some flag ↔ value = .bool flag := by
  cases value <;> simp [Value.asFlag?]

theorem decides_flag : Decides readFlag Value.asFlag? := by
  intro blanks spelled rest value blank spells _
  obtain ⟨c, more, same, opens⟩ := spells.opens
  rw [readFlag, spells.skipBlank_append blank]
  cases spells with
  | yes => rfl
  | no => rfl
  | number =>
    have notTrue : c ≠ 't' := opens.ne_of_number (by decide)
    have notFalse : c ≠ 'f' := opens.ne_of_number (by decide)
    simpa [same, notTrue, notFalse, Value.asFlag?] using toOption_mismatch _
  | _ => exact toOption_mismatch _

/-! ## Indexes -/

theorem inRange_ne_natural (value : Nat) (exponent : Int) (rest : List Char) (n : Nat)
    (after : List Char) : inRange value exponent rest ≠ .ok (.natural n, after) := by
  unfold inRange
  split <;> nofun

theorem exponentDigits_ne_natural (negative : Bool) (value : Nat) (start : Int) (acc : Nat)
    (full : Bool) (cs : List Char) (n : Nat) (after : List Char) :
    exponentDigits negative value start acc full cs ≠ .ok (.natural n, after) := by
  have finished : ∀ acc full rest,
      exponentDigits.finish negative value start acc full rest ≠ .ok (.natural n, after) := by
    intro acc full rest
    unfold exponentDigits.finish
    split
    · nofun
    · exact inRange_ne_natural _ _ _ _ _
  induction cs generalizing acc full with
  | nil => exact finished _ _ _
  | cons c cs ih =>
    unfold exponentDigits
    repeat' split
    · exact finished _ _ _
    · exact ih _ _
    · nofun
    · exact ih _ _
    · exact ih _ _

theorem exponent_ne_natural (value : Nat) (start : Int) (cs : List Char) (n : Nat)
    (after : List Char) : exponent value start cs ≠ .ok (.natural n, after) := by
  unfold exponent
  dsimp only
  split
  · nofun
  · split
    · nofun
    · exact exponentDigits_ne_natural _ _ _ _ _ _ _ _

theorem fraction_ne_natural (s : Significand) (cs : List Char) (n : Nat) (after : List Char) :
    fraction s cs ≠ .ok (.natural n, after) := by
  unfold fraction
  dsimp only
  repeat' split
  · nofun
  · nofun
  · exact exponent_ne_natural _ _ _ _ _
  · exact exponent_ne_natural _ _ _ _ _
  · exact inRange_ne_natural _ _ _ _ _

/-- A natural is reported only where nothing but fitting digits has been read. -/
theorem afterWhole_eq_natural {negative : Bool} {s : Significand} {cs after : List Char} {n : Nat}
    (natural : afterWhole negative s cs = .ok (.natural n, after)) :
    negative = false ∧ s = ⟨n, 0⟩ ∧ after = cs ∧
      ∀ c ∈ cs.head?, c ≠ '.' ∧ c ≠ 'e' ∧ c ≠ 'E' := by
  unfold afterWhole at natural
  split at natural
  · exact absurd natural (fraction_ne_natural _ _ _ _)
  · exact absurd natural (exponent_ne_natural _ _ _ _ _)
  · exact absurd natural (exponent_ne_natural _ _ _ _ _)
  · rename_i notPoint notSmall notLarge
    split at natural
    · exact absurd natural (inRange_ne_natural _ _ _ _ _)
    · rename_i kept
      cases negative with
      | true => cases natural
      | false =>
        cases natural
        refine ⟨rfl, ?_, rfl, fun c head => ?_⟩
        · cases s
          simp_all
        · obtain ⟨more, rfl⟩ := List.head?_eq_some_iff.mp head
          refine ⟨?_, ?_, ?_⟩ <;> rintro rfl
          · exact notPoint _ rfl
          · exact notSmall _ rfl
          · exact notLarge _ rfl

/-- Digits that do not fit leave a trace. -/
theorem foldl_wholeDigit_eq {ds : List Nat} {n : Nat}
    (kept : ds.foldl Significand.wholeDigit ⟨0, 0⟩ = ⟨n, 0⟩) :
    Numeral.value 10 ds = n ∧ n ≤ maxSignificand := by
  have bounded : Numeral.value 10 ds ≤ maxSignificand := by
    induction ds using List.reverseRecOn generalizing n with
    | nil => exact Nat.zero_le _
    | append_singleton ds d ih =>
      rw [List.foldl_append, List.foldl_cons, List.foldl_nil, Significand.wholeDigit] at kept
      split at kept
      · cases kept
      · rename_i fits
        -- Nothing had been dropped before the last digit, so the digits before it fit.
        obtain ⟨noneDropped, small⟩ := not_or.mp fits
        have before : ds.foldl Significand.wholeDigit ⟨0, 0⟩ =
            ⟨(ds.foldl Significand.wholeDigit ⟨0, 0⟩).value, 0⟩ := by
          generalize ds.foldl Significand.wholeDigit ⟨0, 0⟩ = s at noneDropped
          cases s
          simpa using noneDropped
        have whole := foldl_wholeDigit (ih before)
        rw [whole] at small
        rw [Numeral.value_append]
        exact Nat.not_lt.mp small
  rw [foldl_wholeDigit bounded] at kept
  cases kept
  exact ⟨rfl, bounded⟩

/-- A number that consists of digits has no leading zero. -/
theorem IsNumber.leading {lexeme : List Char} (isNumber : IsNumber lexeme)
    (digits : ∀ c ∈ lexeme, c.isDigit = true) :
    lexeme.head? = some '0' → lexeme.length ≤ 1 := by
  cases isNumber with
  | @intro sign whole fraction exponent signed _ leading isFraction isExponent =>
    obtain rfl | rfl : sign = [] ∨ sign = ['-'] := by simpa using signed
    · cases isFraction with
      | present => cases digits '.' (by simp)
      | absent =>
        cases isExponent with
        | absent => simpa using leading
        | @present mark _ _ marked =>
          have isDigit := digits mark (by simp)
          obtain rfl | rfl := marked <;> cases isDigit
    · cases digits '-' (by simp)

/-- A natural is scanned exactly where digits alone denote a number that fits. -/
theorem number_eq_natural_iff {lexeme : List Char} (isNumber : IsNumber lexeme)
    {rest after : List Char} (stops : Stops rest) {n : Nat} :
    number (lexeme ++ rest) = .ok (.natural n, after) ↔
      (Numeral.read? 10 lexeme = some n ∧ n ≤ maxSignificand) ∧ after = rest := by
  constructor
  · intro scanned
    cases isNumber with
    | @intro sign whole fraction exponent signed digits leading isFraction isExponent =>
      simp only [List.append_assoc] at scanned
      rw [number_append signed digits leading
        (isFraction.noDigit (isExponent.noDigit stops))] at scanned
      obtain ⟨unsigned, kept, rfl, noMore⟩ := afterWhole_eq_natural scanned
      obtain ⟨value, fits⟩ := foldl_wholeDigit_eq kept
      obtain rfl : sign = [] := by simpa [of_decide_eq_false unsigned] using signed
      cases isFraction with
      | present => exact absurd rfl (noMore '.' rfl).1
      | absent =>
        cases isExponent with
        | @present mark _ _ marked =>
          obtain ⟨-, notSmall, notLarge⟩ := noMore mark rfl
          exact absurd marked (not_or.mpr ⟨notSmall, notLarge⟩)
        | absent =>
          have denotes : Numeral.read? 10 whole = some n := by
            rw [Numeral.read?, if_neg (by simpa using digits.1),
              Numeral.mapM_digitValue?_ten.mpr ⟨digits.2, rfl⟩, Option.map_some, value]
          exact ⟨⟨by simpa using denotes, fits⟩, rfl⟩
  · rintro ⟨⟨denotes, fits⟩, rfl⟩
    obtain ⟨-, digits, -⟩ := Numeral.read?_ten_eq_some_iff.mp denotes
    exact number_of_read? denotes (isNumber.leading digits) fits stops

/-- Index that a value is: a number that consists of digits and is below 2³². -/
def Value.asIndex? : Value → Option UInt32
  | .number lexeme =>
    (Numeral.read? 10 lexeme).bind fun n =>
      if n < UInt32.size then some (UInt32.ofNat n) else none
  | _ => none

theorem Value.asIndex?_eq_some_iff (value : Value) (index : UInt32) :
    value.asIndex? = some index ↔
      ∃ lexeme, value = .number lexeme ∧ Numeral.read? 10 lexeme = some index.toNat := by
  cases value with
  | number lexeme =>
    simp only [Value.asIndex?, Option.bind_eq_some_iff, Option.ite_none_right_eq_some,
      Option.some.injEq, Value.number.injEq, exists_eq_left']
    constructor
    · rintro ⟨n, denotes, small, rfl⟩
      rw [UInt32.toNat_ofNat_of_lt' small, denotes]
    · intro denotes
      exact ⟨index.toNat, denotes, index.toNat_lt, UInt32.ofNat_toNat⟩
  | _ => simp [Value.asIndex?]

/-- An index fits, so it is scanned as a natural. -/
theorem Value.fits_of_asIndex? {lexeme : List Char} {index : UInt32}
    (isIndex : (Value.number lexeme).asIndex? = some index) :
    ∃ n, Numeral.read? 10 lexeme = some n ∧ n ≤ maxSignificand := by
  obtain ⟨n, denotes, chosen⟩ := Option.bind_eq_some_iff.mp isIndex
  split at chosen
  · rename_i small
    exact ⟨n, denotes, Nat.le_trans (Nat.le_of_lt small) (by decide)⟩
  · cases chosen

theorem decides_index : Decides readIndex Value.asIndex? := by
  intro blanks spelled rest value blank spells stops
  obtain ⟨c, more, same, opens⟩ := spells.opens
  rw [readIndex, spells.skipBlank_append blank]
  cases spells with
  | number isNumber =>
    have natural := @number_eq_natural_iff _ isNumber rest
    rw [same, List.cons_append] at natural ⊢
    simp only [if_pos opens.of_number]
    by_cases kept : ∃ n, Numeral.read? 10 (c :: more) = some n ∧ n ≤ maxSignificand
    · obtain ⟨n, denotes, fits⟩ := kept
      simp only [(natural stops).mpr ⟨⟨denotes, fits⟩, rfl⟩, Value.asIndex?, denotes,
        Option.bind_some]
      split <;> rfl
    · have noIndex : (Value.number (c :: more)).asIndex? = none :=
        Option.eq_none_iff_forall_ne_some.mpr fun _ isIndex =>
          kept (Value.fits_of_asIndex? isIndex)
      rw [noIndex]
      split
      · rename_i scanned
        exact absurd ⟨_, ((natural stops).mp scanned).1⟩ kept
      · rfl
      · rfl
  | _ =>
    cases opens
    rw [same]
    exact (congrArg Except.toOption (if_neg (by decide))).trans (toOption_mismatch _)

/-! ## Lists -/

/-- Items that a value lists. -/
def Value.asList? {α : Type} (item : Value → Option α) : Value → Option (List α)
  | .list items => items.mapM item
  | _ => none

theorem mapM_eq_some_iff {α : Type} (item : Value → Option α) (items : List Value) (as : List α) :
    items.mapM item = some as ↔ List.Forall₂ (fun value a => item value = some a) items as := by
  induction items generalizing as with
  | nil => simp [eq_comm]
  | cons value items ih =>
    simp only [List.mapM_cons, bind, pure, Option.bind_eq_some_iff, ih,
      List.forall₂_cons_left_iff, Option.some.injEq]
    constructor
    · rintro ⟨a, here, as, later, rfl⟩
      exact ⟨a, as, here, later, rfl⟩
    · rintro ⟨a, as, here, later, rfl⟩
      exact ⟨a, here, as, later, rfl⟩

theorem Value.asList?_eq_some_iff {α : Type} (item : Value → Option α) (value : Value)
    (as : List α) :
    value.asList? item = some as ↔ ∃ items, value = .list items ∧
      List.Forall₂ (fun value a => item value = some a) items as := by
  cases value with
  | list items => simp [Value.asList?, mapM_eq_some_iff]
  | _ => simp [Value.asList?]

theorem toOption_readListItems {α : Type} {read : Reader α} {item : Value → Option α}
    (decides : Decides read item) {first : Bool} {body : List Char} {items : List Value}
    (spells : SpellsItems first body items) {fuel : Nat} (enough : items.length < fuel)
    (rest : List Char) :
    (readListItems read fuel first (body ++ rest)).toOption =
      (items.mapM item).map fun as => (as, rest) := by
  induction items generalizing first body fuel with
  | nil =>
    cases spells with
    | close blank =>
      obtain ⟨fuel, rfl⟩ := Nat.exists_eq_succ_of_ne_zero (Nat.ne_zero_of_lt enough)
      rw [List.append_assoc, readListItems]
      simp [nextItem_close first blank, bind, Except.bind, Except.toOption]
  | cons value items ih =>
    cases spells with
    | item isLead spells more =>
      obtain ⟨fuel, rfl⟩ := Nat.exists_eq_succ_of_ne_zero (Nat.ne_zero_of_lt enough)
      have here := decides blanks_nil spells (more.stops rest)
      have later := ih more (Nat.lt_of_succ_lt_succ enough)
      obtain ⟨c, tail, rfl, notBlank, notClose⟩ := spells.head
      rw [List.nil_append, List.cons_append] at here
      rw [List.append_assoc, List.append_assoc, List.cons_append, readListItems,
        nextItem_more isLead notBlank notClose, toOption_bind, toOption_ok, Option.bind_some,
        toOption_bind, here, List.mapM_cons]
      cases item value with
      | none => rfl
      | some a =>
        simp only [Option.map_some, Option.bind_some, toOption_bind, later]
        cases items.mapM item <;> rfl

theorem decides_list {α : Type} {read : Reader α} {item : Value → Option α}
    (decides : Decides read item) : Decides (readList read) (Value.asList? item) := by
  intro blanks spelled rest value blank spells _
  obtain ⟨c, more, same, opens⟩ := spells.opens
  rw [readList, spells.skipBlank_append blank]
  cases spells with
  | @list body items spells =>
    have shorter := spells.length_lt
    have enough : items.length < enoughFuel (body ++ rest) := by
      rw [enoughFuel, List.length_append]
      omega
    exact toOption_readListItems decides spells enough rest
  | number =>
    have notBracket : c ≠ '[' := opens.ne_of_number (by decide)
    simpa [same, notBracket, Value.asList?] using toOption_mismatch _
  | _ => exact toOption_mismatch _

/-! ## Documents -/

/-- Nothing but white space follows the value of a document. -/
theorem endOfText_of_blanks {after : List Char} (blank : Blanks after) :
    endOfText after = .ok () := by
  rw [endOfText, skipBlank_blanks blank]

theorem Decides.document {α : Type} {read : Reader α} {meaning : Value → Option α}
    (decides : Decides read meaning) {text : String} {value : Value}
    (isDocument : IsDocument text value) :
    (Json.document read text.toList).toOption = meaning value := by
  obtain ⟨before, spelled, after, blankBefore, spells, blankAfter, same⟩ := isDocument
  have stops : Stops after := by
    have ends := stops_nil.blanks_append blankAfter
    rwa [List.append_nil] at ends
  rw [same, Json.document, toOption_bind, decides blankBefore spells stops]
  cases meaning value with
  | none => rfl
  | some a =>
    simp only [Option.map_some, Option.bind_some, endOfText_of_blanks blankAfter]
    rfl

end PluginSupport.Json
