import Mathlib.Algebra.Field.Rat
import Mathlib.Data.List.DropRight
import Mathlib.Tactic.FieldSimp
import PluginSupport.Latency.Tracer
import PluginSupport.Proofs.Text.Numeral
import PluginSupport.Proofs.Text.Split

/-!
# Snapshots lose nothing

The text of a duration is a decimal numeral with a unit. `Duration.denoted?` says what any such text
denotes, as a rational number of nanoseconds: it knows neither which unit is chosen for a duration
nor how many digits are written.

* `Duration.denoted?_text`: the text of a duration denotes its length, to the nanosecond.
* `Duration.trimmed_text`: no fraction in it ends in a zero.
* `Duration.text_injective`: so different durations have different texts.

Main result: `Ledger.snapshot_exact`. A snapshot tells its ledger.
-/
namespace PluginSupport

/-! ## Digits of a fraction -/

namespace Numeral

theorem value_append_zeros (base : Nat) (ds : List Nat) (count : Nat) :
    value base (ds ++ List.replicate count 0) = value base ds * base ^ count := by
  induction count with
  | zero => simp
  | succ count ih =>
    rw [List.replicate_succ', ← List.append_assoc, value_append, ih, Nat.add_zero, Nat.pow_succ,
      Nat.mul_assoc]

theorem read?_map_digitChar {ds : List Nat} (notEmpty : ds ≠ []) (below : ∀ d ∈ ds, d < 10) :
    read? 10 (ds.map digitChar) = some (value 10 ds) := by
  rw [read?, if_neg (by simpa using notEmpty), mapM_digitValue?_map below (by decide),
    Option.map_some]

end Numeral

namespace Duration

/-! ## What a text denotes -/

/-- Units of time in texts. -/
inductive TimeUnit where
  | seconds
  | milliseconds
  | microseconds
  | nanoseconds
deriving DecidableEq, Repr

/-- Characters of a unit. -/
def TimeUnit.symbol : TimeUnit → List Char
  | .seconds => ['s']
  | .milliseconds => ['m', 's']
  | .microseconds => ['µ', 's']
  | .nanoseconds => ['n', 's']

/-- Nanoseconds of a unit, as a power of ten. -/
def TimeUnit.exponent : TimeUnit → Nat
  | .seconds => 9
  | .milliseconds => 6
  | .microseconds => 3
  | .nanoseconds => 0

/-- Unit with the given characters. -/
def TimeUnit.ofSymbol? (cs : List Char) : Option TimeUnit :=
  [seconds, milliseconds, microseconds, nanoseconds].find? fun unit => unit.symbol = cs

/-- Whether a character may stand in a decimal numeral. -/
def isNumeric (c : Char) : Bool := c.isDigit ∨ c = '.'

/-- Number that a decimal numeral denotes: digits, perhaps with a point and more digits behind. -/
def decimal? (cs : List Char) : Option ℚ :=
  match Split.onChar '.' cs with
  | [whole] => (Numeral.read? 10 whole).map fun n => (n : ℚ)
  | [whole, fraction] =>
    (Numeral.read? 10 whole).bind fun n =>
      (Numeral.read? 10 fraction).map fun m => (n : ℚ) + m / 10 ^ fraction.length
  | _ => none

/-- Nanoseconds that a text denotes: a decimal numeral times its unit. -/
def denoted? (text : String) : Option ℚ :=
  (decimal? (text.toList.takeWhile isNumeric)).bind fun number =>
    (TimeUnit.ofSymbol? (text.toList.dropWhile isNumeric)).map fun unit =>
      number * 10 ^ unit.exponent

/-- Whether no digits behind a point end in a zero. -/
def Trimmed (text : String) : Prop :=
  ∀ fraction ∈ (Split.onChar '.' (text.toList.takeWhile isNumeric)).tail,
    fraction.getLast? ≠ some '0'

/-! ## Fractions -/

/-- The digits of a fraction leave out nothing but zeros at its end. -/
theorem lowDigits_eq_append (places part : Nat) :
    ∃ count, Numeral.lowDigits 10 places part =
      fractionDigits places part ++ List.replicate count 0 := by
  have split := List.rdropWhile_append_rtakeWhile (l := Numeral.lowDigits 10 places part)
    (p := fun d => decide (d = 0))
  have zeros : ∀ d ∈ (Numeral.lowDigits 10 places part).rtakeWhile (· = 0), d = 0 := by
    intro d member
    simpa using List.mem_rtakeWhile_imp member
  exact ⟨_, split.symm.trans (congrArg _ (List.eq_replicate_of_mem zeros))⟩

theorem lt_of_mem_fractionDigits {places part d : Nat} (member : d ∈ fractionDigits places part) :
    d < 10 := by
  obtain ⟨count, same⟩ := lowDigits_eq_append places part
  exact Numeral.lt_of_mem_lowDigits (by decide) (same ▸ List.mem_append_left _ member)

theorem getLast?_fractionDigits (places part : Nat) :
    (fractionDigits places part).getLast? ≠ some 0 := by
  intro zero
  have first := List.head?_dropWhile_not (· = 0) (Numeral.lowDigits 10 places part).reverse
  rw [fractionDigits, List.getLast?_reverse] at zero
  rw [zero] at first
  cases first

/-- The digits of a fraction denote it. -/
theorem value_fractionDigits {places part : Nat} (fits : part < 10 ^ places) :
    (Numeral.value 10 (fractionDigits places part) : ℚ) /
        10 ^ (fractionDigits places part).length = part / 10 ^ places := by
  obtain ⟨count, same⟩ := lowDigits_eq_append places part
  have value := congrArg (Numeral.value 10) same
  have length := congrArg List.length same
  rw [Numeral.value_lowDigits, Nat.mod_eq_of_lt fits, Numeral.value_append_zeros] at value
  rw [Numeral.length_lowDigits, List.length_append, List.length_replicate] at length
  generalize fractionDigits places part = ds at value length ⊢
  rw [value, length, pow_add]
  push_cast
  field_simp

/-! ## Numerals -/

/-- Numeral with `whole` before the point, and `part` after it over a number of places. -/
def numeral (whole places part : Nat) : List Char :=
  let digits := fractionDigits places part
  Numeral.write 10 whole ++ if digits.isEmpty then [] else '.' :: digits.map Numeral.digitChar

theorem point_not_mem_write (n : Nat) : '.' ∉ Numeral.write 10 n :=
  Numeral.not_mem_write (by decide) (by decide) n rfl

theorem isDigit_digitChar {d : Nat} (small : d < 10) : (Numeral.digitChar d).isDigit = true :=
  (Numeral.digitValue?_ten_eq_some_iff.mp
    (Numeral.digitValue?_digitChar small (by omega))).1

/-- Pieces of a numeral around its point. -/
theorem onChar_numeral (whole places part : Nat) :
    Split.onChar '.' (numeral whole places part) =
      Numeral.write 10 whole ::
        if fractionDigits places part = [] then []
        else [(fractionDigits places part).map Numeral.digitChar] := by
  unfold numeral
  by_cases none : fractionDigits places part = []
  · rw [if_pos none, none]
    simpa using Split.onChar_of_not_mem (point_not_mem_write whole)
  · have clean : '.' ∉ (fractionDigits places part).map Numeral.digitChar := by
      intro member
      obtain ⟨d, isDigit, same⟩ := List.mem_map.mp member
      have digit := isDigit_digitChar (lt_of_mem_fractionDigits isDigit)
      rw [same] at digit
      cases digit
    have notEmpty : (fractionDigits places part).isEmpty = false := by simpa using none
    simp only [notEmpty, if_neg none, Bool.false_eq_true, if_false]
    rw [Split.onChar_append_cons (point_not_mem_write whole), Split.onChar_of_not_mem clean]

theorem isNumeric_of_mem_numeral {whole places part : Nat} {c : Char}
    (member : c ∈ numeral whole places part) : isNumeric c = true := by
  have isDigit : c.isDigit = true ∨ c = '.' := by
    rcases List.mem_append.mp member with front | back
    · have written : Numeral.read? 10 (Numeral.write 10 whole) = some whole :=
        Numeral.read?_write (by decide) (by decide) whole
      exact .inl ((Numeral.read?_ten_eq_some_iff.mp written).2.1 c front)
    · split at back
      · cases back
      · rcases List.mem_cons.mp back with rfl | behind
        · exact .inr rfl
        · obtain ⟨d, isDigit, rfl⟩ := List.mem_map.mp behind
          exact .inl (isDigit_digitChar (lt_of_mem_fractionDigits isDigit))
  simpa [isNumeric] using isDigit

theorem decimal?_numeral {whole places part : Nat} (fits : part < 10 ^ places) :
    decimal? (numeral whole places part) = some ((whole : ℚ) + part / 10 ^ places) := by
  rw [decimal?, onChar_numeral, ← value_fractionDigits fits]
  by_cases none : fractionDigits places part = []
  · simp [none, Numeral.read?_write, Numeral.value]
  · have below : ∀ d ∈ fractionDigits places part, d < 10 := fun d => lt_of_mem_fractionDigits
    simp [none, Numeral.read?_write, Numeral.read?_map_digitChar none below]

/-! ## Texts of durations -/

theorem TimeUnit.ofSymbol?_symbol (unit : TimeUnit) : ofSymbol? unit.symbol = some unit := by
  cases unit <;> decide

/-- A unit does not go on like a numeral. -/
theorem TimeUnit.symbol_stops (unit : TimeUnit) :
    ∃ c rest, unit.symbol = c :: rest ∧ isNumeric c = false := by
  cases unit <;> exact ⟨_, _, rfl, rfl⟩

/-- The text of a duration is a numeral with a unit, and together they make its length. -/
theorem write_eq (d : Duration) :
    ∃ (unit : TimeUnit) (whole part : Nat),
      d.write = numeral whole unit.exponent part ++ unit.symbol ∧ part < 10 ^ unit.exponent ∧
        whole * 10 ^ unit.exponent + part = d.toNanos := by
  have small := d.nanos.isLt
  rw [write, toNanos]
  split
  · exact ⟨.seconds, d.secs.toNat, d.nanos, rfl, small, rfl⟩
  · rename_i noSeconds
    have zero : d.secs.toNat = 0 := by
      simpa [UInt64.lt_iff_toNat_lt] using noSeconds
    rw [zero, Nat.zero_mul, Nat.zero_add]
    split
    · refine ⟨.milliseconds, d.nanos / 1000000, d.nanos % 1000000, rfl, ?_, ?_⟩
      · exact Nat.mod_lt _ (by decide)
      · exact Nat.div_add_mod' _ _
    · split
      · refine ⟨.microseconds, d.nanos / 1000, d.nanos % 1000, rfl, ?_, ?_⟩
        · exact Nat.mod_lt _ (by decide)
        · exact Nat.div_add_mod' _ _
      · exact ⟨.nanoseconds, d.nanos, 0, rfl, by decide, Nat.mul_one _⟩

/-- Numeral and unit are found again in a text. -/
theorem split_numeral (whole places part : Nat) (unit : TimeUnit) :
    (numeral whole places part ++ unit.symbol).takeWhile isNumeric = numeral whole places part ∧
      (numeral whole places part ++ unit.symbol).dropWhile isNumeric = unit.symbol := by
  have numeric : ∀ c ∈ numeral whole places part, isNumeric c = true :=
    fun c => isNumeric_of_mem_numeral
  obtain ⟨c, rest, same, stops⟩ := unit.symbol_stops
  rw [List.takeWhile_append_of_pos numeric, List.dropWhile_append_of_pos numeric, same,
    List.takeWhile_cons_of_neg (by simp [stops]), List.dropWhile_cons_of_neg (by simp [stops]),
    List.append_nil]
  exact ⟨rfl, rfl⟩

/-- The text of a duration denotes exactly its length. -/
theorem denoted?_text (d : Duration) : denoted? d.text = some (d.toNanos : ℚ) := by
  obtain ⟨unit, whole, part, written, fits, length⟩ := d.write_eq
  obtain ⟨front, back⟩ := split_numeral whole unit.exponent part unit
  rw [denoted?, text, String.toList_ofList, written, front, back, decimal?_numeral fits,
    TimeUnit.ofSymbol?_symbol, Option.bind_some, Option.map_some, ← length]
  push_cast
  field_simp

example : denoted? "1.000000001s" = some 1000000001 ∧ denoted? "999999ns" = some 999999 := by
  decide +kernel

theorem trimmed_text (d : Duration) : Trimmed d.text := by
  obtain ⟨unit, whole, part, written, -, -⟩ := d.write_eq
  obtain ⟨front, -⟩ := split_numeral whole unit.exponent part unit
  intro fraction member
  rw [text, String.toList_ofList, written, front, onChar_numeral, List.tail_cons] at member
  split at member
  · cases member
  · rw [List.mem_singleton.mp member, List.getLast?_map]
    intro zero
    obtain ⟨d, last, isZero⟩ := Option.map_eq_some_iff.mp zero
    have small := lt_of_mem_fractionDigits (List.mem_of_getLast? last)
    have value := Numeral.digitValue?_digitChar small (by omega)
    rw [isZero] at value
    obtain rfl : 0 = d := Option.some.inj value
    exact getLast?_fractionDigits _ _ last

theorem toNanos_injective {one two : Duration} (same : one.toNanos = two.toNanos) : one = two := by
  obtain ⟨secs, nanos⟩ := one
  obtain ⟨otherSecs, otherNanos⟩ := two
  have small := nanos.isLt
  have otherSmall := otherNanos.isLt
  simp only [toNanos, nanosPerSecond] at same small otherSmall
  obtain rfl : secs = otherSecs := UInt64.toNat_inj.mp (by omega)
  obtain rfl : nanos = otherNanos := Fin.ext (by omega)
  rfl

theorem text_injective {one two : Duration} (same : one.text = two.text) : one = two := by
  have lengths : some (one.toNanos : ℚ) = some (two.toNanos : ℚ) := by
    rw [← denoted?_text, ← denoted?_text, same]
  exact toNanos_injective (Nat.cast_injective (Option.some.inj lengths))

end Duration

/-! ## Snapshots -/

namespace Ledger

theorem showEntry_injective : Function.Injective showEntry := by
  rintro ⟨index, name, duration⟩ ⟨otherIndex, otherName, otherDuration⟩ same
  obtain ⟨rfl, rfl, texts⟩ := TracedEntry.mk.inj same
  exact congrArg (LedgerEntry.mk _ _) (Duration.text_injective texts)

/-- A snapshot tells its ledger.

* The text of a duration is a decimal numeral with a unit. It denotes exactly the length of the
  duration, and its fraction does not end in a zero. So different durations have different texts.
* Two tracers show the same just in case their ledgers hold the same indexes, names and durations
  in the same order. -/
theorem snapshot_exact :
    (∀ d : Duration, Duration.denoted? d.text = some (d.toNanos : ℚ) ∧ Duration.Trimmed d.text) ∧
      (∀ one two : Duration, one.text = two.text ↔ one = two) ∧
      ∀ (name other : String) (one two : Ledger),
        (Tracer.keeping name one).snapshot = (Tracer.keeping other two).snapshot ↔
          one.entries = two.entries := by
  refine ⟨fun d => ⟨d.denoted?_text, d.trimmed_text⟩, fun one two => ?_,
    fun name other one two => ⟨fun same => ?_, fun same => ?_⟩⟩
  · exact ⟨Duration.text_injective, congrArg Duration.text⟩
  · exact List.map_injective_iff.mpr showEntry_injective (congrArg Trace.entries same)
  · rw [Tracer.snapshot, Tracer.snapshot, snapshot, snapshot, same]

end Ledger

end PluginSupport
