import Mathlib.Data.List.Induction
import Mathlib.Tactic.IntervalCases
import PluginSupport.Text.Numeral

/-!
# Numerals are read back

Writing a number gives its standard digits (`write_eq_toDigits`), and reading them gives the number
back (`read?_write`). Reading accepts more than writing produces: leading zeros, and letters of
either case. For decimal numerals `read?_ten_eq_some_iff` says what is accepted and what it denotes,
and `write_of_read?` that leading zeros are the only liberty.

The lowest digits of a number, leading zeros included, denote what is left of it above them
(`value_lowDigits`), and are in the order of what they denote (`lowDigits_lt_iff`).
-/
namespace PluginSupport.Numeral

variable {base : Nat}

/-! ## Digits -/

theorem digitChar_eq {d : Nat} (small : d < 16) : digitChar d = Nat.digitChar d := by
  interval_cases d <;> rfl

theorem digitValue?_digitChar {d : Nat} (below : d < base) (small : d < 16) :
    digitValue? base (digitChar d) = some d := by
  have table : ∀ d : Fin 16, digitValue? 16 (digitChar d) = some d.val := by decide
  have hexadecimal := table ⟨d, small⟩
  simp only [digitValue?, Option.filter_eq_some_iff] at hexadecimal ⊢
  exact ⟨hexadecimal.1, by simpa using below⟩

theorem digitValue?_ten_eq_some_iff {c : Char} {d : Nat} :
    digitValue? 10 c = some d ↔ c.isDigit = true ∧ c.toNat - 48 = d := by
  have inRange : c.isDigit = true ↔ 48 ≤ c.toNat ∧ c.toNat ≤ 57 := Char.isDigit_iff_toNat
  rw [inRange]
  simp only [digitValue?, Option.filter_eq_some_iff, decide_eq_true_eq]
  split
  · simp only [Option.some.injEq]
    omega
  · -- A letter stands for ten or more.
    split
    · simp only [Option.some.injEq]
      omega
    · split
      · simp only [Option.some.injEq]
        omega
      · simp_all

theorem digitChar_of_digitValue? {c : Char} {d : Nat} (denotes : digitValue? 10 c = some d) :
    digitChar d = c := by
  obtain ⟨isDigit, rfl⟩ := digitValue?_ten_eq_some_iff.mp denotes
  have inRange : 48 ≤ c.toNat ∧ c.toNat ≤ 57 := Char.isDigit_iff_toNat.mp isDigit
  rw [digitChar, if_pos (by omega), Nat.add_sub_cancel' inRange.1, Char.ofNat_toNat]

theorem lt_of_mem_digits (atLeast : 1 < base) {n d : Nat} (member : d ∈ digits base n) :
    d < base := by
  fun_induction digits base n with
  | case1 n single =>
    rw [List.mem_singleton.mp member]
    omega
  | case2 n several ih =>
    rcases List.mem_append.mp member with front | last
    · exact ih front
    · rw [List.mem_singleton.mp last]
      exact Nat.mod_lt n (by omega)

theorem digits_ne_nil (n : Nat) : digits base n ≠ [] := by
  rw [digits]
  split <;> simp

/-- The digits of a positive number do not begin with zero. -/
theorem head?_digits (atLeast : 1 < base) {n : Nat} (positive : 0 < n) :
    (digits base n).head? ≠ some 0 := by
  fun_induction digits base n with
  | case1 n single =>
    simpa using Nat.ne_of_gt positive
  | case2 n several ih =>
    have front := ih (Nat.div_pos (by omega) (by omega))
    cases leading : digits base (n / base) with
    | nil => exact absurd leading (digits_ne_nil _)
    | cons first rest =>
      rw [leading] at front
      simpa using front

/-- A row of digits that does not begin with zero denotes a positive number. -/
theorem value_pos {ds : List Nat} (notEmpty : ds ≠ []) (leading : ds.head? ≠ some 0)
    (atLeast : 1 < base) : 0 < value base ds := by
  induction ds using List.reverseRecOn with
  | nil => exact absurd rfl notEmpty
  | append_singleton ds d ih =>
    rw [value_append]
    cases ds with
    | nil =>
      have positive : d ≠ 0 := by simpa using leading
      omega
    | cons first rest =>
      have positive := ih (List.cons_ne_nil first rest) (by simpa using leading)
      have := Nat.mul_pos positive (by omega : 0 < base)
      omega

theorem value_lt {ds : List Nat} (below : ∀ d ∈ ds, d < base) :
    value base ds < base ^ ds.length := by
  induction ds using List.reverseRecOn with
  | nil => exact Nat.one_pos
  | append_singleton ds d ih =>
    have last : d < base := below d (by simp)
    have front := ih fun d member => below d (List.mem_append_left _ member)
    rw [value_append, List.length_append, List.length_singleton, Nat.pow_succ]
    calc value base ds * base + d < value base ds * base + base := Nat.add_lt_add_left last _
      _ = (value base ds + 1) * base := (Nat.succ_mul _ _).symm
      _ ≤ base ^ ds.length * base := Nat.mul_le_mul_right base front

/-- Without leading zeros a number has one row of digits. -/
theorem digits_value {ds : List Nat} (atLeast : 1 < base) (small : ∀ d ∈ ds, d < base)
    (notEmpty : ds ≠ []) (leading : ds.head? = some 0 → ds.length ≤ 1) :
    digits base (value base ds) = ds := by
  induction ds using List.reverseRecOn with
  | nil => exact absurd rfl notEmpty
  | append_singleton ds d ih =>
    have last : d < base := small d (by simp)
    rw [value_append]
    cases ds with
    | nil =>
      rw [digits, if_pos (.inr (by simpa [value] using last))]
      simp [value]
    | cons first rest =>
      -- The first digit is not zero, so all but the last are a row of the same kind.
      have noZero : (first :: rest).head? ≠ some 0 := by
        intro zero
        have short := leading (by simpa using zero)
        simp at short
      have positive := value_pos (List.cons_ne_nil first rest) noZero atLeast
      have more : base ≤ value base (first :: rest) * base :=
        Nat.le_mul_of_pos_left base positive
      have front := ih (fun d member => small d (List.mem_append_left _ member))
        (List.cons_ne_nil first rest) (fun zero => absurd zero noZero)
      have quotient : (value base (first :: rest) * base + d) / base =
          value base (first :: rest) := by
        rw [Nat.mul_comm, Nat.mul_add_div (by omega), Nat.div_eq_of_lt last, Nat.add_zero]
      have remainder : (value base (first :: rest) * base + d) % base = d := by
        rw [Nat.mul_comm, Nat.mul_add_mod, Nat.mod_eq_of_lt last]
      rw [digits, if_neg (by omega), quotient, remainder, front]

/-! ## Rows of one length -/

/-- A digit counts for all the places behind it. -/
theorem value_cons (base d : Nat) (ds : List Nat) :
    value base (d :: ds) = d * base ^ ds.length + value base ds := by
  induction ds using List.reverseRecOn with
  | nil => simp [value]
  | append_singleton ds last ih =>
    rw [← List.cons_append, value_append, ih, value_append, List.length_append,
      List.length_singleton, Nat.pow_succ, Nat.add_mul, Nat.mul_assoc, Nat.add_assoc]

/-- Where first digits differ, they decide. -/
theorem value_cons_lt {d e : Nat} {ds es : List Nat} (sameLength : ds.length = es.length)
    (below : ∀ d ∈ ds, d < base) (smaller : d < e) :
    value base (d :: ds) < value base (e :: es) := by
  rw [value_cons, value_cons]
  calc d * base ^ ds.length + value base ds
    _ < d * base ^ ds.length + base ^ ds.length := Nat.add_lt_add_left (value_lt below) _
    _ = (d + 1) * base ^ es.length := by rw [Nat.succ_mul, sameLength]
    _ ≤ e * base ^ es.length := Nat.mul_le_mul_right _ smaller
    _ ≤ e * base ^ es.length + value base es := Nat.le_add_right _ _

/-- Rows of one length are in the order of the numbers that they denote. -/
theorem lt_iff_value_lt {ds es : List Nat} (sameLength : ds.length = es.length)
    (dsBelow : ∀ d ∈ ds, d < base) (esBelow : ∀ e ∈ es, e < base) :
    ds < es ↔ value base ds < value base es := by
  induction ds generalizing es with
  | nil =>
    obtain rfl := List.length_eq_zero_iff.mp sameLength.symm
    exact iff_of_false (List.not_lt_nil []) (Nat.lt_irrefl _)
  | cons d ds ih =>
    cases es with
    | nil => cases sameLength
    | cons e es =>
      have restLength : ds.length = es.length := Nat.succ.inj sameLength
      have dsRest := (List.forall_mem_cons.mp dsBelow).2
      have esRest := (List.forall_mem_cons.mp esBelow).2
      rw [List.cons_lt_cons_iff]
      rcases Nat.lt_trichotomy d e with smaller | rfl | larger
      · exact iff_of_true (.inl smaller) (value_cons_lt restLength dsRest smaller)
      · rw [value_cons, value_cons, restLength, Nat.add_lt_add_iff_left,
          ← ih restLength dsRest esRest]
        simp
      · refine iff_of_false ?_ (Nat.lt_asymm (value_cons_lt restLength.symm esRest larger))
        rintro (smaller | ⟨same, -⟩) <;> omega

/-! ## Lowest digits -/

theorem length_lowDigits (base places n : Nat) : (lowDigits base places n).length = places := by
  induction places generalizing n with
  | zero => rfl
  | succ places ih => rw [lowDigits, List.length_append, ih, List.length_singleton]

theorem lt_of_mem_lowDigits (positive : 0 < base) {places n d : Nat}
    (member : d ∈ lowDigits base places n) : d < base := by
  induction places generalizing n with
  | zero => cases member
  | succ places ih =>
    rcases List.mem_append.mp member with front | last
    · exact ih front
    · rw [List.mem_singleton.mp last]
      exact Nat.mod_lt n positive

/-- The lowest digits denote what is left of a number above its lowest places. -/
theorem value_lowDigits (base places n : Nat) :
    value base (lowDigits base places n) = n % base ^ places := by
  induction places generalizing n with
  | zero => exact (Nat.mod_one n).symm
  | succ places ih =>
    rw [lowDigits, value_append, ih, Nat.pow_succ, Nat.mul_comm (base ^ places), Nat.mod_mul,
      Nat.mul_comm, Nat.add_comm]

theorem lowDigits_lt_iff (positive : 0 < base) {places m n : Nat} :
    lowDigits base places m < lowDigits base places n ↔ m % base ^ places < n % base ^ places := by
  rw [lt_iff_value_lt (by rw [length_lowDigits, length_lowDigits])
    (fun d => lt_of_mem_lowDigits positive) (fun d => lt_of_mem_lowDigits positive),
    value_lowDigits, value_lowDigits]

theorem lowDigits_eq_iff (positive : 0 < base) {places m n : Nat} :
    lowDigits base places m = lowDigits base places n ↔ m % base ^ places = n % base ^ places := by
  constructor
  · intro same
    rw [← value_lowDigits, same, value_lowDigits]
  · intro same
    refine List.le_antisymm ?_ ?_ <;> rw [← List.not_lt, lowDigits_lt_iff positive, same] <;>
      exact Nat.lt_irrefl _

/-- The lowest digits of the number that digits denote are these digits. -/
theorem lowDigits_value {ds : List Nat} (below : ∀ d ∈ ds, d < base) :
    lowDigits base ds.length (value base ds) = ds := by
  induction ds using List.reverseRecOn with
  | nil => rfl
  | append_singleton ds d ih =>
    obtain ⟨front, last⟩ := List.forall_mem_append.mp below
    have small : d < base := last d List.mem_cons_self
    have quotient : (value base ds * base + d) / base = value base ds := by
      rw [Nat.mul_comm, Nat.mul_add_div (by omega), Nat.div_eq_of_lt small, Nat.add_zero]
    have remainder : (value base ds * base + d) % base = d := by
      rw [Nat.mul_comm, Nat.mul_add_mod, Nat.mod_eq_of_lt small]
    rw [List.length_append, List.length_singleton, lowDigits, value_append, quotient, remainder,
      ih front]

theorem lowDigits_mod (positive : 0 < base) (places n : Nat) :
    lowDigits base places (n % base ^ places) = lowDigits base places n :=
  (lowDigits_eq_iff positive).mpr (Nat.mod_mod _ _)

/-- Digits of the higher places stand in front of those of the lower ones. -/
theorem lowDigits_add (base front back n : Nat) :
    lowDigits base (front + back) n =
      lowDigits base front (n / base ^ back) ++ lowDigits base back n := by
  induction back generalizing n with
  | zero => simp [lowDigits]
  | succ back ih =>
    rw [← Nat.add_assoc, lowDigits, ih, lowDigits, Nat.div_div_eq_div_mul, Nat.pow_succ,
      Nat.mul_comm base, List.append_assoc]

/-! ## Writing -/

theorem write_eq_toDigits (atLeast : 1 < base) (atMost : base ≤ 16) (n : Nat) :
    write base n = Nat.toDigits base n := by
  rw [write]
  fun_induction digits base n with
  | case1 n single =>
    have below : n < base := by omega
    rw [List.map_singleton, digitChar_eq (by omega), Nat.toDigits_of_lt_base below]
  | case2 n several ih =>
    have last := Nat.mod_lt n (by omega : base > 0)
    rw [List.map_append, ih, List.map_singleton, digitChar_eq (by omega)]
    exact (Nat.toDigits_of_base_le atLeast (by omega)).symm

/-- The number of digits bounds the number. -/
theorem length_write_le_iff (atLeast : 1 < base) (atMost : base ≤ 16) {n places : Nat}
    (some : 0 < places) : (write base n).length ≤ places ↔ n < base ^ places := by
  rw [write_eq_toDigits atLeast atMost, Nat.length_toDigits_le_iff atLeast some]

/-! ## Reading -/

theorem mapM_digitValue?_map {ds : List Nat} (below : ∀ d ∈ ds, d < base) (atMost : base ≤ 16) :
    (ds.map digitChar).mapM (digitValue? base) = some ds := by
  induction ds with
  | nil => rfl
  | cons d ds ih =>
    obtain ⟨first, rest⟩ := List.forall_mem_cons.mp below
    rw [List.map_cons, List.mapM_cons, digitValue?_digitChar first (by omega), ih rest]
    rfl

theorem read?_write (atLeast : 1 < base) (atMost : base ≤ 16) (n : Nat) :
    read? base (write base n) = some n := by
  have notEmpty : (write base n).isEmpty = false := by
    simp [write, digits_ne_nil]
  rw [read?, notEmpty, if_neg Bool.false_ne_true, write,
    mapM_digitValue?_map (fun d => lt_of_mem_digits atLeast) atMost, Option.map_some, value_digits]

/-- What is read as a number has digits only. -/
theorem mapM_of_read? {cs : List Char} {n : Nat} (denotes : read? base cs = some n) :
    cs ≠ [] ∧ ∃ ds, cs.mapM (digitValue? base) = some ds ∧ value base ds = n := by
  unfold read? at denotes
  split at denotes
  · cases denotes
  · rename_i notEmpty
    exact ⟨by simpa using notEmpty, Option.map_eq_some_iff.mp denotes⟩

/-- The digits of a text, one for each character. -/
theorem digits_of_mapM {cs : List Char} {ds : List Nat}
    (digits : cs.mapM (digitValue? base) = some ds) :
    ds.length = cs.length ∧ (∀ d ∈ ds, d < base) ∧ ∀ c ∈ cs, digitValue? base c ≠ none := by
  induction cs generalizing ds with
  | nil =>
    obtain rfl : [] = ds := Option.some.inj digits
    exact ⟨rfl, nofun, nofun⟩
  | cons c cs ih =>
    simp only [List.mapM_cons, bind, pure, Option.bind_eq_some_iff] at digits
    obtain ⟨d, first, others, rest, same⟩ := digits
    obtain rfl : d :: others = ds := Option.some.inj same
    obtain ⟨sameLength, below, known⟩ := ih rest
    refine ⟨congrArg Nat.succ sameLength, List.forall_mem_cons.mpr ⟨?_, below⟩,
      List.forall_mem_cons.mpr ⟨by simp [first], known⟩⟩
    simp only [digitValue?, Option.filter_eq_some_iff, decide_eq_true_eq] at first
    exact first.2

theorem value_le_append (positive : 0 < base) (ds others : List Nat) :
    value base ds ≤ value base (ds ++ others) := by
  induction others using List.reverseRecOn with
  | nil => simp
  | append_singleton others d ih =>
    rw [← List.append_assoc, value_append]
    exact ih.trans ((Nat.le_mul_of_pos_right _ positive).trans (Nat.le_add_right _ d))

/-- The front digits of a numeral denote no more than all of them. -/
theorem read?_of_isPrefix (positive : 0 < base) {front cs : List Char} {n : Nat}
    (denotes : read? base cs = some n) (isFront : front <+: cs) (notEmpty : front ≠ []) :
    ∃ m ≤ n, read? base front = some m := by
  obtain ⟨-, ds, digits, rfl⟩ := mapM_of_read? denotes
  obtain ⟨back, rfl⟩ := isFront
  simp only [List.mapM_append, bind, pure, Option.bind_eq_some_iff] at digits
  obtain ⟨first, here, others, -, same⟩ := digits
  obtain rfl := Option.some.inj same
  refine ⟨value base first, value_le_append positive first others, ?_⟩
  rw [read?, if_neg (by simpa using notEmpty), here, Option.map_some]

/-- The places of a numeral bound its number. -/
theorem lt_of_read? {cs : List Char} {n : Nat} (denotes : read? base cs = some n) :
    n < base ^ cs.length := by
  obtain ⟨-, ds, digits, rfl⟩ := mapM_of_read? denotes
  obtain ⟨sameLength, below, -⟩ := digits_of_mapM digits
  rw [← sameLength]
  exact value_lt below

/-- A character that is no digit stands in no numeral. -/
theorem not_mem_of_read? {cs : List Char} {n : Nat} (denotes : read? base cs = some n) {c : Char}
    (noDigit : digitValue? base c = none) : c ∉ cs := by
  intro member
  obtain ⟨-, ds, digits, -⟩ := mapM_of_read? denotes
  obtain ⟨-, -, known⟩ := digits_of_mapM digits
  exact known c member noDigit

theorem not_mem_write (atLeast : 1 < base) (atMost : base ≤ 16) (n : Nat) {c : Char}
    (noDigit : digitValue? base c = none) : c ∉ write base n :=
  not_mem_of_read? (read?_write atLeast atMost n) noDigit

/-! ## Decimal numerals -/

theorem mapM_digitValue?_ten {cs : List Char} {ds : List Nat} :
    cs.mapM (digitValue? 10) = some ds ↔
      (∀ c ∈ cs, c.isDigit = true) ∧ cs.map (fun c => c.toNat - 48) = ds := by
  induction cs generalizing ds with
  | nil => simp
  | cons c cs ih =>
    simp only [List.mapM_cons, bind, pure, Option.bind_eq_some_iff, digitValue?_ten_eq_some_iff, ih,
      List.forall_mem_cons, List.map_cons]
    constructor
    · rintro ⟨d, ⟨first, rfl⟩, others, ⟨rest, rfl⟩, same⟩
      exact ⟨⟨first, rest⟩, Option.some.inj same⟩
    · rintro ⟨⟨first, rest⟩, rfl⟩
      exact ⟨_, ⟨first, rfl⟩, _, ⟨rest, rfl⟩, rfl⟩

/-- A decimal numeral is a row of at least one digit, and denotes what such a row denotes. -/
theorem read?_ten_eq_some_iff {cs : List Char} {n : Nat} :
    read? 10 cs = some n ↔
      cs ≠ [] ∧ (∀ c ∈ cs, c.isDigit = true) ∧ Nat.ofDigitChars 10 cs 0 = n := by
  have standard : value 10 (cs.map fun c => c.toNat - 48) = Nat.ofDigitChars 10 cs 0 := by
    simp only [value, List.foldl_map, Nat.ofDigitChars_eq_foldl, Nat.mul_comm 10]
    rfl
  constructor
  · intro denotes
    obtain ⟨notEmpty, ds, digits, rfl⟩ := mapM_of_read? denotes
    obtain ⟨allDigits, rfl⟩ := mapM_digitValue?_ten.mp digits
    exact ⟨notEmpty, allDigits, standard.symm⟩
  · rintro ⟨notEmpty, allDigits, rfl⟩
    rw [read?, if_neg (by simpa using notEmpty), mapM_digitValue?_ten.mpr ⟨allDigits, rfl⟩,
      Option.map_some, standard]

/-- A decimal numeral without leading zeros is what writing its number gives. -/
theorem write_of_read? {cs : List Char} {n : Nat} (denotes : read? 10 cs = some n)
    (leading : cs.head? = some '0' → cs.length ≤ 1) : write 10 n = cs := by
  obtain ⟨notEmpty, ds, digits, rfl⟩ := mapM_of_read? denotes
  obtain ⟨allDigits, rfl⟩ := mapM_digitValue?_ten.mp digits
  have spelled : (cs.map fun c => c.toNat - 48).map digitChar = cs := by
    rw [List.map_map]
    refine (List.map_congr_left fun c member => ?_).trans (List.map_id cs)
    exact digitChar_of_digitValue? (digitValue?_ten_eq_some_iff.mpr ⟨allDigits c member, rfl⟩)
  have small : ∀ d ∈ cs.map fun c => c.toNat - 48, d < 10 := by
    intro d member
    obtain ⟨c, inText, rfl⟩ := List.mem_map.mp member
    have inRange : 48 ≤ c.toNat ∧ c.toNat ≤ 57 := Char.isDigit_iff_toNat.mp (allDigits c inText)
    omega
  have noLeadingZero : (cs.map fun c => c.toNat - 48).head? = some 0 →
      (cs.map fun c => c.toNat - 48).length ≤ 1 := by
    intro zero
    have first : cs.head? = some '0' := by
      rw [← spelled, List.head?_map, zero]
      rfl
    simpa using leading first
  rw [write, digits_value (by decide) small (by simpa using notEmpty) noLeadingZero, spelled]

/-- Only zero is written with a zero in front. -/
theorem length_write_of_zero {n : Nat} (zero : (write 10 n).head? = some '0') :
    (write 10 n).length = 1 := by
  obtain ⟨d, first, isZero⟩ : ∃ d, (digits 10 n).head? = some d ∧ digitChar d = '0' := by
    simpa [write, List.head?_map, Option.map_eq_some_iff] using zero
  have below : d < 10 := lt_of_mem_digits (by decide) (List.mem_of_head? first)
  obtain rfl : d = 0 := by
    have backwards := digitValue?_digitChar below (by omega)
    rw [isZero] at backwards
    exact (Option.some.inj backwards).symm
  have zeroNumber : n = 0 := by
    by_contra positive
    exact head?_digits (by decide) (Nat.pos_of_ne_zero positive) first
  subst zeroNumber
  simp [write, digits]

end PluginSupport.Numeral
