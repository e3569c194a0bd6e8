/-!
# Numerals

Positional numerals: writing a number in a base, and reading the digits back.

`digits` is the canonical form: most significant digit first, no leading zero except for zero
itself. `read?` accepts any non-empty row of digits, leading zeros included, in either letter case.
Main statement: `value_digits`, the digits of a number denote that number.
-/
namespace PluginSupport.Numeral

/-! ## Digits -/

/-- Lowercase character of a digit below 16. -/
def digitChar (d : Nat) : Char :=
  if d < 10 then Char.ofNat (48 + d) else Char.ofNat (87 + d)

/-- Digit that a character stands for in `base`; letters count in either case. -/
def digitValue? (base : Nat) (c : Char) : Option Nat :=
  let n := c.toNat
  let d? :=
    if 48 ≤ n ∧ n ≤ 57 then some (n - 48)
    else if 97 ≤ n ∧ n ≤ 102 then some (n - 87)
    else if 65 ≤ n ∧ n ≤ 70 then some (n - 55)
    else none
  d?.filter (· < base)

/-- Digits of `n`, most significant first. A base below two has one digit, the number itself. -/
def digits (base n : Nat) : List Nat :=
  if base < 2 ∨ n < base then [n] else digits base (n / base) ++ [n % base]
termination_by n
decreasing_by
  rename_i h
  have : 2 ≤ base ∧ base ≤ n := by omega
  exact Nat.div_lt_self (by omega) (by omega)

/-- The lowest `places` digits of `n`, most significant first, zeros included. -/
def lowDigits (base : Nat) : (places : Nat) → (n : Nat) → List Nat
  | 0, _ => []
  | places + 1, n => lowDigits base places (n / base) ++ [n % base]

/-- Number that a row of digits denotes. -/
def value (base : Nat) (ds : List Nat) : Nat :=
  ds.foldl (fun acc d => acc * base + d) 0

/-! ## Text -/

/-- Canonical text of `n` in `base`. -/
def write (base n : Nat) : List Char :=
  (digits base n).map digitChar

/-- Decimal text of a number. -/
def decimal (n : Nat) : String :=
  String.ofList (write 10 n)

/-- Number written by a non-empty row of digits, leading zeros allowed. -/
def read? (base : Nat) (cs : List Char) : Option Nat :=
  if cs.isEmpty then none else (cs.mapM (digitValue? base)).map (value base)

/-- Two lowercase hexadecimal digits of an octet. -/
def hexPair (octet : Nat) : List Char :=
  [digitChar (octet / 16 % 16), digitChar (octet % 16)]

/-! ## Laws -/

theorem value_append (base : Nat) (ds : List Nat) (d : Nat) :
    value base (ds ++ [d]) = value base ds * base + d := by
  simp [value]

theorem value_digits (base n : Nat) : value base (digits base n) = n := by
  fun_induction digits base n with
  | case1 n _ => simp [value]
  | case2 n _ ih => rw [value_append, ih, Nat.div_add_mod']

end PluginSupport.Numeral
