import PluginSupport.Text.Numeral

/-!
# Durations

A duration is a number of seconds below 2⁶⁴ and a number of nanoseconds below one second. Its text
is exact: the largest unit among seconds, milliseconds, microseconds and nanoseconds that leaves a
whole part above zero, the whole part in decimal, and a fraction without trailing zeros.
-/
namespace PluginSupport

/-- Nanoseconds of a second. -/
abbrev nanosPerSecond : Nat := 1000000000

/-- A span of time. -/
structure Duration where
  secs : UInt64
  nanos : Fin nanosPerSecond
deriving DecidableEq, Repr

namespace Duration

/-- No time at all. -/
def zero : Duration := ⟨0, ⟨0, by decide⟩⟩

/-- Duration with the given parts, when they are in range. -/
def of? (secs nanos : Nat) : Option Duration :=
  if h : secs < UInt64.size ∧ nanos < nanosPerSecond then
    some ⟨UInt64.ofNat secs, ⟨nanos, h.2⟩⟩
  else none

/-- Length in nanoseconds. -/
def toNanos (d : Duration) : Nat :=
  d.secs.toNat * nanosPerSecond + d.nanos

/-- Duration of a number of nanoseconds. Seconds beyond the range are cut to the largest number of
seconds, while the nanoseconds below a second stay as they are. -/
def ofNanos (n : Nat) : Duration where
  secs := UInt64.ofNat (min (n / nanosPerSecond) (UInt64.size - 1))
  nanos := ⟨n % nanosPerSecond, Nat.mod_lt _ (by decide)⟩

/-! ## Text -/

/-- Digits after the point of a fraction with `part` in its last place, without trailing zeros. -/
def fractionDigits (places part : Nat) : List Nat :=
  ((Numeral.lowDigits 10 places part).reverse.dropWhile (· = 0)).reverse

/-- A decimal number with its unit: `whole` before the point, and `part` after it over a number of
places. -/
def writeDecimal (whole places part : Nat) (unit : List Char) : List Char :=
  let digits := fractionDigits places part
  let fraction := if digits.isEmpty then [] else '.' :: digits.map Numeral.digitChar
  Numeral.write 10 whole ++ fraction ++ unit

/-- Characters of the text of a duration. -/
def write (d : Duration) : List Char :=
  let nanos := d.nanos.val
  if 0 < d.secs then writeDecimal d.secs.toNat 9 nanos ['s']
  else if 1000000 ≤ nanos then writeDecimal (nanos / 1000000) 6 (nanos % 1000000) ['m', 's']
  else if 1000 ≤ nanos then writeDecimal (nanos / 1000) 3 (nanos % 1000) ['µ', 's']
  else writeDecimal nanos 0 0 ['n', 's']

/-- Text of a duration. -/
def text (d : Duration) : String :=
  String.ofList d.write

end Duration

end PluginSupport
