/-!
# Arithmetic modulo a number

Powers, inverses and differences of residues. Powers go through the bits of the exponent, so that
exponents of hundreds of bits are no burden.
-/
namespace PluginSupport.Modular

/-- Difference of two residues. -/
def sub (m a b : Nat) : Nat :=
  (a + m - b % m) % m

/-- Bits of a number, least significant first, over a fixed width. -/
def bits : (width : Nat) → Nat → List Bool
  | 0, _ => []
  | width + 1, n => (n % 2 = 1) :: bits width (n / 2)

/-- Bits of a number, most significant first, without leading zeros. -/
def bitsOf (n : Nat) : List Bool :=
  (bits (if n = 0 then 0 else n.log2 + 1) n).reverse

/-- Power of a residue. -/
def pow (m base exponent : Nat) : Nat :=
  (bitsOf exponent).foldl (fun acc bit =>
    let square := acc * acc % m
    if bit then square * base % m else square) (1 % m)

/-- Inverse of a residue modulo a prime. -/
def inverse (p a : Nat) : Nat :=
  pow p a (p - 2)

end PluginSupport.Modular
