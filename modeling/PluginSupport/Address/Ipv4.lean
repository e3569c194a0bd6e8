import PluginSupport.Text.Numeral
import PluginSupport.Text.Split

/-!
# IPv4 addresses

Four octets, written as decimal numbers between dots. The text form is canonical: each octet has
one to three digits and no leading zero, so reading accepts exactly what writing produces.
-/
namespace PluginSupport

/-- An IPv4 address, first octet first. -/
structure Ipv4 where
  a : UInt8
  b : UInt8
  c : UInt8
  d : UInt8
deriving DecidableEq, Repr

namespace Ipv4

/-- Octets in network order. -/
def octets (ip : Ipv4) : List UInt8 := [ip.a, ip.b, ip.c, ip.d]

/-- Address with the given octets; four are needed. -/
def ofOctets? : List UInt8 → Option Ipv4
  | [a, b, c, d] => some ⟨a, b, c, d⟩
  | _ => none

/-- Address of a word, its highest bits first. -/
def ofBits (bits : BitVec 32) : Ipv4 :=
  ⟨.ofBitVec (bits.extractLsb' 24 8), .ofBitVec (bits.extractLsb' 16 8),
    .ofBitVec (bits.extractLsb' 8 8), .ofBitVec (bits.extractLsb' 0 8)⟩

/-! ## Text -/

/-- Characters of the dotted form. -/
def write (ip : Ipv4) : List Char :=
  Split.join ['.'] (ip.octets.map fun octet => Numeral.write 10 octet.toNat)

/-- Octet written with one to three decimal digits, no leading zero, at most 255. -/
def readOctet? (cs : List Char) : Option UInt8 :=
  if 3 < cs.length ∨ (cs.head? = some '0' ∧ 1 < cs.length) then none
  else ((Numeral.read? 10 cs).filter (· < 256)).map UInt8.ofNat

/-- Address written as exactly four octets between dots. -/
def read? (cs : List Char) : Option Ipv4 :=
  ((Split.onChar '.' cs).mapM readOctet?).bind ofOctets?

theorem length_octets (ip : Ipv4) : ip.octets.length = 4 := rfl

theorem ofOctets?_octets (ip : Ipv4) : ofOctets? ip.octets = some ip := rfl

end Ipv4

end PluginSupport
