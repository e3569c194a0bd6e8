import PluginSupport.Text.Numeral
import PluginSupport.Text.Split

/-!
# MAC addresses

A MAC address is the low 48 bits of a number, written as six octets in lowercase hexadecimal, most
significant first, with colons between them.
-/
namespace PluginSupport.Mac

/-- The six octets of the low 48 bits, most significant first. -/
def octets (mac : UInt64) : List Nat :=
  Numeral.lowDigits 256 6 mac.toNat

/-- Text of the low 48 bits. -/
def text (mac : UInt64) : String :=
  String.ofList (Split.join [':'] ((octets mac).map Numeral.hexPair))

end PluginSupport.Mac
