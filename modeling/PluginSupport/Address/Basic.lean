import PluginSupport.Address.Ipv6

/-!
# Addresses of either family

An address is IPv4 or IPv6; the two families never mix. `IpVersion` names the family, and
`IpVersion.ofText?` guesses it from text alone: a colon means IPv6, else a dot means IPv4.
-/
namespace PluginSupport

/-- Address family. -/
inductive IpVersion where
  | v4
  | v6
deriving DecidableEq, Repr

namespace IpVersion

/-- Family that a text looks like; none when it has neither colon nor dot. -/
def ofText? (cs : List Char) : Option IpVersion :=
  if ':' ∈ cs then some .v6 else if '.' ∈ cs then some .v4 else none

/-- Octets of an address of the family. -/
def width : IpVersion → Nat
  | .v4 => 4
  | .v6 => 16

/-- Bits of an address of the family, which is also its longest network prefix. -/
def maxPrefixLen (version : IpVersion) : Nat :=
  8 * version.width

/-- Name of the family on the wire. -/
def name : IpVersion → String
  | .v4 => "v4"
  | .v6 => "v6"

end IpVersion

/-- An IP address of either family. -/
inductive IpAddress where
  | v4 (ip : Ipv4)
  | v6 (ip : Ipv6)
deriving DecidableEq, Repr

namespace IpAddress

/-- Family of the address. -/
def version : IpAddress → IpVersion
  | .v4 _ => .v4
  | .v6 _ => .v6

/-- Octets in network order: four or sixteen. -/
def octets : IpAddress → List UInt8
  | .v4 ip => ip.octets
  | .v6 ip => ip.octets

/-- Address with the given octets; their number decides the family. -/
def ofOctets? (os : List UInt8) : Option IpAddress :=
  match Ipv4.ofOctets? os with
  | some ip => some (.v4 ip)
  | none => (Ipv6.ofOctets? os).map .v6

/-- Characters of the address. -/
def write : IpAddress → List Char
  | .v4 ip => ip.write
  | .v6 ip => ip.write

/-- Text of the address. -/
def text (ip : IpAddress) : String :=
  String.ofList ip.write

/-- Address of a known family written by a text. -/
def read? (version : IpVersion) (cs : List Char) : Option IpAddress :=
  match version with
  | .v4 => (Ipv4.read? cs).map .v4
  | .v6 => (Ipv6.read? cs).map .v6

theorem length_octets (ip : IpAddress) : ip.octets.length = ip.version.width := by
  cases ip with
  | v4 ip => exact ip.length_octets
  | v6 ip => exact ip.length_octets

end IpAddress

end PluginSupport
