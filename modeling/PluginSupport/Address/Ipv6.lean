import PluginSupport.Address.Ipv4

/-!
# IPv6 addresses

Eight groups of sixteen bits. Writing follows RFC 5952: lowercase groups without leading zeros, the
longest run of at least two zero groups shortened to `::` (the leftmost of equally long runs), and
a dotted tail for IPv4-mapped addresses only. Reading follows RFC 4291: one to four digits per
group in either case, `::` at most once and standing for at least one group, an IPv4 address in
place of the last two groups, and no zone.
-/
namespace PluginSupport

/-- An IPv6 address, first group first. -/
structure Ipv6 where
  g1 : UInt16
  g2 : UInt16
  g3 : UInt16
  g4 : UInt16
  g5 : UInt16
  g6 : UInt16
  g7 : UInt16
  g8 : UInt16
deriving DecidableEq, Repr

namespace Ipv6

/-! ## Groups and octets -/

/-- Groups in network order. -/
def groups (ip : Ipv6) : List UInt16 :=
  [ip.g1, ip.g2, ip.g3, ip.g4, ip.g5, ip.g6, ip.g7, ip.g8]

/-- Address with the given groups; eight are needed. -/
def ofGroups? : List UInt16 → Option Ipv6
  | [g1, g2, g3, g4, g5, g6, g7, g8] => some ⟨g1, g2, g3, g4, g5, g6, g7, g8⟩
  | _ => none

/-- Address of a word, its highest bits first. -/
def ofBits (bits : BitVec 128) : Ipv6 :=
  ⟨.ofBitVec (bits.extractLsb' 112 16), .ofBitVec (bits.extractLsb' 96 16),
    .ofBitVec (bits.extractLsb' 80 16), .ofBitVec (bits.extractLsb' 64 16),
    .ofBitVec (bits.extractLsb' 48 16), .ofBitVec (bits.extractLsb' 32 16),
    .ofBitVec (bits.extractLsb' 16 16), .ofBitVec (bits.extractLsb' 0 16)⟩

/-- Two octets of a group, high one first. -/
def octetsOfGroup (g : UInt16) : List UInt8 :=
  [UInt8.ofNat (g.toNat / 256), UInt8.ofNat (g.toNat % 256)]

/-- Group made of a high and a low octet. -/
def groupOfOctets (high low : UInt8) : UInt16 :=
  UInt16.ofNat (high.toNat * 256 + low.toNat)

/-- Octets in network order. -/
def octets (ip : Ipv6) : List UInt8 :=
  ip.groups.flatMap octetsOfGroup

/-- Groups made of consecutive pairs of octets; a lone last octet has no group. -/
def groupsOfOctets : List UInt8 → List UInt16
  | high :: low :: rest => groupOfOctets high low :: groupsOfOctets rest
  | _ => []

/-- Address with the given octets; sixteen are needed. -/
def ofOctets? (os : List UInt8) : Option Ipv6 :=
  if os.length = 16 then ofGroups? (groupsOfOctets os) else none

/-- The IPv4 address that an IPv4-mapped address `::ffff:a.b.c.d` carries. -/
def mapped? (ip : Ipv6) : Option Ipv4 :=
  if ip.groups.take 6 = [0, 0, 0, 0, 0, 0xffff] then
    Ipv4.ofOctets? ((ip.groups.drop 6).flatMap octetsOfGroup)
  else none

/-! ## Writing -/

/-- A run of zero groups: where it starts and how many groups it has. -/
structure ZeroRun where
  start : Nat
  length : Nat
deriving DecidableEq, Repr

/-- Number of zero groups at the front. -/
def leadingZeros : List UInt16 → Nat
  | [] => 0
  | g :: gs => if g = 0 then leadingZeros gs + 1 else 0

/-- Longest run of zero groups, the leftmost of equally long ones; `index` is the first position. -/
def longestZeroRun (index : Nat) : List UInt16 → ZeroRun
  | [] => ⟨index, 0⟩
  | g :: gs =>
    let here := leadingZeros (g :: gs)
    let later := longestZeroRun (index + 1) gs
    if later.length ≤ here then ⟨index, here⟩ else later

/-- Groups in hexadecimal, colons between them. -/
def writeGroups (gs : List UInt16) : List Char :=
  Split.join [':'] (gs.map fun g => Numeral.write 16 g.toNat)

/-- Characters of the shortened form. -/
def write (ip : Ipv6) : List Char :=
  match ip.mapped? with
  | some v4 => "::ffff:".toList ++ v4.write
  | none =>
    let run := longestZeroRun 0 ip.groups
    if 1 < run.length then
      writeGroups (ip.groups.take run.start) ++ [':', ':'] ++
        writeGroups (ip.groups.drop (run.start + run.length))
    else writeGroups ip.groups

/-! ## Reading -/

/-- Group written with one to four hexadecimal digits. -/
def readGroup? (cs : List Char) : Option UInt16 :=
  if 4 < cs.length then none else (Numeral.read? 16 cs).map UInt16.ofNat

/-- Groups of the pieces between colons. With `dotted`, the last piece may be an IPv4 address, which
fills two groups. -/
def readPieces? (dotted : Bool) : List (List Char) → Option (List UInt16)
  | [] => some []
  | [piece] =>
    match readGroup? piece with
    | some g => some [g]
    | none => if dotted then (Ipv4.read? piece).map fun v4 => groupsOfOctets v4.octets else none
  | piece :: pieces => do
    let g ← readGroup? piece
    let gs ← readPieces? dotted pieces
    some (g :: gs)

/-- Groups of a text that may be empty on one side of `::`. -/
def readSide? (dotted : Bool) (cs : List Char) : Option (List UInt16) :=
  if cs.isEmpty then some [] else readPieces? dotted (Split.onChar ':' cs)

/-- Address written in full, or with `::` for at least one zero group. -/
def read? (cs : List Char) : Option Ipv6 :=
  match Split.onFirstPair ':' cs with
  | none => (readSide? true cs).bind ofGroups?
  | some (front, back) => do
    let head ← readSide? false front
    let tail ← readSide? true back
    if head.length + tail.length < 8 then
      ofGroups? (head ++ List.replicate (8 - (head.length + tail.length)) 0 ++ tail)
    else none

theorem length_groups (ip : Ipv6) : ip.groups.length = 8 := rfl

theorem ofGroups?_groups (ip : Ipv6) : ofGroups? ip.groups = some ip := rfl

theorem length_octets (ip : Ipv6) : ip.octets.length = 16 := rfl

end Ipv6

end PluginSupport
