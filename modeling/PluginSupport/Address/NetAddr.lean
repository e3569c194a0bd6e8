import PluginSupport.Address.Basic
import PluginSupport.Failure

/-!
# Interface addresses

An interface address is an IP address with the length of its network prefix. The host bits stay:
`192.168.1.5/24` is the address `192.168.1.5` with a /24 mask.

* `NetAddr.of?` checks a prefix length against the family.
* `NetAddr.parse` reads `ADDR` or `ADDR/LEN`; without a length the prefix is as long as the family
  allows. Faults are found in a fixed order: shape, family, prefix length, address.
* `NetAddr.text` writes `ADDR/LEN`.
* `NetAddr.order` compares address octets, then mask octets.
-/
namespace PluginSupport

/-- An IP address with a network prefix no longer than the address. -/
structure NetAddr where
  ip : IpAddress
  prefixLen : Nat
  prefixLen_le : prefixLen ≤ ip.version.maxPrefixLen := by decide
deriving DecidableEq, Repr

/-- Why an interface address is refused. -/
inductive AddressError where
  /-- Not one address, and not two non-empty halves around one slash. -/
  | shape (input : String)
  /-- Neither colon nor dot in the address half. -/
  | family (input : String)
  /-- The prefix half is no number, or longer than the family allows. -/
  | prefixText (input : String)
  /-- The address half does not follow its family's grammar. -/
  | address (input : String) (version : IpVersion)
  /-- A prefix length given as a number is longer than the family allows. -/
  | prefixLength (len : Nat) (ip : IpAddress)
deriving DecidableEq, Repr

namespace AddressError

/-- Words for a family in messages. -/
def familyName : IpVersion → String
  | .v4 => "IPv4"
  | .v6 => "IPv6"

/-- Wording of the error. -/
def detail : AddressError → String
  | .shape input => "incorrect ip address and prefix: " ++ input
  | .family input => "unknown IP version: " ++ input
  | .prefixText input => "invalid prefix length in " ++ input
  | .address input version =>
    "invalid CIDR address " ++ input ++ ": invalid " ++ familyName version ++ " address syntax"
  | .prefixLength len ip =>
    "prefix length " ++ Numeral.decimal len ++ " exceeds " ++
      Numeral.decimal ip.version.maxPrefixLen ++ " for " ++ ip.text

/-- The failure reported to the host. -/
def toFailure (error : AddressError) : Failure :=
  .malformedInput error.detail

end AddressError

namespace NetAddr

/-- Interface address with the given prefix length, when the family allows it. -/
def of? (ip : IpAddress) (len : Nat) : Except AddressError NetAddr :=
  if h : len ≤ ip.version.maxPrefixLen then .ok ⟨ip, len, h⟩ else .error (.prefixLength len ip)

/-- Family of the address. -/
def version (addr : NetAddr) : IpVersion :=
  addr.ip.version

/-! ## The network mask -/

/-- A word shifted to the left; none if the shift leaves nothing of it. -/
def checkedShift {width : Nat} (bits : BitVec width) (places : Nat) : Option (BitVec width) :=
  if places < width then some (bits <<< places) else none

/-- Word whose `len` highest bits are set. -/
def maskBits (width len : Nat) : BitVec width :=
  (checkedShift (BitVec.allOnes width) (width - len)).getD 0

/-- Mask as an address of the same family. -/
def mask (addr : NetAddr) : IpAddress :=
  match addr.ip with
  | .v4 _ => .v4 (.ofBits (maskBits 32 addr.prefixLen))
  | .v6 _ => .v6 (.ofBits (maskBits 128 addr.prefixLen))

/-- Address octets in network order. -/
def ipOctets (addr : NetAddr) : List UInt8 :=
  addr.ip.octets

/-- Mask octets in network order. -/
def maskOctets (addr : NetAddr) : List UInt8 :=
  addr.mask.octets

theorem mask_version (addr : NetAddr) : addr.mask.version = addr.version := by
  unfold mask version
  cases addr.ip <;> rfl

theorem length_maskOctets (addr : NetAddr) : addr.maskOctets.length = addr.version.width := by
  rw [maskOctets, IpAddress.length_octets, mask_version]

/-! ## Text -/

/-- Characters of `ADDR/LEN`. -/
def write (addr : NetAddr) : List Char :=
  addr.ip.write ++ '/' :: Numeral.write 10 addr.prefixLen

/-- Text of `ADDR/LEN`. -/
def text (addr : NetAddr) : String :=
  String.ofList addr.write

/-- Prefix length written in decimal digits, leading zeros allowed, no longer than the family. -/
def readPrefixLen? (version : IpVersion) (cs : List Char) : Option Nat :=
  (Numeral.read? 10 cs).filter (· ≤ version.maxPrefixLen)

/-- Address half and, after a slash, prefix half of a text. A text with slashes needs exactly one,
with something on either side. -/
def halves? (cs : List Char) : Option (List Char × Option (List Char)) :=
  match Split.onChar '/' cs with
  | [_] => some (cs, none)
  | [front, back] => if front.isEmpty ∨ back.isEmpty then none else some (front, some back)
  | _ => none

/-- Interface address of a text, with the family that the text shows. -/
def parse (input : String) : Except AddressError (NetAddr × IpVersion) := do
  let (addrText, prefixText?) ← (halves? input.toList).elim (.error (.shape input)) .ok
  let version ← (IpVersion.ofText? addrText).elim (.error (.family input)) .ok
  let len ←
    match prefixText? with
    | some cs => (readPrefixLen? version cs).elim (.error (.prefixText input)) .ok
    | none => .ok version.maxPrefixLen
  let ip ← (IpAddress.read? version addrText).elim (.error (.address input version)) .ok
  let addr ← of? ip len
  .ok (addr, version)

/-- Interface address of a text. -/
def ofText (input : String) : Except AddressError NetAddr :=
  (parse input).map Prod.fst

/-- Interface addresses of a list of texts, or the error of the first bad one. -/
def ofTexts : List String → Except AddressError (List NetAddr)
  | [] => .ok []
  | input :: inputs => do
    let addr ← ofText input
    let addrs ← ofTexts inputs
    .ok (addr :: addrs)

/-! ## Order -/

/-- Lexicographic comparison of octets; a proper front part comes first. -/
def compareOctets : List UInt8 → List UInt8 → Ordering
  | [], [] => .eq
  | [], _ :: _ => .lt
  | _ :: _, [] => .gt
  | a :: as, b :: bs => (compare a b).then (compareOctets as bs)

/-- Order of interface addresses: by address octets, then by mask octets. -/
def order (a b : NetAddr) : Ordering :=
  (compareOctets a.ipOctets b.ipOctets).then (compareOctets a.maskOctets b.maskOctets)

/-- Whether one address comes no later than another. -/
def le (a b : NetAddr) : Bool :=
  (order a b).isLE

/-- Addresses in ascending order; equal ones all stay. -/
def sort (addrs : List NetAddr) : List NetAddr :=
  addrs.mergeSort le

/-- Number of different addresses in a list. -/
def countDistinct (addrs : List NetAddr) : Nat :=
  addrs.eraseDups.length

end NetAddr

end PluginSupport
