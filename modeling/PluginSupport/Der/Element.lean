import PluginSupport.Text.Numeral
import PluginSupport.Text.Utf8

/-!
# DER elements

A DER element is a tag, a length and that many content bytes. Tags take a single byte. Lengths are
in their shortest form; how many length bytes are taken, and how long contents may be, are the
`Limits` of a reader. `wrap` writes an element, and `Reader` functions take elements off the front
of a row.
-/
namespace PluginSupport.Der

open Utf8 (Bytes)

/-- Number that bytes denote, most significant first. -/
def number (bytes : Bytes) : Nat :=
  bytes.foldl (fun acc b => acc * 256 + b.toNat) 0

/-- Bytes of a number, most significant first, over a fixed width. -/
def fixedWidth (width n : Nat) : Bytes :=
  (Numeral.lowDigits 256 width n).map UInt8.ofNat

/-- Fewest bytes that hold a number; none for zero. -/
def byteCount (n : Nat) : Nat :=
  if n = 0 then 0 else n.log2 / 8 + 1

/-! ## Tags -/

/-- Boolean. -/
def booleanTag : UInt8 := 0x01
/-- Integer. -/
def integerTag : UInt8 := 0x02
/-- Bit string. -/
def bitStringTag : UInt8 := 0x03
/-- Octet string. -/
def octetStringTag : UInt8 := 0x04
/-- Object identifier. -/
def oidTag : UInt8 := 0x06
/-- Sequence. -/
def sequenceTag : UInt8 := 0x30
/-- Element marked with a number of its own that holds other elements. -/
def markTag (n : UInt8) : UInt8 := 0xA0 + n
/-- Element marked with a number of its own that holds plain bytes. -/
def plainMarkTag (n : UInt8) : UInt8 := 0x80 + n

/-! ## Reading -/

/-- What a reader takes: at most `lengthBytes` bytes after a long-form length mark, and contents
shorter than `bound`. -/
structure Limits where
  lengthBytes : Nat
  bound : Nat
deriving DecidableEq, Repr

/-- An element and the bytes after it. -/
structure Element where
  tag : UInt8
  contents : Bytes
  rest : Bytes
deriving DecidableEq, Repr

/-- Length at the front of a row, and the bytes after it. A long form must not fit a shorter one. -/
def readLength? (limits : Limits) : Bytes → Option (Nat × Bytes)
  | [] => none
  | b :: rest =>
    if b < 0x80 then some (b.toNat, rest)
    else
      let count := b.toNat - 0x80
      let length := number (rest.take count)
      if count = 0 ∨ limits.lengthBytes < count ∨ rest.length < count then none
      else if length < (if count = 1 then 128 else Nat.pow 256 (count - 1)) then none
      else some (length, rest.drop count)

/-- Element at the front of a row. -/
def readElement? (limits : Limits) : Bytes → Option Element
  | [] => none
  | tag :: rest =>
    if tag &&& 0x1F = 0x1F then none
    else
      match readLength? limits rest with
      | none => none
      | some (length, rest) =>
        if limits.bound ≤ length ∨ rest.length < length then none
        else some ⟨tag, rest.take length, rest.drop length⟩

/-- Contents of the element at the front, which must have the given tag, and the bytes after it. -/
def read? (limits : Limits) (tag : UInt8) (row : Bytes) : Option (Bytes × Bytes) :=
  match readElement? limits row with
  | some element => if element.tag = tag then some (element.contents, element.rest) else none
  | none => none

/-- Contents of a row that is one element with the given tag. -/
def readOnly? (limits : Limits) (tag : UInt8) (row : Bytes) : Option Bytes :=
  match read? limits tag row with
  | some (contents, []) => some contents
  | _ => none

/-- Whether the element at the front has the given tag. -/
def startsWith (tag : UInt8) (row : Bytes) : Bool :=
  row.head? = some tag

/-- Content bytes of a non-negative integer, without a leading zero; zero itself is one byte. -/
def magnitude? : Bytes → Option Bytes
  | [] => none
  | [b] => if b < 0x80 then some [b] else none
  | b :: c :: rest =>
    if b = 0 then if 0x80 ≤ c then some (c :: rest) else none
    else if b < 0x80 then some (b :: c :: rest)
    else none

/-- Non-negative integer at the front, in its shortest form, as bytes. -/
def readMagnitude? (limits : Limits) (row : Bytes) : Option (Bytes × Bytes) :=
  match read? limits integerTag row with
  | some (contents, rest) => (magnitude? contents).map (·, rest)
  | none => none

/-- Non-negative integer at the front. -/
def readNatural? (limits : Limits) (row : Bytes) : Option (Nat × Bytes) :=
  (readMagnitude? limits row).map fun (bytes, rest) => (number bytes, rest)

/-- Non-negative integer of one byte at the front. -/
def readSmall? (limits : Limits) (row : Bytes) : Option (UInt8 × Bytes) :=
  match readMagnitude? limits row with
  | some ([b], rest) => some (b, rest)
  | _ => none

/-- Bytes of a bit string whose last byte is fully used. -/
def wholeBytes? : Bytes → Option Bytes
  | 0 :: bytes => some bytes
  | _ => none

/-- Bit string at the front, its last byte fully used. -/
def readBitString? (limits : Limits) (tag : UInt8) (row : Bytes) : Option (Bytes × Bytes) :=
  match read? limits tag row with
  | some (contents, rest) => (wholeBytes? contents).map (·, rest)
  | none => none

/-! ## Writing -/

/-- Length in its shortest form. -/
def writeLength (length : Nat) : Bytes :=
  if length < 128 then [UInt8.ofNat length]
  else
    let count := byteCount length
    UInt8.ofNat (0x80 + count) :: fixedWidth count length

/-- Element with the given tag and contents. -/
def wrap (tag : UInt8) (contents : Bytes) : Bytes :=
  tag :: writeLength contents.length ++ contents

/-- Integer element of a natural number. -/
def wrapNatural (n : Nat) : Bytes :=
  let bytes := fixedWidth (n.log2 / 8 + 1) n
  wrap integerTag (if bytes.head?.any (0x80 ≤ ·) then 0 :: bytes else bytes)

/-- Bit string element of whole bytes. -/
def wrapBitString (bytes : Bytes) : Bytes :=
  wrap bitStringTag (0 :: bytes)

end PluginSupport.Der
