import PluginSupport.Text.Numeral
import PluginSupport.Text.Utf8

/-!
# Base64

Decoding of the body of a PEM section. White space is skipped. Symbols are taken in blocks of eight;
padding may stand at the end of the last four symbols only, and may be left out there. Bits of the
last symbol beyond the last whole byte are not looked at.

`encode` writes the canonical form, padding included.
-/
namespace PluginSupport.Base64

open Utf8 (Bytes)

/-! ## Alphabet -/

/-- A significant symbol: six bits, or padding. -/
inductive Symbol where
  | sextet (bits : Nat)
  | pad
deriving DecidableEq, Repr

/-- Bits of a symbol; padding has none set. -/
def Symbol.bits : Symbol → Nat
  | .sextet bits => bits
  | .pad => 0

/-- Whether a symbol is padding. -/
def Symbol.isPad : Symbol → Bool
  | .sextet _ => false
  | .pad => true

/-- What a byte of the body is. -/
inductive Role where
  | blank
  | symbol (s : Symbol)
  | invalid
deriving DecidableEq, Repr

/-- Role of a byte. -/
def role (b : UInt8) : Role :=
  let n := b.toNat
  if n = 32 ∨ (9 ≤ n ∧ n ≤ 13) then .blank
  else if 65 ≤ n ∧ n ≤ 90 then .symbol (.sextet (n - 65))
  else if 97 ≤ n ∧ n ≤ 122 then .symbol (.sextet (n - 71))
  else if 48 ≤ n ∧ n ≤ 57 then .symbol (.sextet (n + 4))
  else if n = 43 then .symbol (.sextet 62)
  else if n = 47 then .symbol (.sextet 63)
  else if n = 61 then .symbol .pad
  else .invalid

/-- Byte of a sextet. -/
def byteOf (bits : Nat) : UInt8 :=
  UInt8.ofNat (
    if bits < 26 then bits + 65
    else if bits < 52 then bits + 71
    else if bits < 62 then bits - 4
    else if bits = 62 then 43
    else 47)

/-! ## Decoding -/

/-- Why a body is refused. -/
inductive DecodeError where
  | invalidCharacter (b : UInt8)
  /-- Symbols follow padding. -/
  | prematurePadding
  /-- The last symbols are no whole number of bytes, or wrongly padded. -/
  | invalidTrailingPadding
deriving DecidableEq, Repr

/-- Name of the error in messages. -/
def DecodeError.name : DecodeError → String
  | .invalidCharacter b => "InvalidCharacter(" ++ Numeral.decimal b.toNat ++ ")"
  | .prematurePadding => "PrematurePadding"
  | .invalidTrailingPadding => "InvalidTrailingPadding"

/-- First three bytes that up to four symbols make; symbols that are missing count as zero. -/
def quad (symbols : List Symbol) : Bytes :=
  let bits (i : Nat) : Nat := (symbols[i]?.map Symbol.bits).getD 0
  let word := ((bits 0 * 64 + bits 1) * 64 + bits 2) * 64 + bits 3
  [UInt8.ofNat (word / 65536), UInt8.ofNat (word / 256 % 256), UInt8.ofNat (word % 256)]

/-- Bytes of the last symbols, at most four. A quad may end in one or two pads; fewer symbols hold
none. -/
def lastQuad (symbols : List Symbol) : Except DecodeError Bytes :=
  match symbols.map Symbol.isPad with
  | [] => .ok []
  | [false, false, false, false] => .ok (quad symbols)
  | [false, false, false, true] | [false, false, false] => .ok ((quad symbols).take 2)
  | [false, false, true, true] | [false, false] => .ok ((quad symbols).take 1)
  | _ => .error .invalidTrailingPadding

/-- Bytes of the last block, at most eight symbols; only its last quad may hold padding. -/
def lastBlock (block : List Symbol) : Except DecodeError Bytes :=
  if 4 < block.length then
    if (block.take 4).any Symbol.isPad then .error .prematurePadding
    else (lastQuad (block.drop 4)).map (quad block ++ ·)
  else lastQuad block

/-- Bytes of a body, after a block of up to eight symbols that are still held back. -/
def decodeAfter (block : List Symbol) : Bytes → Except DecodeError Bytes
  | [] => lastBlock block
  | b :: rest =>
    match role b with
    | .blank => decodeAfter block rest
    | .invalid => .error (.invalidCharacter b)
    | .symbol s =>
      if block.length = 8 then
        if block.any Symbol.isPad then .error .prematurePadding
        else (decodeAfter [s] rest).map ((quad block ++ quad (block.drop 4)) ++ ·)
      else decodeAfter (block ++ [s]) rest

/-- Bytes that a body stands for. -/
def decode (body : Bytes) : Except DecodeError Bytes :=
  decodeAfter [] body

/-! ## Encoding -/

/-- Four characters of three bytes; the last `pads` of them are padding. -/
def encodeQuad (a b c : UInt8) (pads : Nat) : Bytes :=
  let word := (a.toNat * 256 + b.toNat) * 256 + c.toNat
  let sextets := [word / 262144, word / 4096 % 64, word / 64 % 64, word % 64].map byteOf
  sextets.take (4 - pads) ++ List.replicate pads 61

/-- Canonical form of a byte row. -/
def encode : Bytes → Bytes
  | [] => []
  | [a] => encodeQuad a 0 0 2
  | [a, b] => encodeQuad a b 0 1
  | a :: b :: c :: rest => encodeQuad a b c 0 ++ encode rest

end PluginSupport.Base64
