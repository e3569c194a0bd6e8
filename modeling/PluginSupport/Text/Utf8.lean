/-!
# UTF-8

Decoding of byte rows, one byte at a time. A malformed part is the longest start of a well-formed
character that does not go on as one, or a single byte that starts none. `decode?` accepts
well-formed rows only, `lossy` shows one replacement character for every malformed part.
-/
namespace PluginSupport.Utf8

/-- Bytes of a stored or sent value. -/
abbrev Bytes := List UInt8

/-- What a first byte asks of the rest: bits of its own, continuation bytes, and the bounds of the
first continuation byte. -/
structure Lead where
  bits : Nat
  more : Nat
  low : Nat
  high : Nat
deriving DecidableEq, Repr

/-- Reading of a first byte. -/
def lead? (b : Nat) : Option Lead :=
  if b < 0x80 then some ⟨b, 0, 0, 0⟩
  else if 0xC2 ≤ b ∧ b ≤ 0xDF then some ⟨b - 0xC0, 1, 0x80, 0xBF⟩
  else if b = 0xE0 then some ⟨0, 2, 0xA0, 0xBF⟩
  else if b = 0xED then some ⟨b - 0xE0, 2, 0x80, 0x9F⟩
  else if 0xE1 ≤ b ∧ b ≤ 0xEF then some ⟨b - 0xE0, 2, 0x80, 0xBF⟩
  else if b = 0xF0 then some ⟨0, 3, 0x90, 0xBF⟩
  else if 0xF1 ≤ b ∧ b ≤ 0xF3 then some ⟨b - 0xF0, 3, 0x80, 0xBF⟩
  else if b = 0xF4 then some ⟨4, 3, 0x80, 0x8F⟩
  else none

/-- Where decoding stands: between characters, or inside one with bits so far, bytes still due and
the bounds of the next byte. -/
inductive State where
  | between
  | inside (bits more low high : Nat)
deriving DecidableEq, Repr

/-- One decoding result: a character, or a malformed part. -/
inductive Piece where
  | char (c : Char)
  | malformed
deriving DecidableEq, Repr

/-- State and piece after a byte between characters. -/
def start (b : Nat) : State × List Piece :=
  match lead? b with
  | none => (.between, [.malformed])
  | some lead =>
    if lead.more = 0 then (.between, [.char (Char.ofNat lead.bits)])
    else (.inside lead.bits lead.more lead.low lead.high, [])

/-- State and pieces after one more byte. A byte that cannot go on ends the malformed part before it
and is read anew. -/
def step : State → Nat → State × List Piece
  | .between, b => start b
  | .inside bits more low high, b =>
    if low ≤ b ∧ b ≤ high then
      let bits := bits * 64 + (b - 0x80)
      if more = 1 then (.between, [.char (Char.ofNat bits)])
      else (.inside bits (more - 1) 0x80 0xBF, [])
    else
      let (state, pieces) := start b
      (state, .malformed :: pieces)

/-- Pieces of a byte row, read from a state. -/
def piecesFrom : State → Bytes → List Piece
  | .between, [] => []
  | .inside _ _ _ _, [] => [.malformed]
  | state, b :: rest =>
    let (next, pieces) := step state b.toNat
    pieces ++ piecesFrom next rest

/-- Characters and malformed parts of a byte row, in order. -/
def pieces (bytes : Bytes) : List Piece :=
  piecesFrom .between bytes

/-- Character of a piece; a malformed part shows as the replacement character. -/
def Piece.shown : Piece → Char
  | .char c => c
  | .malformed => '\ufffd'

/-- Character of a piece that is one. -/
def Piece.char? : Piece → Option Char
  | .char c => some c
  | .malformed => none

/-- Text of a byte row, with a replacement character for every malformed part. -/
def lossy (bytes : Bytes) : List Char :=
  (pieces bytes).map Piece.shown

/-- Text of a well-formed byte row. -/
def decode? (bytes : Bytes) : Option (List Char) :=
  (pieces bytes).mapM Piece.char?

/-- UTF-8 form of a text. -/
def encode (text : String) : Bytes :=
  text.toList.flatMap String.utf8EncodeChar

end PluginSupport.Utf8
