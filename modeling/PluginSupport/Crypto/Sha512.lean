import PluginSupport.Der.Element

/-!
# SHA-512

The hash function of FIPS 180-4 on whole bytes. The initial hash value and the round constants are
the first 64 bits of the fractions of square and cube roots of primes; they are computed as such.
-/
namespace PluginSupport.Sha512

open Utf8 (Bytes)

/-- Word turned right by `k` bits, `k` between 1 and 63. -/
def rotate (k w : UInt64) : UInt64 := (w >>> k) ||| (w <<< (64 - k))

/-! ## Constants -/

/-- Largest number of the form `root` plus `bit` bits whose `k`-th power is at most `n`, found from
the highest bit down. -/
def rootFrom (k n : Nat) : (bit : Nat) → (root : Nat) → Nat
  | 0, root => root
  | bit + 1, root =>
    let candidate := root + Nat.pow 2 bit
    rootFrom k n bit (if Nat.pow candidate k ≤ n then candidate else root)

/-- First 64 bits of the fraction of the `k`-th root of `n`. -/
def rootFraction (k n : Nat) : UInt64 :=
  UInt64.ofNat (rootFrom k (n * Nat.pow 2 (64 * k)) 70 0)

/-- The first eighty primes. -/
def primes : List Nat := [
  2, 3, 5, 7, 11, 13, 17, 19, 23, 29, 31, 37, 41, 43, 47, 53,
  59, 61, 67, 71, 73, 79, 83, 89, 97, 101, 103, 107, 109, 113, 127, 131,
  137, 139, 149, 151, 157, 163, 167, 173, 179, 181, 191, 193, 197, 199, 211, 223,
  227, 229, 233, 239, 241, 251, 257, 263, 269, 271, 277, 281, 283, 293, 307, 311,
  313, 317, 331, 337, 347, 349, 353, 359, 367, 373, 379, 383, 389, 397, 401, 409]

/-- Initial hash value. -/
def initial : List UInt64 := (primes.take 8).map (rootFraction 2)

/-- Round constants. -/
def constants : List UInt64 := primes.map (rootFraction 3)

/-! ## Compression -/

/-- The eight working words. -/
structure Working where
  a : UInt64
  b : UInt64
  c : UInt64
  d : UInt64
  e : UInt64
  f : UInt64
  g : UInt64
  h : UInt64
deriving DecidableEq, Repr

/-- One round with its constant and message word. -/
def round (s : Working) (constant word : UInt64) : Working :=
  let big1 := rotate 14 s.e ^^^ rotate 18 s.e ^^^ rotate 41 s.e
  let choose := (s.e &&& s.f) ^^^ (~~~s.e &&& s.g)
  let t1 := s.h + big1 + choose + constant + word
  let big0 := rotate 28 s.a ^^^ rotate 34 s.a ^^^ rotate 39 s.a
  let majority := (s.a &&& s.b) ^^^ (s.a &&& s.c) ^^^ (s.b &&& s.c)
  let t2 := big0 + majority
  ⟨t1 + t2, s.a, s.b, s.c, s.d + t1, s.e, s.f, s.g⟩

/-- The next message word after the last sixteen, given latest first. -/
def nextWord (recent : List UInt64) : UInt64 :=
  let word (back : Nat) : UInt64 := recent[back - 1]?.getD 0
  let w15 := word 15
  let w2 := word 2
  let small0 := rotate 1 w15 ^^^ rotate 8 w15 ^^^ (w15 >>> 7)
  let small1 := rotate 19 w2 ^^^ rotate 61 w2 ^^^ (w2 >>> 6)
  word 16 + small0 + word 7 + small1

/-- Message words, latest first, grown by `count` more. -/
def expand : (count : Nat) → List UInt64 → List UInt64
  | 0, words => words
  | count + 1, words => expand count (nextWord words :: words)

/-- Hash value after one more block of sixteen words. -/
def compress (hash block : List UInt64) : List UInt64 :=
  match hash with
  | [a, b, c, d, e, f, g, h] =>
    let words := (expand 64 block.reverse).reverse
    let s := (constants.zip words).foldl (fun s (k, w) => round s k w) ⟨a, b, c, d, e, f, g, h⟩
    [a + s.a, b + s.b, c + s.c, d + s.d, e + s.e, f + s.f, g + s.g, h + s.h]
  | _ => hash

/-! ## Whole messages -/

/-- A row cut into pieces of `size`; `fuel` bounds their number. -/
def pieces (size : Nat) : (fuel : Nat) → Bytes → List Bytes
  | 0, _ => []
  | _, [] => []
  | fuel + 1, row => row.take size :: pieces size fuel (row.drop size)

/-- Message with its padding: a set bit, zeros, and the length in bits over sixteen bytes. -/
def padded (message : Bytes) : Bytes :=
  let zeros := (239 - message.length % 128) % 128
  message ++ 0x80 :: List.replicate zeros 0 ++ Der.fixedWidth 16 (message.length * 8)

/-- Hash of a message: 64 bytes. -/
def hash (message : Bytes) : Bytes :=
  let row := padded message
  let blocks := (pieces 128 row.length row).map fun block =>
    (pieces 8 16 block).map fun word => UInt64.ofNat (Der.number word)
  (blocks.foldl compress initial).flatMap fun word => Der.fixedWidth 8 word.toNat

end PluginSupport.Sha512
