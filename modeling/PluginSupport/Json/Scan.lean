import PluginSupport.Json.Fault

/-!
# Lexemes of JSON

White space, the three literal words, strings and numbers. Each scanner takes its lexeme off the
front of the text; what it reports when the text ends early, or goes on wrongly, is part of its
contract.

Strings come in two strengths. `string` decodes, so surrogate escapes must come in pairs.
`skipString` only looks for the closing quote and checks that escapes are well-formed one by one.
Numbers come in two strengths as well: `number` refuses values beyond the range of double
precision, `skipNumber` checks the form alone and does not tell an early end from a wrong
character.
-/
namespace PluginSupport.Json

/-! ## White space and words -/

/-- The four characters of JSON white space. -/
def isBlank (c : Char) : Bool :=
  c = ' ' ∨ c = '\n' ∨ c = '\t' ∨ c = '\r'

/-- Text without its leading white space. -/
def skipBlank (cs : List Char) : List Char :=
  cs.dropWhile isBlank

/-- Rest of a word after its first character. -/
def word : List Char → List Char → Except Fault (List Char)
  | [], rest => .ok rest
  | _ :: _, [] => .error (.onto .endInValue [])
  | expected :: more, c :: rest =>
    if c = expected then word more rest else .error (.onto .expectedIdent (c :: rest))

/-! ## Strings -/

/-- Character of a two-character escape. -/
def simpleEscape? : Char → Option Char
  | '"' => some '"'
  | '\\' => some '\\'
  | '/' => some '/'
  | 'b' => some '\x08'
  | 'f' => some '\x0c'
  | 'n' => some '\n'
  | 'r' => some '\r'
  | 't' => some '\t'
  | _ => none

/-- Number written by four hexadecimal digits. -/
def hex4? (a b c d : Char) : Option Nat :=
  ([a, b, c, d].mapM (Numeral.digitValue? 16)).map (Numeral.value 16)

/-- Fault of a `\u` escape whose four bytes, at the front of `rest`, are missing or no digits. -/
def hexFault (rest : List Char) : Fault :=
  if byteLength rest < 4 then .before .endInString []
  else ⟨.invalidEscape, byteLength rest - 4⟩

/-- Whether a code unit is the first half of a surrogate pair. -/
def isLeading (unit : Nat) : Bool := 0xD800 ≤ unit ∧ unit ≤ 0xDBFF

/-- Whether a code unit is the second half of a surrogate pair. -/
def isTrailing (unit : Nat) : Bool := 0xDC00 ≤ unit ∧ unit ≤ 0xDFFF

/-- Character that a surrogate pair stands for. -/
def pairChar (lead trail : Nat) : Char :=
  Char.ofNat (0x10000 + (lead - 0xD800) * 0x400 + (trail - 0xDC00))

/-- Puts a character in front of what a reader of strings returned. -/
def consChar (c : Char) :
    Except Fault (List Char × List Char) → Except Fault (List Char × List Char)
  | .ok (cs, rest) => .ok (c :: cs, rest)
  | .error fault => .error fault

/-- Characters of a string up to its closing quote, escapes decoded. -/
def string : Reader (List Char)
  | [] => .error (.before .endInString [])
  | c :: rest =>
    if c = '"' then .ok ([], rest)
    else if c = '\\' then
      match rest with
      | [] => .error (.before .endInString [])
      | 'u' :: hex =>
        match hex with
        | h1 :: h2 :: h3 :: h4 :: rest =>
          match hex4? h1 h2 h3 h4 with
          | none => .error (hexFault (h1 :: h2 :: h3 :: h4 :: rest))
          | some unit =>
            if isTrailing unit then .error (.before .loneSurrogate rest)
            else if isLeading unit then
              match rest with
              | [] => .error (.before .endInString [])
              | '\\' :: [] => .error (.before .endInString [])
              | '\\' :: 'u' :: hex =>
                match hex with
                | k1 :: k2 :: k3 :: k4 :: rest =>
                  match hex4? k1 k2 k3 k4 with
                  | none => .error (hexFault (k1 :: k2 :: k3 :: k4 :: rest))
                  | some trail =>
                    if isTrailing trail then consChar (pairChar unit trail) (string rest)
                    else .error (.before .loneSurrogate rest)
                | _ => .error (hexFault hex)
              | '\\' :: other => .error (.onto .endOfHexEscape other)
              | other => .error (.onto .endOfHexEscape other)
            else consChar (Char.ofNat unit) (string rest)
        | _ => .error (hexFault hex)
      | e :: rest =>
        match simpleEscape? e with
        | some d => consChar d (string rest)
        | none => .error (.onto .invalidEscape (e :: rest))
    else if c.toNat < 0x20 then .error (.onto .controlCharacter (c :: rest))
    else consChar c (string rest)

/-- Rest of the text after the closing quote of a string that is not kept. -/
def skipString : List Char → Except Fault (List Char)
  | [] => .error (.before .endInString [])
  | c :: rest =>
    if c = '"' then .ok rest
    else if c = '\\' then
      match rest with
      | [] => .error (.before .endInString [])
      | 'u' :: hex =>
        match hex with
        | h1 :: h2 :: h3 :: h4 :: rest =>
          match hex4? h1 h2 h3 h4 with
          | none => .error (hexFault (h1 :: h2 :: h3 :: h4 :: rest))
          | some _ => skipString rest
        | _ => .error (hexFault hex)
      | e :: rest =>
        match simpleEscape? e with
        | some _ => skipString rest
        | none => .error (.onto .invalidEscape (e :: rest))
    else if c.toNat < 0x20 then .error (.onto .controlCharacter (c :: rest))
    else skipString rest

/-! ## Numbers -/

/-- Digits at the front of a text, as numbers, and the rest. -/
def digitRun : List Char → List Nat × List Char
  | [] => ([], [])
  | c :: cs =>
    match Numeral.digitValue? 10 c with
    | some d => let (ds, rest) := digitRun cs; (d :: ds, rest)
    | none => ([], c :: cs)

/-- Largest significand that is kept exactly. -/
def maxSignificand : Nat := UInt64.size - 1

/-- Largest exponent that is kept exactly. -/
def maxExponent : Nat := 2147483647

/-- Significant digits of a number: those that fit, and how many whole digits did not. -/
structure Significand where
  value : Nat
  dropped : Nat
deriving DecidableEq, Repr

/-- Takes in a whole digit; after the first one that does not fit, every digit is only counted. -/
def Significand.wholeDigit (s : Significand) (d : Nat) : Significand :=
  if 0 < s.dropped ∨ maxSignificand < s.value * 10 + d then ⟨s.value, s.dropped + 1⟩
  else ⟨s.value * 10 + d, 0⟩

/-- Takes in fraction digits until one does not fit; returns the value and how many were taken. -/
def fractionDigits (value taken : Nat) : List Nat → Nat × Nat
  | [] => (value, taken)
  | d :: ds =>
    if maxSignificand < value * 10 + d then (value, taken)
    else fractionDigits (value * 10 + d) (taken + 1) ds

/-- Nearest number with at most 53 significant bits; ties go to the even one. -/
def roundToDouble (n : Nat) : Nat :=
  let excess := n.log2 + 1 - 53
  let unit := Nat.pow 2 excess
  let quotient := n / unit
  let remainder := n % unit
  let up := unit < 2 * remainder ∨ (unit = 2 * remainder ∧ quotient % 2 = 1)
  (if up then quotient + 1 else quotient) * unit

/-- Whether `value · 10 ^ exponent`, computed in double precision, is infinite. -/
def overflowsDouble (value : Nat) (exponent : Int) : Bool :=
  if exponent ≤ 0 ∨ value = 0 then false
  else if 308 < exponent then true
  else
    Nat.pow 2 1024 - Nat.pow 2 970 ≤
      roundToDouble value * roundToDouble (Nat.pow 10 exponent.toNat)

/-- What a scanned number is good for: naturals are told from all other numbers. -/
inductive Number where
  | natural (n : Nat)
  | other
deriving DecidableEq, Repr

/-- A number other than a natural, provided that it is in range. -/
def inRange (value : Nat) (exponent : Int) (rest : List Char) : Except Fault (Number × List Char) :=
  if overflowsDouble value exponent then .error (.before .numberOutOfRange rest)
  else .ok (.other, rest)

/-- Exponent digits, one at a time. When they no longer fit, a positive exponent is out of range at
once unless the significand is zero; a negative one makes zero. -/
def exponentDigits (negative : Bool) (value : Nat) (start : Int) (acc : Nat) (full : Bool) :
    List Char → Except Fault (Number × List Char)
  | [] => finish []
  | c :: rest =>
    match Numeral.digitValue? 10 c with
    | none => finish (c :: rest)
    | some d =>
      if full then exponentDigits negative value start acc true rest
      else if maxExponent < acc * 10 + d then
        if value ≠ 0 ∧ !negative then .error (.before .numberOutOfRange rest)
        else exponentDigits negative value start acc true rest
      else exponentDigits negative value start (acc * 10 + d) false rest
where
  /-- The number that ends in front of `rest`. -/
  finish (rest : List Char) : Except Fault (Number × List Char) :=
    if full then .ok (.other, rest)
    else inRange value (if negative then start - acc else start + acc) rest

/-- Exponent after its `e`: an optional sign and at least one digit. -/
def exponent (value : Nat) (start : Int) (cs : List Char) : Except Fault (Number × List Char) :=
  let (negative, cs) :=
    match cs with
    | '+' :: rest => (false, rest)
    | '-' :: rest => (true, rest)
    | _ => (false, cs)
  match cs with
  | [] => .error (.onto .endInValue [])
  | c :: _ =>
    match Numeral.digitValue? 10 c with
    | none => .error (.onto .invalidNumber cs)
    | some _ => exponentDigits negative value start 0 false cs

/-- Fraction after its point: at least one digit, then perhaps an exponent. -/
def fraction (s : Significand) (cs : List Char) : Except Fault (Number × List Char) :=
  match digitRun cs with
  | ([], []) => .error (.onto .endInValue [])
  | ([], rest) => .error (.onto .invalidNumber rest)
  | (ds, rest) =>
    let (value, taken) := fractionDigits s.value 0 ds
    let start : Int := s.dropped - taken
    match rest with
    | 'e' :: more => exponent value start more
    | 'E' :: more => exponent value start more
    | _ => inRange value start rest

/-- What follows the whole digits of a number. -/
def afterWhole (negative : Bool) (s : Significand) (cs : List Char) :
    Except Fault (Number × List Char) :=
  match cs with
  | '.' :: rest => fraction s rest
  | 'e' :: rest => exponent s.value s.dropped rest
  | 'E' :: rest => exponent s.value s.dropped rest
  | _ =>
    if 0 < s.dropped then inRange s.value s.dropped cs
    else .ok (if negative then .other else .natural s.value, cs)

/-- Number after its sign. -/
def unsignedNumber (negative : Bool) (cs : List Char) : Except Fault (Number × List Char) :=
  match digitRun cs with
  | ([], []) => .error (.onto .endInValue [])
  | ([], rest) => .error (.onto .invalidNumber rest)
  | (0 :: _ :: _, _) => .error (.onto .invalidNumber (cs.drop 1))
  | (ds, rest) => afterWhole negative (ds.foldl Significand.wholeDigit ⟨0, 0⟩) rest

/-- Number at the front of a text, range checked. -/
def number : Reader Number
  | '-' :: rest => unsignedNumber true rest
  | cs => unsignedNumber false cs

/-- Rest after the digits of an exponent that is not kept. -/
def skipExponent (cs : List Char) : Except Fault (List Char) :=
  let cs :=
    match cs with
    | '+' :: rest => rest
    | '-' :: rest => rest
    | _ => cs
  match digitRun cs with
  | ([], rest) => .error (.onto .invalidNumber rest)
  | (_, rest) => .ok rest

/-- Rest after an optional exponent that is not kept. -/
def skipExponent? : List Char → Except Fault (List Char)
  | 'e' :: rest => skipExponent rest
  | 'E' :: rest => skipExponent rest
  | cs => .ok cs

/-- Rest after a number that is not kept, its sign taken off. -/
def skipUnsigned (cs : List Char) : Except Fault (List Char) :=
  match digitRun cs with
  | ([], rest) => .error (.onto .invalidNumber rest)
  | (0 :: _ :: _, _) => .error (.onto .invalidNumber (cs.drop 1))
  | (_, '.' :: rest) =>
    match digitRun rest with
    | ([], rest) => .error (.onto .invalidNumber rest)
    | (_, rest) => skipExponent? rest
  | (_, rest) => skipExponent? rest

/-- Rest after a number that is not kept. -/
def skipNumber : List Char → Except Fault (List Char)
  | '-' :: rest => skipUnsigned rest
  | cs => skipUnsigned cs

end PluginSupport.Json
