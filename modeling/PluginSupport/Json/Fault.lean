import PluginSupport.Text.Numeral

/-!
# What can be wrong with a JSON text

A reader stops at the first problem, going left to right. A `Fault` is the cause of the stop
together with the place, kept as the number of bytes still unread. Causes fall into three
categories: the text ended early, the text is no JSON, or the text is JSON of the wrong shape.
-/
namespace PluginSupport.Json

/-! ## Causes -/

/-- Reason for refusing a JSON text. -/
inductive Cause where
  /-- The text ends inside a list. -/
  | endInList
  /-- The text ends inside an object. -/
  | endInObject
  /-- The text ends inside a string. -/
  | endInString
  /-- The text ends where a value is due, or inside one. -/
  | endInValue
  | expectedColon
  | expectedListCommaOrEnd
  | expectedObjectCommaOrEnd
  /-- A word that starts like `null`, `true` or `false` goes on differently. -/
  | expectedIdent
  | expectedValue
  | invalidEscape
  | invalidNumber
  | numberOutOfRange
  /-- A raw character below U+0020 in a string. -/
  | controlCharacter
  | keyMustBeString
  /-- A surrogate escape without its partner. -/
  | loneSurrogate
  /-- A leading surrogate escape that no other escape follows. -/
  | endOfHexEscape
  | trailingComma
  | trailingCharacters
  | recursionLimit
  /-- A value of another type than the field has. -/
  | wrongType
  | missingField (name : List Char)
  | duplicateField (name : List Char)
  /-- A list form with too few values. -/
  | tooShort
  | unknownVariant
deriving DecidableEq, Repr

/-- The three ways in which a text can fail to be the JSON that is asked for. -/
inductive Category where
  /-- The text ended early. -/
  | endOfInput
  /-- The text is not JSON. -/
  | malformed
  /-- The text is JSON of the wrong shape. -/
  | mismatch
deriving DecidableEq, Repr

namespace Cause

/-- Category of a cause. -/
def category : Cause → Category
  | endInList | endInObject | endInString | endInValue => .endOfInput
  | wrongType | missingField _ | duplicateField _ | tooShort | unknownVariant => .mismatch
  | _ => .malformed

/-- Wording of a cause. -/
def message : Cause → String
  | endInList => "EOF while parsing a list"
  | endInObject => "EOF while parsing an object"
  | endInString => "EOF while parsing a string"
  | endInValue => "EOF while parsing a value"
  | expectedColon => "expected `:`"
  | expectedListCommaOrEnd => "expected `,` or `]`"
  | expectedObjectCommaOrEnd => "expected `,` or `\x7d`"
  | expectedIdent => "expected ident"
  | expectedValue => "expected value"
  | invalidEscape => "invalid escape"
  | invalidNumber => "invalid number"
  | numberOutOfRange => "number out of range"
  | controlCharacter => "control character (\\u0000-\\u001F) found while parsing a string"
  | keyMustBeString => "key must be a string"
  | loneSurrogate => "lone leading surrogate in hex escape"
  | endOfHexEscape => "unexpected end of hex escape"
  | trailingComma => "trailing comma"
  | trailingCharacters => "trailing characters"
  | recursionLimit => "recursion limit exceeded"
  | wrongType => "invalid type"
  | missingField name => "missing field `" ++ String.ofList name ++ "`"
  | duplicateField name => "duplicate field `" ++ String.ofList name ++ "`"
  | tooShort => "invalid length"
  | unknownVariant => "unknown variant"

end Cause

/-! ## Places -/

/-- Bytes of the UTF-8 form of a text. -/
def byteLength (cs : List Char) : Nat :=
  cs.foldr (fun c count => c.utf8Size + count) 0

/-- A cause, and how many bytes of the text lie beyond the place where reading stopped. -/
structure Fault where
  cause : Cause
  beyond : Nat
deriving DecidableEq, Repr

namespace Fault

/-- Fault in front of the unread `rest`. -/
def before (cause : Cause) (rest : List Char) : Fault :=
  ⟨cause, byteLength rest⟩

/-- Fault at the first byte of the unread `rest`, or at the end when nothing is left. -/
def onto (cause : Cause) (rest : List Char) : Fault :=
  ⟨cause, byteLength rest - 1⟩

/-- Category of the cause. -/
def category (fault : Fault) : Category :=
  fault.cause.category

end Fault

/-- A place in a text: lines count from one, columns are bytes since the start of the line. -/
structure Place where
  line : Nat
  column : Nat
deriving DecidableEq, Repr

namespace Place

/-- Place reached from `here` after `count` bytes of a text. -/
def advance (here : Place) (count : Nat) : List Char → Place
  | [] => here
  | c :: cs =>
    if count = 0 then here
    else if c = '\n' then advance ⟨here.line + 1, 0⟩ (count - 1) cs
    else if count < c.utf8Size then ⟨here.line, here.column + count⟩
    else advance ⟨here.line, here.column + c.utf8Size⟩ (count - c.utf8Size) cs

end Place

namespace Fault

/-- Place of the fault in the text that was read. -/
def place (fault : Fault) (text : List Char) : Place :=
  Place.advance ⟨1, 0⟩ (byteLength text - fault.beyond) text

/-- Full wording of the fault, with its place in the text that was read. -/
def describe (fault : Fault) (text : List Char) : String :=
  let place := fault.place text
  fault.cause.message ++ " at line " ++ Numeral.decimal place.line ++
    " column " ++ Numeral.decimal place.column

end Fault

/-- A reader takes a value off the front of a text and returns the rest. -/
abbrev Reader (α : Type) := List Char → Except Fault (α × List Char)

end PluginSupport.Json
