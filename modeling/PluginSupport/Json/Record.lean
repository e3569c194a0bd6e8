import PluginSupport.Json.Skip

/-!
# Reading records out of JSON

Typed readers for texts, flags, indexes, lists, records and variants. All of them go from left to
right and stop at the first problem, whether that is a fault of the text or a value of another
type: a scalar of another type is read to its end before it is refused, a list or an object at its
bracket.

A record is an object with the record's fields in any order, or a list of their values in the
record's own order. Members with other names are passed over. A field must not come twice. Which
fields may be left out is up to the record: the reader fills a draft, and the record makes a value
of it at the closing bracket.
-/
namespace PluginSupport.Json

/-! ## Scalars -/

/-- Refuses the value at the front for its type, after its text has been checked. -/
def mismatch {α : Type} (cs : List Char) : Except Fault (α × List Char) :=
  let refuse {β : Type} (scanned : Except Fault β) : Except Fault (α × List Char) :=
    match scanned with
    | .ok _ => .error (.before .wrongType cs)
    | .error fault => .error fault
  match cs with
  | [] => .error (.onto .endInValue [])
  | c :: rest =>
    if c = 'n' then refuse (word "ull".toList rest)
    else if c = 't' then refuse (word "rue".toList rest)
    else if c = 'f' then refuse (word "alse".toList rest)
    else if c = '-' ∨ (Numeral.digitValue? 10 c).isSome then refuse (number cs)
    else if c = '"' then refuse (string rest)
    else if c = '[' ∨ c = '\x7b' then .error (.before .wrongType cs)
    else .error (.onto .expectedValue cs)

/-- Text at the front. -/
def readText : Reader String := fun cs =>
  match skipBlank cs with
  | '"' :: rest => (string rest).map fun (text, rest) => (String.ofList text, rest)
  | other => mismatch other

/-- Flag at the front. -/
def readFlag : Reader Bool := fun cs =>
  match skipBlank cs with
  | 't' :: rest => (word "rue".toList rest).map (true, ·)
  | 'f' :: rest => (word "alse".toList rest).map (false, ·)
  | other => mismatch other

/-- Natural number below 2³² at the front. -/
def readIndex : Reader UInt32 := fun cs =>
  match skipBlank cs with
  | [] => .error (.onto .endInValue [])
  | c :: rest =>
    if c = '-' ∨ (Numeral.digitValue? 10 c).isSome then
      match number (c :: rest) with
      | .ok (.natural n, after) =>
        if n < UInt32.size then .ok (UInt32.ofNat n, after) else .error (.before .wrongType after)
      | .ok (.other, after) => .error (.before .wrongType after)
      | .error fault => .error fault
    else mismatch (c :: rest)

/-- The word `null` at the front. -/
def readNull : Reader Unit := fun cs =>
  match skipBlank cs with
  | 'n' :: rest => (word "ull".toList rest).map ((), ·)
  | other => mismatch other

/-! ## Lists -/

/-- Items of a list up to its closing bracket; `fuel` bounds their number. -/
def readListItems {α : Type} (item : Reader α) : (fuel : Nat) → (first : Bool) → Reader (List α)
  | 0, _, cs => .error (.before .recursionLimit cs)
  | fuel + 1, first, cs => do
    match ← nextItem first cs with
    | .close rest => .ok ([], rest)
    | .more _ rest =>
      let (a, rest) ← item rest
      let (as, rest) ← readListItems item fuel false rest
      .ok (a :: as, rest)

/-- List at the front. -/
def readList {α : Type} (item : Reader α) : Reader (List α) := fun cs =>
  match skipBlank cs with
  | '[' :: rest => readListItems item (enoughFuel rest) true rest
  | other => mismatch other

/-! ## Records -/

/-- A field of a record whose draft is of type `σ`. -/
structure Field (σ : Type) where
  name : List Char
  isSet : σ → Bool
  read : σ → Reader σ

/-- Field whose value goes to one place of the draft. -/
def Field.make {σ α : Type} (name : String) (get : σ → Option α) (set : σ → α → σ)
    (read : Reader α) : Field σ where
  name := name.toList
  isSet draft := (get draft).isSome
  read draft cs := (read cs).map fun (a, rest) => (set draft a, rest)

/-- Members of an object read into a draft up to the closing brace; `fuel` bounds their number. -/
def readFields {σ : Type} (fields : List (Field σ)) :
    (fuel : Nat) → (first : Bool) → (draft : σ) → Reader σ
  | 0, _, _, cs => .error (.before .recursionLimit cs)
  | fuel + 1, first, draft, cs => do
    match ← nextKey string first cs with
    | .close rest => .ok (draft, rest)
    | .more key rest =>
      match fields.find? fun field => field.name = key with
      | some field =>
        if field.isSet draft then .error (.before (.duplicateField key) rest)
        else
          let (draft, rest) ← field.read draft (← colon rest)
          readFields fields fuel false draft rest
      | none =>
        let rest ← colon rest
        readFields fields fuel false draft (← skipValue (enoughFuel rest) rest)

/-- Closing bracket of a list form all of whose values have been read. -/
def closeList (cs : List Char) : Except Fault (List Char) :=
  match skipBlank cs with
  | [] => .error (.onto .endInList [])
  | c :: rest =>
    if c = ']' then .ok rest
    else if c = ',' then
      match skipBlank rest with
      | ']' :: rest => .error (.onto .trailingComma (']' :: rest))
      | rest => .error (.onto .trailingCharacters rest)
    else .error (.onto .trailingCharacters (c :: rest))

/-- Values of a list form read into a draft, in the order of the fields, up to the closing bracket;
the list may end early. -/
def readPlaces {σ : Type} : (fields : List (Field σ)) → (first : Bool) → (draft : σ) → Reader σ
  | [], _, draft, cs => (closeList cs).map (draft, ·)
  | field :: fields, first, draft, cs => do
    match ← nextItem first cs with
    | .close rest => .ok (draft, rest)
    | .more _ rest =>
      let (draft, rest) ← field.read draft rest
      readPlaces fields false draft rest

/-- A record: its fields in their own order, the draft without any of them, and the value that a
draft makes, unless a field is missing. -/
structure Shape (σ α : Type) where
  fields : List (Field σ)
  start : σ
  finish : σ → Except Cause α

/-- Value of a filled draft in front of `rest`. -/
def Shape.complete {σ α : Type} (shape : Shape σ α) (draft : σ) (rest : List Char) :
    Except Fault (α × List Char) :=
  match shape.finish draft with
  | .ok a => .ok (a, rest)
  | .error cause => .error (.before cause rest)

/-- Record at the front, as an object or as a list. -/
def readRecord {σ α : Type} (shape : Shape σ α) : Reader α := fun cs =>
  match skipBlank cs with
  | '\x7b' :: rest => do
    let (draft, rest) ← readFields shape.fields (enoughFuel rest) true shape.start rest
    shape.complete draft rest
  | '[' :: rest => do
    let (draft, rest) ← readPlaces shape.fields true shape.start rest
    shape.complete draft rest
  | other => mismatch other

/-- A value that must have been set. -/
def require {α : Type} (name : String) : Option α → Except Cause α
  | some a => .ok a
  | none => .error (.missingField name.toList)

/-! ## Variants -/

/-- Name of a variant, its opening quote taken off. -/
def readVariantName {α : Type} (variants : List (String × α)) : Reader α := fun cs =>
  match string cs with
  | .ok (name, rest) =>
    match variants.lookup (String.ofList name) with
    | some a => .ok (a, rest)
    | none => .error (.before .unknownVariant rest)
  | .error fault => .error fault

/-- Closing brace of a variant in object form. -/
def closeVariant (cs : List Char) : Except Fault (List Char) :=
  match skipBlank cs with
  | [] => .error (.before .endInObject [])
  | c :: rest => if c = '\x7d' then .ok rest else .error (.before .expectedValue (c :: rest))

/-- Variant at the front: its name, or an object with its name as key and `null` as value. -/
def readVariant {α : Type} (variants : List (String × α)) : Reader α := fun cs =>
  match skipBlank cs with
  | [] => .error (.onto .endInValue [])
  | c :: rest =>
    if c = '"' then readVariantName variants rest
    else if c = '\x7b' then do
      match skipBlank rest with
      | [] => .error (.onto .endInObject [])
      | c :: rest =>
        if c = '"' then
          let (a, rest) ← readVariantName variants rest
          let ((), rest) ← readNull (← colon rest)
          return (a, ← closeVariant rest)
        else .error (.onto .keyMustBeString (c :: rest))
    else .error (.onto .expectedValue (c :: rest))

end PluginSupport.Json
