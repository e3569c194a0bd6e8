import PluginSupport.Json.Scan

/-!
# JSON values

Whole JSON documents as trees, read and written.

* `Value.parse` reads any document, nested up to `maxDepth` levels.
* `Value.pretty` writes one item or member per line, two blanks deeper at each level; empty lists
  and objects stay on one line. `Value.compact` writes no white space.

Numbers are kept by their lexeme. In strings, quote, backslash and characters below U+0020 are
escaped, the five usual ones in short form.
-/
namespace PluginSupport.Json

/-- A JSON value. -/
inductive Value where
  | null
  | bool (b : Bool)
  | number (lexeme : List Char)
  | text (cs : List Char)
  | list (items : List Value)
  | object (members : List (List Char × Value))
deriving Repr

/-! ## Reading -/

/-- Deepest nesting of lists and objects that is read. -/
def maxDepth : Nat := 127

/-- Front part of `cs` that is not in its rest. -/
def consumed (cs rest : List Char) : List Char :=
  cs.take (cs.length - rest.length)

/-- Rest after the colon between a key and its value. -/
def colon (cs : List Char) : Except Fault (List Char) :=
  match skipBlank cs with
  | [] => .error (.onto .endInObject [])
  | c :: rest => if c = ':' then .ok rest else .error (.onto .expectedColon (c :: rest))

/-- What stands at the next place of a list or an object. -/
inductive Next (α : Type) where
  /-- The closing bracket; the text after it. -/
  | close (rest : List Char)
  /-- Another item; for an object, its key has been read. -/
  | more (item : α) (rest : List Char)
deriving Repr

/-- Looks for the next item of a list; a comma is due unless it is the first. -/
def nextItem (first : Bool) (cs : List Char) : Except Fault (Next Unit) :=
  match skipBlank cs with
  | [] => .error (.onto .endInList [])
  | c :: rest =>
    if c = ']' then .ok (.close rest)
    else if first then .ok (.more () (c :: rest))
    else if c = ',' then
      match skipBlank rest with
      | [] => .error (.onto .endInValue [])
      | d :: rest =>
        if d = ']' then .error (.onto .trailingComma (d :: rest)) else .ok (.more () (d :: rest))
    else .error (.onto .expectedListCommaOrEnd (c :: rest))

/-- Key of a member, its opening quote taken off, as the given reader of strings returns it. -/
def key {α : Type} (readKey : Reader α) (cs : List Char) : Except Fault (Next α) :=
  match readKey cs with
  | .ok (key, rest) => .ok (.more key rest)
  | .error fault => .error fault

/-- Looks for the next member of an object and reads its key; a comma is due unless it is the
first. -/
def nextKey {α : Type} (readKey : Reader α) (first : Bool) (cs : List Char) :
    Except Fault (Next α) :=
  match skipBlank cs with
  | [] => .error (.onto .endInObject [])
  | c :: rest =>
    if c = '\x7d' then .ok (.close rest)
    else if first then
      if c = '"' then key readKey rest else .error (.onto .keyMustBeString (c :: rest))
    else if c = ',' then
      match skipBlank rest with
      | [] => .error (.onto .endInValue [])
      | d :: rest =>
        if d = '"' then key readKey rest
        else if d = '\x7d' then .error (.onto .trailingComma (d :: rest))
        else .error (.onto .keyMustBeString (d :: rest))
    else .error (.onto .expectedObjectCommaOrEnd (c :: rest))

mutual

/-- Value at the front of a text; `fuel` bounds the number of steps, `depth` the nesting. -/
def readValue : (fuel depth : Nat) → Reader Value
  | 0, _, cs => .error (.before .recursionLimit cs)
  | fuel + 1, depth, cs =>
    match skipBlank cs with
    | [] => .error (.onto .endInValue [])
    | c :: rest =>
      if c = 'n' then (word "ull".toList rest).map (.null, ·)
      else if c = 't' then (word "rue".toList rest).map (.bool true, ·)
      else if c = 'f' then (word "alse".toList rest).map (.bool false, ·)
      else if c = '-' ∨ (Numeral.digitValue? 10 c).isSome then
        (number (c :: rest)).map fun (_, after) => (.number (consumed (c :: rest) after), after)
      else if c = '"' then (string rest).map fun (text, after) => (.text text, after)
      else if c = '[' then
        match depth with
        | 0 => .error (.onto .recursionLimit (c :: rest))
        | depth + 1 =>
          (readItems fuel depth true rest).map fun (items, after) => (.list items, after)
      else if c = '\x7b' then
        match depth with
        | 0 => .error (.onto .recursionLimit (c :: rest))
        | depth + 1 =>
          (readMembers fuel depth true rest).map fun (members, after) => (.object members, after)
      else .error (.onto .expectedValue (c :: rest))

/-- Items of a list up to its closing bracket. -/
def readItems : (fuel depth : Nat) → (first : Bool) → Reader (List Value)
  | 0, _, _, cs => .error (.before .recursionLimit cs)
  | fuel + 1, depth, first, cs => do
    match ← nextItem first cs with
    | .close rest => .ok ([], rest)
    | .more _ rest =>
      let (item, rest) ← readValue fuel depth rest
      let (items, rest) ← readItems fuel depth false rest
      .ok (item :: items, rest)

/-- Members of an object up to its closing brace. -/
def readMembers : (fuel depth : Nat) → (first : Bool) → Reader (List (List Char × Value))
  | 0, _, _, cs => .error (.before .recursionLimit cs)
  | fuel + 1, depth, first, cs => do
    match ← nextKey string first cs with
    | .close rest => .ok ([], rest)
    | .more key rest =>
      let rest ← colon rest
      let (value, rest) ← readValue fuel depth rest
      let (members, rest) ← readMembers fuel depth false rest
      .ok ((key, value) :: members, rest)

end

/-- Steps that suffice to read a text: at most two for each character. -/
def enoughFuel (cs : List Char) : Nat := 2 * cs.length + 2

/-- Refuses anything but white space after a document. -/
def endOfText (rest : List Char) : Except Fault Unit :=
  match skipBlank rest with
  | [] => .ok ()
  | c :: rest => .error (.onto .trailingCharacters (c :: rest))

/-- Whole document read by a reader. -/
def document {α : Type} (read : Reader α) (cs : List Char) : Except Fault α := do
  let (a, rest) ← read cs
  endOfText rest
  .ok a

/-- Value of a document. -/
def Value.parse (cs : List Char) : Except Fault Value :=
  document (readValue (enoughFuel cs) maxDepth) cs

/-! ## Writing -/

/-- Escape of a character in a string; none for characters that stay as they are. -/
def escape? : Char → Option (List Char)
  | '"' => some ['\\', '"']
  | '\\' => some ['\\', '\\']
  | '\x08' => some ['\\', 'b']
  | '\t' => some ['\\', 't']
  | '\n' => some ['\\', 'n']
  | '\x0c' => some ['\\', 'f']
  | '\r' => some ['\\', 'r']
  | c => if c.toNat < 0x20 then some ("\\u00".toList ++ Numeral.hexPair c.toNat) else none

/-- String between quotes. -/
def quote (cs : List Char) : List Char :=
  '"' :: cs.flatMap (fun c => (escape? c).getD [c]) ++ ['"']

/-- Line break and indentation of a level. -/
def newline (level : Nat) : List Char :=
  '\n' :: List.replicate (2 * level) ' '

mutual

/-- Value with one item or member per line, at a level of indentation. -/
def Value.writePretty (level : Nat) : Value → List Char
  | .null => "null".toList
  | .bool b => if b then "true".toList else "false".toList
  | .number lexeme => lexeme
  | .text cs => quote cs
  | .list [] => "[]".toList
  | .list (item :: items) =>
    '[' :: newline (level + 1) ++ item.writePretty (level + 1) ++
      writePrettyItems (level + 1) items ++ newline level ++ [']']
  | .object [] => "\x7b\x7d".toList
  | .object ((key, value) :: members) =>
    '\x7b' :: newline (level + 1) ++ quote key ++ [':', ' '] ++ value.writePretty (level + 1) ++
      writePrettyMembers (level + 1) members ++ newline level ++ ['\x7d']

/-- Items after the first one, each behind a comma and a line break. -/
def writePrettyItems (level : Nat) : List Value → List Char
  | [] => []
  | item :: items =>
    ',' :: newline level ++ item.writePretty level ++ writePrettyItems level items

/-- Members after the first one, each behind a comma and a line break. -/
def writePrettyMembers (level : Nat) : List (List Char × Value) → List Char
  | [] => []
  | (key, value) :: members =>
    ',' :: newline level ++ quote key ++ [':', ' '] ++ value.writePretty level ++
      writePrettyMembers level members

end

mutual

/-- Value without white space. -/
def Value.writeCompact : Value → List Char
  | .null => "null".toList
  | .bool b => if b then "true".toList else "false".toList
  | .number lexeme => lexeme
  | .text cs => quote cs
  | .list [] => "[]".toList
  | .list (item :: items) => '[' :: item.writeCompact ++ writeCompactItems items ++ [']']
  | .object [] => "\x7b\x7d".toList
  | .object ((key, value) :: members) =>
    '\x7b' :: quote key ++ ':' :: value.writeCompact ++ writeCompactMembers members ++ ['\x7d']

/-- Items after the first one, each behind a comma. -/
def writeCompactItems : List Value → List Char
  | [] => []
  | item :: items => ',' :: item.writeCompact ++ writeCompactItems items

/-- Members after the first one, each behind a comma. -/
def writeCompactMembers : List (List Char × Value) → List Char
  | [] => []
  | (key, value) :: members =>
    ',' :: quote key ++ ':' :: value.writeCompact ++ writeCompactMembers members

end

/-- Document with one item or member per line. -/
def Value.pretty (value : Value) : String :=
  String.ofList (value.writePretty 0)

/-- Document without white space. -/
def Value.compact (value : Value) : String :=
  String.ofList value.writeCompact

end PluginSupport.Json
