import PluginSupport.Json.Value

/-!
# Skipping JSON values

Values that nobody asked for are passed over: their form is checked, their contents are not. Nesting
is unlimited, strings need not pair their surrogate escapes, and numbers may be out of range.
-/
namespace PluginSupport.Json

/-- Passes over a key. -/
def skippedKey : Reader Unit := fun cs => (skipString cs).map ((), ·)

mutual

/-- Rest of the text after a value; `fuel` bounds the number of steps. -/
def skipValue : (fuel : Nat) → List Char → Except Fault (List Char)
  | 0, cs => .error (.before .recursionLimit cs)
  | fuel + 1, cs =>
    match skipBlank cs with
    | [] => .error (.onto .endInValue [])
    | c :: rest =>
      if c = 'n' then word "ull".toList rest
      else if c = 't' then word "rue".toList rest
      else if c = 'f' then word "alse".toList rest
      else if c = '-' ∨ (Numeral.digitValue? 10 c).isSome then skipNumber (c :: rest)
      else if c = '"' then skipString rest
      else if c = '[' then skipItems fuel true rest
      else if c = '\x7b' then skipMembers fuel true rest
      else .error (.onto .expectedValue (c :: rest))

/-- Rest of the text after the items of a list and its closing bracket. -/
def skipItems : (fuel : Nat) → (first : Bool) → List Char → Except Fault (List Char)
  | 0, _, cs => .error (.before .recursionLimit cs)
  | fuel + 1, first, cs => do
    match ← nextItem first cs with
    | .close rest => .ok rest
    | .more _ rest => skipItems fuel false (← skipValue fuel rest)

/-- Rest of the text after the members of an object and its closing brace. -/
def skipMembers : (fuel : Nat) → (first : Bool) → List Char → Except Fault (List Char)
  | 0, _, cs => .error (.before .recursionLimit cs)
  | fuel + 1, first, cs => do
    match ← nextKey skippedKey first cs with
    | .close rest => .ok rest
    | .more _ rest => skipMembers fuel false (← skipValue fuel (← colon rest))

end

end PluginSupport.Json
