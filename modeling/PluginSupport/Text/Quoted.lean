import PluginSupport.Text.Lowercase.Mapping
import PluginSupport.Text.Numeral
import PluginSupport.Text.Printable.Table

/-!
# Quoted text in messages

Text between double quotes. Quote and backslash are escaped, NUL, tab, line feed and carriage return
have short escapes, and characters that extend the one before them or have no visible form are
written as their code point in hexadecimal between braces.
-/
namespace PluginSupport.Quoted

/-- Short escape of a character. -/
def shortEscape? : Char → Option Char
  | '\x00' => some '0'
  | '\t' => some 't'
  | '\n' => some 'n'
  | '\r' => some 'r'
  | '"' => some '"'
  | '\\' => some '\\'
  | _ => none

/-- Whether a character is written as its code point. -/
def isHidden (c : Char) : Bool :=
  Lowercase.inRanges Printable.extendingRanges c.toNat ||
    Lowercase.inRanges Printable.hiddenRanges c.toNat

/-- Written form of one character. -/
def writeChar (c : Char) : List Char :=
  match shortEscape? c with
  | some e => ['\\', e]
  | none => if isHidden c then "\\u\x7b".toList ++ Numeral.write 16 c.toNat ++ ['\x7d'] else [c]

/-- Quoted form of a text. -/
def write (cs : List Char) : String :=
  String.ofList ('"' :: cs.flatMap writeChar ++ ['"'])

end PluginSupport.Quoted
