import PluginSupport.Failure
import PluginSupport.Text.Blank
import PluginSupport.Text.Lowercase.Mapping
import PluginSupport.Text.Utf8
import PluginSupport.Tls.Settings

/-!
# TLS settings from variables

Settings read from named variables, each name made of a common stem and the name of a field. Flags
are words: white space around them and their case do not matter, and an empty or unset flag is off.
Paths are taken as they are.

`Environment` is a process environment, where names and values are bytes and a lookup finds the
first entry that starts with the name and an equals sign.
-/
namespace PluginSupport

open Utf8 (Bytes)

/-- A flag variable holds something else than a flag word. -/
structure FlagError where
  name : String
  word : List Char
deriving DecidableEq, Repr

/-- The failure reported to the host. -/
def FlagError.toFailure (error : FlagError) : Failure :=
  .configuration (error.name ++ " must be a boolean (true/false/1/0/yes/no). Got: '" ++
    String.ofList error.word ++ "'")

namespace TlsSettings

/-- Words that set a flag. -/
def onWords : List (List Char) := ["true".toList, "1".toList, "yes".toList]

/-- Words that leave a flag off. -/
def offWords : List (List Char) := ["false".toList, "0".toList, "no".toList, []]

/-- Flag word of a variable's text: without surrounding white space, in lowercase. -/
def flagWord (text : String) : List Char :=
  Lowercase.map (Blank.trim text.toList)

/-- Flag that a variable's text stands for. -/
def readFlag (name text : String) : Except FlagError Bool :=
  let word := flagWord text
  if word ∈ onWords then .ok true
  else if word ∈ offWords then .ok false
  else .error ⟨name, word⟩

/-- Flag of a variable that may be unset. -/
def flag (lookup : String → Option String) (name : String) : Except FlagError Bool :=
  match lookup name with
  | some text => readFlag name text
  | none => .ok false

/-- Settings of the variables whose names start with `stem`. -/
def ofLookup (stem : String) (lookup : String → Option String) : Except FlagError TlsSettings := do
  let enabled ← flag lookup (stem ++ "ENABLED")
  let skipVerify ← flag lookup (stem ++ "SKIP_VERIFY")
  .ok {
    enabled
    skipVerify
    certFile := (lookup (stem ++ "CERT_FILE")).getD ""
    keyFile := (lookup (stem ++ "KEY_FILE")).getD ""
    caFile := (lookup (stem ++ "CA_FILE")).getD "" }

end TlsSettings

/-- A process environment: names with their values. -/
structure Environment where
  entries : List (Bytes × Bytes)
deriving DecidableEq, Repr

namespace Environment

/-- The equals sign between a name and its value. -/
def equals : UInt8 := 61

/-- Bytes after `front`, when a row starts with it. -/
def after? (front row : Bytes) : Option Bytes :=
  if front.isPrefixOf row then some (row.drop front.length) else none

/-- Bytes of the first variable whose entry starts with the name and an equals sign. No name is
empty or holds a zero byte. -/
def bytes? (env : Environment) (name : Bytes) : Option Bytes :=
  if name.isEmpty ∨ 0 ∈ name then none
  else env.entries.findSome? fun (key, value) =>
    after? (name ++ [equals]) (key ++ equals :: value)

/-- Text of a variable; one that is not UTF-8 counts as unset. -/
def lookup (env : Environment) (name : String) : Option String :=
  ((env.bytes? (Utf8.encode name)).bind Utf8.decode?).map String.ofList

end Environment

/-- Settings of an environment's variables whose names start with `stem`. -/
def TlsSettings.ofEnvironment (stem : String) (env : Environment) : Except FlagError TlsSettings :=
  ofLookup stem env.lookup

end PluginSupport
