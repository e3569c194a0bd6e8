import PluginSupport.Json.Fault
import PluginSupport.Os.SystemError

/-!
# Failures

What the library's operations report to a host. A failure has a kind, a message that names what went
wrong, and sometimes an underlying cause with a text of its own. Modules that can say more precisely
what went wrong have error types of their own and turn them into a `Failure` at their border.
-/
namespace PluginSupport

/-- Why the operating system refused an access. -/
inductive IoCause where
  /-- A numbered system error. -/
  | system (code : Int)
  /-- A refusal with a text of its own. -/
  | refusal (text : String)
deriving DecidableEq, Repr

/-- Text of an access error. -/
def IoCause.describe : IoCause → String
  | .system code => SystemError.describe code
  | .refusal text => text

/-- A failure as the host sees it. -/
inductive Failure where
  | malformedInput (detail : String)
  | io (path : String) (cause : IoCause)
  | decode (detail : String)
  | configuration (detail : String)
  | plugin (name detail : String)
  | dataSync (detail : String)
  /-- A JSON text was refused; the text says where the fault stands. -/
  | json (text : List Char) (fault : Json.Fault)
  | other (detail : String)
deriving DecidableEq, Repr

namespace Failure

/-- Text of the underlying cause, for the failures that have one. -/
def source : Failure → Option String
  | .io _ cause => some cause.describe
  | .json text fault => some (fault.describe text)
  | _ => none

/-- Text shown to the user. -/
def message : Failure → String
  | .malformedInput detail => "Malformed input: " ++ detail
  | .io path cause => "I/O error on " ++ path ++ ": " ++ cause.describe
  | .decode detail => "Decode error: " ++ detail
  | .configuration detail => "Configuration error: " ++ detail
  | .plugin name detail => "Plugin error (" ++ name ++ "): " ++ detail
  | .dataSync detail => "Data sync error: " ++ detail
  | .json text fault => "JSON error: " ++ fault.describe text
  | .other detail => detail

/-- Failure made of a root cause and the contexts added to it, innermost first: the outermost text
is the one that is kept. -/
def ofContexts (root : String) (contexts : List String) : Failure :=
  .other (contexts.getLast?.getD root)

end Failure

end PluginSupport
