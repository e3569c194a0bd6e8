import PluginSupport.Address.Basic
import PluginSupport.Json.Record
import PluginSupport.Sync.Event

/-!
# Wire form of names

Kinds of changes and address families travel as JSON texts, or as objects with the name as their
only key and `null` as its value.
-/
namespace PluginSupport

/-- Kinds of changes by name. -/
def ChangeKind.variants : List (String × ChangeKind) :=
  [ChangeKind.put, .delete].map fun kind => (kind.name, kind)

/-- Kind of change of a document. -/
def ChangeKind.ofJson (text : String) : Except Json.Fault ChangeKind :=
  Json.document (Json.readVariant variants) text.toList

/-- Address families by name. -/
def IpVersion.variants : List (String × IpVersion) :=
  [IpVersion.v4, .v6].map fun version => (version.name, version)

/-- Address family of a document. -/
def IpVersion.ofJson (text : String) : Except Json.Fault IpVersion :=
  Json.document (Json.readVariant variants) text.toList

end PluginSupport
