import PluginSupport.Json.Record
import PluginSupport.Tls.Settings

/-!
# Wire form of TLS settings

Settings as JSON documents. Writing puts every field without white space. Reading takes a record in
object or list form; fields that are left out keep their default.
-/
namespace PluginSupport

open Json (Shape Value)

/-- Fields of settings met so far. -/
structure SettingsDraft where
  enabled : Option Bool := none
  skipVerify : Option Bool := none
  certFile : Option String := none
  keyFile : Option String := none
  caFile : Option String := none

namespace TlsSettings

/-- JSON value of settings. -/
def toValue (settings : TlsSettings) : Value :=
  .object [("enabled".toList, .bool settings.enabled),
    ("skip_verify".toList, .bool settings.skipVerify),
    ("cert_file".toList, .text settings.certFile.toList),
    ("key_file".toList, .text settings.keyFile.toList),
    ("ca_file".toList, .text settings.caFile.toList)]

/-- Document of settings. -/
def toJson (settings : TlsSettings) : String :=
  settings.toValue.compact

/-- Settings of the fields that were met, the others at their default. -/
def ofDraft (draft : SettingsDraft) : TlsSettings where
  enabled := draft.enabled.getD empty.enabled
  skipVerify := draft.skipVerify.getD empty.skipVerify
  certFile := draft.certFile.getD empty.certFile
  keyFile := draft.keyFile.getD empty.keyFile
  caFile := draft.caFile.getD empty.caFile

/-- Record shape of settings. -/
def shape : Shape SettingsDraft TlsSettings where
  fields := [
    .make "enabled" SettingsDraft.enabled (fun draft a => { draft with enabled := some a })
      Json.readFlag,
    .make "skip_verify" SettingsDraft.skipVerify
      (fun draft a => { draft with skipVerify := some a }) Json.readFlag,
    .make "cert_file" SettingsDraft.certFile (fun draft a => { draft with certFile := some a })
      Json.readText,
    .make "key_file" SettingsDraft.keyFile (fun draft a => { draft with keyFile := some a })
      Json.readText,
    .make "ca_file" SettingsDraft.caFile (fun draft a => { draft with caFile := some a })
      Json.readText]
  start := {}
  finish draft := .ok (ofDraft draft)

/-- Settings of a document. -/
def ofJson (text : String) : Except Json.Fault TlsSettings :=
  Json.document (Json.readRecord shape) text.toList

end TlsSettings

end PluginSupport
