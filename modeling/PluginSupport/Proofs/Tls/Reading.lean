import PluginSupport.Proofs.Json.Schema
import PluginSupport.Proofs.Json.Writing
import PluginSupport.Tls.Settings.Wire

/-!
# Which documents are read as TLS settings

Settings are read out of a value that gives each of their fields at most once
(`SettingsDraft.GivenBy`): an object with any other members beside the fields, in any order, or a
list of the values of the first fields. Fields that are not given keep their default
(`TlsSettings.overwrite`).

Main result: `TlsSettings.ofJson_law`. Written settings are read back, and exactly the documents
whose fields are given at most once, each as a value of its type, are accepted.
-/
namespace PluginSupport

open Json (Column DescribesFields IsDocument Misfit Schema Shape Value)

namespace TlsSettings

/-- Fields of settings, in the order of their list form. -/
def fieldNames : List String := ["enabled", "skip_verify", "cert_file", "key_file", "ca_file"]

/-- Settings with the given fields in place of their own. -/
def overwrite (settings : TlsSettings) (given : SettingsDraft) : TlsSettings where
  enabled := given.enabled.getD settings.enabled
  skipVerify := given.skipVerify.getD settings.skipVerify
  certFile := given.certFile.getD settings.certFile
  keyFile := given.keyFile.getD settings.keyFile
  caFile := given.caFile.getD settings.caFile

end TlsSettings

namespace SettingsDraft

open TlsSettings (fieldNames shape)

/-- JSON value of a text. -/
def textValue (text : String) : Value := .text text.toList

/-- Whether a value gives exactly these fields, each once. -/
structure GivenBy (given : SettingsDraft) (value : Value) : Prop where
  enabled : value.Gives fieldNames "enabled" (given.enabled.map .bool)
  skipVerify : value.Gives fieldNames "skip_verify" (given.skipVerify.map .bool)
  certFile : value.Gives fieldNames "cert_file" (given.certFile.map textValue)
  keyFile : value.Gives fieldNames "key_file" (given.keyFile.map textValue)
  caFile : value.Gives fieldNames "ca_file" (given.caFile.map textValue)

/-- Column of the flag that TLS is wanted. -/
def enabledColumn : Column SettingsDraft :=
  ⟨"enabled", SettingsDraft.enabled, fun draft a => { draft with enabled := some a },
    Json.decides_flag, fun _ _ => rfl⟩

/-- Column of the flag that server certificates go unchecked. -/
def skipVerifyColumn : Column SettingsDraft :=
  ⟨"skip_verify", SettingsDraft.skipVerify, fun draft a => { draft with skipVerify := some a },
    Json.decides_flag, fun _ _ => rfl⟩

/-- Column of the certificate's path. -/
def certFileColumn : Column SettingsDraft :=
  ⟨"cert_file", SettingsDraft.certFile, fun draft a => { draft with certFile := some a },
    Json.decides_text, fun _ _ => rfl⟩

/-- Column of the key's path. -/
def keyFileColumn : Column SettingsDraft :=
  ⟨"key_file", SettingsDraft.keyFile, fun draft a => { draft with keyFile := some a },
    Json.decides_text, fun _ _ => rfl⟩

/-- Column of the CA file's path. -/
def caFileColumn : Column SettingsDraft :=
  ⟨"ca_file", SettingsDraft.caFile, fun draft a => { draft with caFile := some a },
    Json.decides_text, fun _ _ => rfl⟩

/-- Columns of settings. -/
def columns : List (Column SettingsDraft) :=
  [enabledColumn, skipVerifyColumn, certFileColumn, keyFileColumn, caFileColumn]

theorem isTable : shape.IsTable columns where
  nonempty := nofun
  fields := rfl
  apart := by
    simp [columns, enabledColumn, skipVerifyColumn, certFileColumn, keyFileColumn, caFileColumn,
      Column.apart_iff]
  unset := by
    simp [columns, enabledColumn, skipVerifyColumn, certFileColumn, keyFileColumn, caFileColumn,
      shape]
  ext := by
    rintro ⟨enabled, skipVerify, certFile, keyFile, caFile⟩
      ⟨enabled', skipVerify', certFile', keyFile', caFile'⟩ same
    simpa [columns, enabledColumn, skipVerifyColumn, certFileColumn, keyFileColumn, caFileColumn]
      using same

/-- The columns hold exactly the fields that are given. -/
theorem givenBy_iff {given : SettingsDraft} {value : Value} :
    given.GivenBy value ↔ ∀ column ∈ columns, ∃ item,
      value.Gives fieldNames column.name item ∧ column.Holds given item := by
  simp only [columns, List.forall_mem_cons]
  constructor
  · rintro ⟨enabled, skipVerify, certFile, keyFile, caFile⟩
    refine ⟨(Column.gives_iff_of_form Value.asFlag?_eq_some_iff).mpr ?_,
      (Column.gives_iff_of_form Value.asFlag?_eq_some_iff).mpr ?_,
      (Column.gives_iff_of_form Value.asText?_eq_some_iff).mpr ?_,
      (Column.gives_iff_of_form Value.asText?_eq_some_iff).mpr ?_,
      (Column.gives_iff_of_form Value.asText?_eq_some_iff).mpr ?_, nofun⟩
    · exact enabled
    · exact skipVerify
    · exact certFile
    · exact keyFile
    · exact caFile
  · rintro ⟨enabled, skipVerify, certFile, keyFile, caFile, -⟩
    have givesEnabled := (Column.gives_iff_of_form Value.asFlag?_eq_some_iff).mp enabled
    have givesSkipVerify := (Column.gives_iff_of_form Value.asFlag?_eq_some_iff).mp skipVerify
    have givesCertFile := (Column.gives_iff_of_form Value.asText?_eq_some_iff).mp certFile
    have givesKeyFile := (Column.gives_iff_of_form Value.asText?_eq_some_iff).mp keyFile
    have givesCaFile := (Column.gives_iff_of_form Value.asText?_eq_some_iff).mp caFile
    exact ⟨givesEnabled, givesSkipVerify, givesCertFile, givesKeyFile, givesCaFile⟩

end SettingsDraft

namespace TlsSettings

open SettingsDraft (columns isTable)

theorem meaning_eq_some_iff {value : Value} {settings : TlsSettings} :
    shape.meaning columns value = some settings ↔
      ∃ given, SettingsDraft.GivenBy given value ∧ settings = empty.overwrite given := by
  have names : columns.map Column.name = fieldNames := rfl
  rw [Shape.meaning_eq_some_iff isTable, names]
  simp only [SettingsDraft.givenBy_iff]
  constructor
  · rintro ⟨draft, finished, fields⟩
    cases finished
    exact ⟨draft, fields, rfl⟩
  · rintro ⟨given, fields, rfl⟩
    exact ⟨given, rfl, fields⟩

/-- Outline of settings. -/
def schema : Schema :=
  .record false [("enabled", .flag), ("skip_verify", .flag), ("cert_file", .text),
    ("key_file", .text), ("ca_file", .text)]

theorem describes : schema.Describes (shape.meaning columns) := by
  have fields : DescribesFields [("enabled", .flag), ("skip_verify", .flag), ("cert_file", .text),
      ("key_file", .text), ("ca_file", .text)] columns :=
    .cons ⟨rfl, Json.describes_flag⟩ (.cons ⟨rfl, Json.describes_flag⟩
      (.cons ⟨rfl, Json.describes_text⟩ (.cons ⟨rfl, Json.describes_text⟩
        (.cons ⟨rfl, Json.describes_text⟩ .nil))))
  refine Json.describes_record isTable ?_ fields
  nofun

theorem toOption_ofJson {text : String} {value : Value} (isDocument : IsDocument text value) :
    (ofJson text).toOption = shape.meaning columns value :=
  (Json.decides_record isTable).document isDocument

/-! ## Written settings -/

theorem spells_toValue (settings : TlsSettings) :
    Json.Spells settings.toValue.writeCompact settings.toValue := by
  have flag : ∀ b, Json.Spells (Value.bool b).writeCompact (.bool b) := by
    rintro (_ | _)
    · exact .no
    · exact .yes
  have text : ∀ cs, Json.Spells (Value.text cs).writeCompact (.text cs) := by
    intro cs
    rw [Value.writeCompact]
    exact Json.spells_quote cs
  refine Json.spells_writeCompact_object ?_
  simp only [List.forall_mem_cons]
  exact ⟨flag _, flag _, text _, text _, text _, List.forall_mem_nil _⟩

theorem isDocument_toJson (settings : TlsSettings) :
    IsDocument settings.toJson settings.toValue :=
  Json.isDocument_compact settings.spells_toValue

/-- Written settings give every field. -/
theorem givenBy_toValue (settings : TlsSettings) :
    SettingsDraft.GivenBy ⟨some settings.enabled, some settings.skipVerify, some settings.certFile,
      some settings.keyFile, some settings.caFile⟩ settings.toValue := by
  constructor <;> exact ⟨_, rfl, rfl⟩

/-- Written settings are read back. A document is read as the default settings overwritten by the
fields that it gives, if it gives each at most once, and is refused if anything in it does not
fit. -/
theorem ofJson_law :
    (∀ settings, ofJson settings.toJson = .ok settings) ∧
      ∀ ⦃text : String⦄ ⦃value : Value⦄, IsDocument text value →
        (∀ settings, ofJson text = .ok settings ↔
          ∃ given, SettingsDraft.GivenBy given value ∧ settings = empty.overwrite given) ∧
        (Misfit schema value → ∃ fault, ofJson text = .error fault) := by
  have read : ∀ {text value}, IsDocument text value → ∀ settings, ofJson text = .ok settings ↔
      ∃ given, SettingsDraft.GivenBy given value ∧ settings = empty.overwrite given := by
    intro text value isDocument settings
    rw [← Json.toOption_eq_some_iff, toOption_ofJson isDocument, meaning_eq_some_iff]
  refine ⟨fun settings => ?_, fun text value isDocument => ⟨read isDocument, fun misfit => ?_⟩⟩
  · exact (read settings.isDocument_toJson settings).mpr ⟨_, settings.givenBy_toValue, rfl⟩
  · exact Json.exists_error_of_toOption
      ((toOption_ofJson isDocument).trans (describes.rejects misfit))

/-- Two fields out of order, with an unknown member between them. -/
def partialValue : Value :=
  .object [("ca_file".toList, .text "ca.pem".toList), ("note".toList, .list [.null]),
    ("enabled".toList, .bool true)]

/-- The flag given twice. -/
def repeatedValue : Value :=
  .object [("enabled".toList, .bool true), ("enabled".toList, .bool false)]

theorem givenBy_partialValue :
    SettingsDraft.GivenBy ⟨some true, none, none, none, some "ca.pem"⟩ partialValue := by
  constructor <;> exact ⟨_, rfl, rfl⟩

theorem printable_partialValue : partialValue.Printable := by
  refine Json.printable_object ?_
  simp only [List.forall_mem_cons]
  refine ⟨Json.printable_text _, Json.printable_list ?_, fun _ => .yes, nofun⟩
  exact List.forall_mem_singleton.mpr fun _ => .null

theorem printable_repeatedValue : repeatedValue.Printable := by
  refine Json.printable_object ?_
  simp only [List.forall_mem_cons]
  exact ⟨fun _ => .yes, fun _ => .no, nofun⟩

/-- The hypotheses of `ofJson_law` at a document that gives two fields, and at one that gives a
field twice. -/
theorem ofJson_law_partial :
    ofJson partialValue.pretty = .ok { enabled := true, caFile := "ca.pem" } ∧
      ∃ fault, ofJson repeatedValue.pretty = .error fault := by
  constructor
  · refine ((ofJson_law.2 (Json.isDocument_pretty printable_partialValue)).1 _).mpr ?_
    exact ⟨_, givenBy_partialValue, rfl⟩
  · refine (ofJson_law.2 (Json.isDocument_pretty printable_repeatedValue)).2 ?_
    exact .repeated rfl List.mem_cons_self (by decide)

end TlsSettings

end PluginSupport
