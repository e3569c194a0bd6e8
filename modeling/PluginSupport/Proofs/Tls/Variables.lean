import PluginSupport.Proofs.Text.Utf8
import PluginSupport.Proofs.Text.Word
import PluginSupport.Tls.Settings.Variables

/-!
# Which variables are read as TLS settings

`TlsSettings.Means` says what a variable means as a flag: unset it is off, set it has to spell one
of the words for a flag. `TlsSettings.SpelledBy` says which settings a look-up of variables gives.

* `TlsSettings.flag_eq_ok_iff`: a flag is read just in case its variable means one.
* `TlsSettings.flag_of_meaningless`: otherwise the variable is reported by its full name.
* `TlsSettings.ofLookup_eq_ok_iff`: settings are read just in case they are spelled.
* `Environment.lookup_of_agrees`: what a process environment holds as UTF-8 is looked up as text.

Main result: `TlsSettings.ofLookup_exact`.
-/
namespace PluginSupport

/-! ## Reports -/

namespace FlagError

/-- Whether an error is reported as a failure of configuration that begins with the full name of a
variable. -/
structure Blames (error : FlagError) (name : String) : Prop where
  kind : ∃ rest, error.toFailure = .configuration (name ++ rest)
  named : name.toList <:+: error.toFailure.message.toList

theorem blames_name (error : FlagError) : error.Blames error.name := by
  have kind : ∃ rest, error.toFailure = .configuration (error.name ++ rest) := by
    refine ⟨" must be a boolean (true/false/1/0/yes/no). Got: '" ++
      (String.ofList error.word ++ "'"), ?_⟩
    rw [FlagError.toFailure, String.append_assoc, String.append_assoc]
  refine ⟨kind, ?_⟩
  obtain ⟨rest, same⟩ := kind
  have message : (Failure.configuration (error.name ++ rest)).message =
      "Configuration error: " ++ (error.name ++ rest) := rfl
  rw [same, message, String.toList_append, String.toList_append, ← List.append_assoc]
  exact List.infix_append _ _ _

end FlagError

/-! ## Flags -/

namespace TlsSettings

/-- Words for a flag that is on and for one that is off. -/
def words : Bool → List String
  | true => ["true", "1", "yes"]
  | false => ["false", "0", "no", ""]

/-- What a variable means as a flag. -/
inductive Means : Option String → Bool → Prop
  /-- An unset flag is off. -/
  | unset : Means none false
  /-- A text means what the word means that it spells. -/
  | word {text word : String} {on : Bool} (known : word ∈ words on)
      (spelled : Word.Spells text.toList word.toList) : Means (some text) on

theorem onWords_eq : onWords = (words true).map String.toList := rfl

theorem offWords_eq : offWords = (words false).map String.toList := rfl

/-- Trimming and lowercase give a word for a flag just in case the text spells it. -/
theorem flagWord_mem_iff {text : String} {on : Bool} :
    flagWord text ∈ (words on).map String.toList ↔ Means (some text) on := by
  have plain : ∀ on, ∀ word ∈ words on,
      (∀ c ∈ word.toList, c.toNat < 128) ∧ 'k' ∉ word.toList := by
    rintro (_ | _) <;> simp [words]
  rw [List.mem_map]
  constructor
  · rintro ⟨word, known, same⟩
    obtain ⟨ascii, noK⟩ := plain on word known
    exact .word known ((Word.map_trim_eq_iff ascii noK).mp same.symm)
  · rintro (_ | ⟨known, spelled⟩)
    obtain ⟨ascii, noK⟩ := plain on _ known
    exact ⟨_, known, ((Word.map_trim_eq_iff ascii noK).mpr spelled).symm⟩

section

variable {name text : String}

theorem readFlag_eq_ok_iff {on : Bool} : readFlag name text = .ok on ↔ Means (some text) on := by
  have apart : ∀ word ∈ (words false).map String.toList, word ∉ (words true).map String.toList := by
    decide
  rw [← flagWord_mem_iff, readFlag, onWords_eq, offWords_eq]
  split
  case isTrue isOn =>
    cases on with
    | true => exact iff_of_true rfl isOn
    | false => exact iff_of_false nofun fun isOff => apart _ isOff isOn
  case isFalse notOn =>
    split
    case isTrue isOff =>
      cases on with
      | true => exact iff_of_false nofun notOn
      | false => exact iff_of_true rfl isOff
    case isFalse notOff =>
      cases on with
      | true => exact iff_of_false nofun notOn
      | false => exact iff_of_false nofun notOff

theorem eq_of_readFlag_eq_error {error : FlagError} (refused : readFlag name text = .error error) :
    error = ⟨name, flagWord text⟩ := by
  unfold readFlag at refused
  dsimp only at refused
  split at refused
  · cases refused
  · split at refused
    · cases refused
    · exact (Except.error.inj refused).symm

variable {lookup : String → Option String}

theorem flag_eq_ok_iff {on : Bool} : flag lookup name = .ok on ↔ Means (lookup name) on := by
  rw [flag]
  cases lookup name with
  | none =>
    constructor
    · rintro ⟨⟩
      exact .unset
    · rintro ⟨⟩
      rfl
  | some text => exact readFlag_eq_ok_iff

/-- A variable means one flag at most. -/
theorem Means.unique {value : Option String} {on other : Bool} (means : Means value on)
    (meansOther : Means value other) : on = other := by
  have read : flag (fun _ => value) "" = .ok on := flag_eq_ok_iff.mpr means
  have readOther : flag (fun _ => value) "" = .ok other := flag_eq_ok_iff.mpr meansOther
  exact Except.ok.inj (read.symm.trans readOther)

theorem Means.eq_true_iff {value : Option String} {on : Bool} (means : Means value on) :
    on = true ↔ Means value true :=
  ⟨fun isOn => isOn ▸ means, means.unique⟩

instance (value : Option String) (on : Bool) : Decidable (Means value on) :=
  decidable_of_iff (flag (fun _ => value) "" = .ok on) flag_eq_ok_iff

/-- Letters that only look like those of a word do not count. -/
example : Means (some "\u2003tRuE\u0085") true ∧ ∀ on, ¬ Means (some "tru\u0435") on := by
  decide +kernel

theorem flag_of_meaningless (meaningless : ¬ ∃ on, Means (lookup name) on) :
    ∃ word, flag lookup name = .error ⟨name, word⟩ := by
  rw [flag]
  cases value : lookup name with
  | none => exact absurd ⟨false, value ▸ .unset⟩ meaningless
  | some text =>
    cases read : readFlag name text with
    | ok on => exact absurd ⟨on, value ▸ readFlag_eq_ok_iff.mp read⟩ meaningless
    | error error => exact ⟨_, read.trans (congrArg Except.error (eq_of_readFlag_eq_error read))⟩

end

/-! ## Settings -/

section

variable {stem : String} {lookup : String → Option String}

/-- Whether a look-up of the variables with a common stem gives the settings. Flags may be spelled
in any way that means them. Paths stand as they are, and an unset one is empty. -/
structure SpelledBy (settings : TlsSettings) (stem : String) (lookup : String → Option String) :
    Prop where
  enabled : Means (lookup (stem ++ "ENABLED")) settings.enabled
  skipVerify : Means (lookup (stem ++ "SKIP_VERIFY")) settings.skipVerify
  certFile : settings.certFile = (lookup (stem ++ "CERT_FILE")).getD ""
  keyFile : settings.keyFile = (lookup (stem ++ "KEY_FILE")).getD ""
  caFile : settings.caFile = (lookup (stem ++ "CA_FILE")).getD ""

theorem ofLookup_of_flags {enabled skipVerify : Bool}
    (first : flag lookup (stem ++ "ENABLED") = .ok enabled)
    (second : flag lookup (stem ++ "SKIP_VERIFY") = .ok skipVerify) :
    ofLookup stem lookup = .ok {
      enabled
      skipVerify
      certFile := (lookup (stem ++ "CERT_FILE")).getD ""
      keyFile := (lookup (stem ++ "KEY_FILE")).getD ""
      caFile := (lookup (stem ++ "CA_FILE")).getD "" } := by
  rw [ofLookup, first, second]
  rfl

theorem ofLookup_of_first_error {error : FlagError}
    (first : flag lookup (stem ++ "ENABLED") = .error error) :
    ofLookup stem lookup = .error error := by
  rw [ofLookup, first]
  rfl

theorem ofLookup_of_second_error {enabled : Bool} {error : FlagError}
    (first : flag lookup (stem ++ "ENABLED") = .ok enabled)
    (second : flag lookup (stem ++ "SKIP_VERIFY") = .error error) :
    ofLookup stem lookup = .error error := by
  rw [ofLookup, first, second]
  rfl

theorem ofLookup_eq_ok_iff {settings : TlsSettings} :
    ofLookup stem lookup = .ok settings ↔ settings.SpelledBy stem lookup := by
  constructor
  · intro read
    cases first : flag lookup (stem ++ "ENABLED") with
    | error error =>
      rw [ofLookup_of_first_error first] at read
      cases read
    | ok enabled =>
      cases second : flag lookup (stem ++ "SKIP_VERIFY") with
      | error error =>
        rw [ofLookup_of_second_error first second] at read
        cases read
      | ok skipVerify =>
        rw [ofLookup_of_flags first second] at read
        cases read
        exact ⟨flag_eq_ok_iff.mp first, flag_eq_ok_iff.mp second, rfl, rfl, rfl⟩
  · rintro ⟨enabled, skipVerify, certFile, keyFile, caFile⟩
    rw [ofLookup_of_flags (flag_eq_ok_iff.mpr enabled) (flag_eq_ok_iff.mpr skipVerify), ← certFile,
      ← keyFile, ← caFile]

end

end TlsSettings

/-! ## Process environments -/

namespace Environment

variable {env : Environment} {lookup : String → Option String} {name : String}

/-- Whether a process environment holds what is looked up, in UTF-8. -/
def Agrees (env : Environment) (lookup : String → Option String) (name : String) : Prop :=
  env.bytes? (Utf8.encode name) = (lookup name).map Utf8.encode

theorem lookup_of_agrees (agrees : env.Agrees lookup name) : env.lookup name = lookup name := by
  rw [Environment.lookup, agrees]
  cases lookup name with
  | none => rfl
  | some text =>
    rw [Option.map_some, Option.bind_some, Utf8.decode?_encode, Option.map_some,
      String.ofList_toList]

end Environment

namespace TlsSettings

/-- Names of the variables behind their stem. -/
def variableNames : List String := ["ENABLED", "SKIP_VERIFY", "CERT_FILE", "KEY_FILE", "CA_FILE"]

/-- A process environment that holds the variables is read as they are. -/
theorem ofEnvironment_of_agrees {stem : String} {lookup : String → Option String}
    {env : Environment} (agrees : ∀ name ∈ variableNames, env.Agrees lookup (stem ++ name)) :
    ofEnvironment stem env = ofLookup stem lookup := by
  simp only [variableNames, List.forall_mem_cons] at agrees
  obtain ⟨enabled, skipVerify, certFile, keyFile, caFile, -⟩ := agrees
  simp only [ofEnvironment, ofLookup, flag, Environment.lookup_of_agrees enabled,
    Environment.lookup_of_agrees skipVerify, Environment.lookup_of_agrees certFile,
    Environment.lookup_of_agrees keyFile, Environment.lookup_of_agrees caFile]

/-- Settings are read from variables.

* They are read just in case both flags mean something, which an unset variable does.
* A flag that is read is on just in case its variable spells a word for it. Paths are what is looked
  up, and empty when nothing is.
* Otherwise the failure is one of configuration and names the first flag that means nothing, by its
  full name.
* So however settings are spelled, they are read back, be it from a process environment that holds
  the variables. -/
theorem ofLookup_exact (stem : String) (lookup : String → Option String) :
    ((∃ settings, ofLookup stem lookup = .ok settings) ↔
        (∃ on, Means (lookup (stem ++ "ENABLED")) on) ∧
          ∃ on, Means (lookup (stem ++ "SKIP_VERIFY")) on) ∧
      (∀ settings, ofLookup stem lookup = .ok settings →
        (settings.enabled = true ↔ Means (lookup (stem ++ "ENABLED")) true) ∧
        (settings.skipVerify = true ↔ Means (lookup (stem ++ "SKIP_VERIFY")) true) ∧
        settings.certFile = (lookup (stem ++ "CERT_FILE")).getD "" ∧
        settings.keyFile = (lookup (stem ++ "KEY_FILE")).getD "" ∧
        settings.caFile = (lookup (stem ++ "CA_FILE")).getD "") ∧
      ((¬ ∃ on, Means (lookup (stem ++ "ENABLED")) on) →
        ∃ error, ofLookup stem lookup = .error error ∧ error.Blames (stem ++ "ENABLED")) ∧
      ((∃ on, Means (lookup (stem ++ "ENABLED")) on) →
        (¬ ∃ on, Means (lookup (stem ++ "SKIP_VERIFY")) on) →
        ∃ error, ofLookup stem lookup = .error error ∧ error.Blames (stem ++ "SKIP_VERIFY")) ∧
      ∀ settings, SpelledBy settings stem lookup →
        ofLookup stem lookup = .ok settings ∧
          ∀ env : Environment, (∀ name ∈ variableNames, env.Agrees lookup (stem ++ name)) →
            ofEnvironment stem env = .ok settings := by
  refine ⟨⟨?_, ?_⟩, ?_, ?_, ?_, ?_⟩
  · rintro ⟨settings, read⟩
    have spelled := ofLookup_eq_ok_iff.mp read
    exact ⟨⟨_, spelled.enabled⟩, ⟨_, spelled.skipVerify⟩⟩
  · rintro ⟨⟨enabled, first⟩, ⟨skipVerify, second⟩⟩
    exact ⟨_, ofLookup_of_flags (flag_eq_ok_iff.mpr first) (flag_eq_ok_iff.mpr second)⟩
  · intro settings read
    obtain ⟨enabled, skipVerify, certFile, keyFile, caFile⟩ := ofLookup_eq_ok_iff.mp read
    exact ⟨enabled.eq_true_iff, skipVerify.eq_true_iff, certFile, keyFile, caFile⟩
  · intro meaningless
    obtain ⟨word, refused⟩ := flag_of_meaningless meaningless
    exact ⟨_, ofLookup_of_first_error refused, FlagError.blames_name ⟨_, word⟩⟩
  · rintro ⟨on, means⟩ meaningless
    obtain ⟨word, refused⟩ := flag_of_meaningless meaningless
    exact ⟨_, ofLookup_of_second_error (flag_eq_ok_iff.mpr means) refused,
      FlagError.blames_name ⟨_, word⟩⟩
  · intro settings spelled
    have read := ofLookup_eq_ok_iff.mpr spelled
    exact ⟨read, fun env agrees => (ofEnvironment_of_agrees agrees).trans read⟩

/-- Variables that spell settings in unusual ways. -/
def unusual : List (String × String) :=
  [("AGENT_ENABLED", "\u2003YeS\r\n"), ("AGENT_SKIP_VERIFY", "\u3000"),
    ("AGENT_CA_FILE", " ключ.pem ")]

/-- A process environment that holds them, behind a variable whose name goes on. -/
def unusualEnvironment : Environment where
  entries := (("AGENT_ENABLED_BY", "host") :: unusual).map fun (name, text) =>
    (Utf8.encode name, Utf8.encode text)

/-- The hypotheses of `ofLookup_exact` at variables that spell settings in unusual ways, and at
flags that are written with letters beyond ASCII. -/
theorem ofLookup_exact_unusual :
    ofLookup "AGENT_" (List.lookup · unusual) = .ok { enabled := true, caFile := " ключ.pem " } ∧
      ofEnvironment "AGENT_" unusualEnvironment =
        .ok { enabled := true, caFile := " ключ.pem " } ∧
      Means (List.lookup "AGENT_ENABLED" unusual) true ∧
      (∃ error, ofLookup "" (fun _ => some "ye\u017F") = .error error ∧ error.Blames "ENABLED") ∧
      ∃ error, ofLookup "" (List.lookup · [("SKIP_VERIFY", "\uFF11")]) = .error error ∧
        error.Blames "SKIP_VERIFY" := by
  obtain ⟨-, fields, -, -, reads⟩ := ofLookup_exact "AGENT_" (List.lookup · unusual)
  obtain ⟨-, -, first, -, -⟩ := ofLookup_exact "" fun _ => some "ye\u017F"
  obtain ⟨-, -, -, second, -⟩ := ofLookup_exact "" (List.lookup · [("SKIP_VERIFY", "\uFF11")])
  have spelled : SpelledBy { enabled := true, caFile := " ключ.pem " } "AGENT_"
      (List.lookup · unusual) := by
    constructor <;> decide +kernel
  have agrees : ∀ name ∈ variableNames,
      unusualEnvironment.Agrees (List.lookup · unusual) ("AGENT_" ++ name) := by
    unfold Environment.Agrees
    decide +kernel
  obtain ⟨read, readAlike⟩ := reads _ spelled
  refine ⟨read, readAlike _ agrees, (fields _ read).1.mp rfl, first ?_, second ⟨false, .unset⟩ ?_⟩
  · decide +kernel
  · decide +kernel

end TlsSettings

end PluginSupport
