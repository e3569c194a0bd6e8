import PluginSupport.Proofs.Json.Grammar

/-!
# Written documents are JSON

What is written is a spelling of the value, whatever its strings contain, as long as its numbers are
numbers. `Value.Printable` says so for one item or member per line, at every level of indentation;
`spells_writeCompact_object` says so for objects without white space.
-/
namespace PluginSupport.Json

/-! ## Strings -/

theorem hex4?_hexPair {n : Nat} (control : n < 0x20) :
    hex4? '0' '0' (Numeral.digitChar (n / 16 % 16)) (Numeral.digitChar (n % 16)) = some n := by
  have table : ∀ n : Fin 0x20, hex4? '0' '0' (Numeral.digitChar (n.val / 16 % 16))
      (Numeral.digitChar (n.val % 16)) = some n.val := by decide
  exact table ⟨n, control⟩

/-- Each character is written as itself or as an escape of itself. -/
theorem SpellsText.written {spelled cs : List Char} (more : SpellsText spelled cs) (c : Char) :
    SpellsText ((escape? c).getD [c] ++ spelled) (c :: cs) := by
  unfold escape?
  split
  case h_8 =>
    rename_i notQuote notBackslash _ _ _ _ _
    split
    · -- A control character without a short escape is written by its number.
      rename_i control
      have unit : c.toNat < 0xD800 := Nat.lt_trans control (by decide)
      have escaped := SpellsText.long (hex4?_hexPair control) (by simp [isLeading]; omega)
        (by simp [isTrailing]; omega) more
      rwa [Char.ofNat_toNat] at escaped
    · rename_i printable
      exact .plain notQuote notBackslash (Nat.not_lt.mp printable) more
  all_goals exact .short rfl more

theorem spellsText_quoted (cs : List Char) :
    SpellsText (cs.flatMap fun c => (escape? c).getD [c]) cs := by
  induction cs with
  | nil => exact .nil
  | cons c cs ih => exact ih.written c

theorem spells_quote (cs : List Char) : Spells (quote cs) (.text cs) :=
  .text (spellsText_quoted cs)

/-! ## One item or member per line -/

/-- Whether a value is written as one of its spellings, at every level. -/
def Value.Printable (value : Value) : Prop :=
  ∀ level, Spells (value.writePretty level) value

theorem blanks_newline (level : Nat) : Blanks (newline level) := by
  intro c member
  rcases List.mem_cons.mp member with rfl | indentation
  · rfl
  · rw [(List.mem_replicate.mp indentation).2]
    rfl

theorem printable_text (cs : List Char) : (Value.text cs).Printable := by
  intro level
  rw [Value.writePretty]
  exact spells_quote cs

theorem printable_number {lexeme : List Char} (isNumber : IsNumber lexeme) :
    (Value.number lexeme).Printable := by
  intro level
  rw [Value.writePretty]
  exact .number isNumber

theorem spellsItems_writePretty {items : List Value} (printable : ∀ item ∈ items, item.Printable)
    (level : Nat) {closing : List Char} (blank : Blanks closing) :
    SpellsItems false (writePrettyItems level items ++ (closing ++ [']'])) items := by
  induction items with
  | nil => exact .close blank
  | cons item items ih =>
    obtain ⟨first, rest⟩ := List.forall_mem_cons.mp printable
    have lead : Lead false ([] ++ ',' :: newline level) := .next blanks_nil (blanks_newline level)
    simpa [writePrettyItems] using SpellsItems.item lead (first level) (ih rest)

theorem printable_list {items : List Value} (printable : ∀ item ∈ items, item.Printable) :
    (Value.list items).Printable := by
  intro level
  cases items with
  | nil => exact .list (.close blanks_nil)
  | cons item items =>
    obtain ⟨first, rest⟩ := List.forall_mem_cons.mp printable
    have others := spellsItems_writePretty rest (level + 1) (blanks_newline level)
    have all := SpellsItems.item (.first (blanks_newline (level + 1))) (first (level + 1)) others
    simpa [Value.writePretty] using Spells.list all

theorem spellsMembers_writePretty {members : List (List Char × Value)}
    (printable : ∀ member ∈ members, member.2.Printable) (level : Nat) {closing : List Char}
    (blank : Blanks closing) :
    SpellsMembers false (writePrettyMembers level members ++ (closing ++ ['\x7d'])) members := by
  induction members with
  | nil => exact .close blank
  | cons member members ih =>
    obtain ⟨key, value⟩ := member
    obtain ⟨first, rest⟩ := List.forall_mem_cons.mp printable
    have lead : Lead false ([] ++ ',' :: newline level) := .next blanks_nil (blanks_newline level)
    have space : Blanks [' '] := by simp [Blanks, isBlank]
    have spells := SpellsMembers.member lead (spellsText_quoted key) blanks_nil space (first level)
      (ih rest)
    simpa [writePrettyMembers, quote] using spells

theorem printable_object {members : List (List Char × Value)}
    (printable : ∀ member ∈ members, member.2.Printable) : (Value.object members).Printable := by
  intro level
  cases members with
  | nil => exact .object (.close blanks_nil)
  | cons member members =>
    obtain ⟨key, value⟩ := member
    obtain ⟨first, rest⟩ := List.forall_mem_cons.mp printable
    have space : Blanks [' '] := by simp [Blanks, isBlank]
    have others := spellsMembers_writePretty rest (level + 1) (blanks_newline level)
    have all := SpellsMembers.member (.first (blanks_newline (level + 1))) (spellsText_quoted key)
      blanks_nil space (first (level + 1)) others
    simpa [Value.writePretty, quote] using Spells.object all

theorem isDocument_pretty {value : Value} (printable : value.Printable) :
    IsDocument value.pretty value := by
  refine ⟨[], value.writePretty 0, [], blanks_nil, printable 0, blanks_nil, ?_⟩
  rw [Value.pretty, String.toList_ofList, List.nil_append, List.append_nil]

/-! ## Without white space -/

theorem spellsMembers_writeCompact {members : List (List Char × Value)}
    (spells : ∀ member ∈ members, Spells member.2.writeCompact member.2) :
    SpellsMembers false (writeCompactMembers members ++ ['\x7d']) members := by
  induction members with
  | nil => exact .close blanks_nil
  | cons member members ih =>
    obtain ⟨key, value⟩ := member
    obtain ⟨first, rest⟩ := List.forall_mem_cons.mp spells
    have lead : Lead false ([] ++ ',' :: []) := .next blanks_nil blanks_nil
    have all := SpellsMembers.member lead (spellsText_quoted key) blanks_nil blanks_nil first
      (ih rest)
    simpa [writeCompactMembers, quote] using all

theorem spells_writeCompact_object {members : List (List Char × Value)}
    (spells : ∀ member ∈ members, Spells member.2.writeCompact member.2) :
    Spells (Value.object members).writeCompact (.object members) := by
  cases members with
  | nil => exact .object (.close blanks_nil)
  | cons member members =>
    obtain ⟨key, value⟩ := member
    obtain ⟨first, rest⟩ := List.forall_mem_cons.mp spells
    have all := SpellsMembers.member (.first blanks_nil) (spellsText_quoted key) blanks_nil
      blanks_nil first (spellsMembers_writeCompact rest)
    simpa [Value.writeCompact, quote] using Spells.object all

theorem isDocument_compact {value : Value} (spells : Spells value.writeCompact value) :
    IsDocument value.compact value := by
  refine ⟨[], value.writeCompact, [], blanks_nil, spells, blanks_nil, ?_⟩
  rw [Value.compact, String.toList_ofList, List.nil_append, List.append_nil]

end PluginSupport.Json
