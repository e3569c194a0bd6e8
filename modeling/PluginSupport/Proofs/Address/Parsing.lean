import PluginSupport.Address.NetAddr
import PluginSupport.Proofs.Address.Spelling

/-!
# Texts of interface addresses

What `NetAddr.parse` accepts: the spelling of an address, or one slash between the spelling of an
address and a row of decimal digits that denotes a prefix length of the family
(`NetAddr.Spells`). `NetAddr.parse_exact` says so for every text, with what is found in it, and with
the message for a text that is refused.

The faults are looked for one after another, and the family is guessed before the address is read.
Since a spelling looks like its family, the guess refuses no text that the address would not.
-/
namespace PluginSupport

namespace NetAddr

/-- Texts of an address with a prefix length: without a length the prefix is as long as the family
allows, else a row of decimal digits follows after a slash. -/
inductive Spells : List Char → IpAddress → Nat → Prop
  | address {cs : List Char} {ip : IpAddress} (spells : IpAddress.Spells cs ip)
      (noSlash : '/' ∉ cs) : Spells cs ip ip.version.maxPrefixLen
  | withLength {front back : List Char} {ip : IpAddress} (spells : IpAddress.Spells front ip)
      (noSlash : '/' ∉ front) (notEmpty : back ≠ []) (digits : ∀ c ∈ back, c.isDigit = true)
      (inRange : Nat.ofDigitChars 10 back 0 ≤ ip.version.maxPrefixLen) :
      Spells (front ++ '/' :: back) ip (Nat.ofDigitChars 10 back 0)

/-! ## Stages -/

theorem halves?_eq_some_iff {cs front : List Char} {back? : Option (List Char)} :
    halves? cs = some (front, back?) ↔
      (back? = none ∧ front = cs ∧ '/' ∉ cs) ∨
        ∃ back, back? = some back ∧ cs = front ++ '/' :: back ∧ '/' ∉ front ∧ '/' ∉ back ∧
          front ≠ [] ∧ back ≠ [] := by
  constructor
  · intro halved
    unfold halves? at halved
    split at halved
    · rename_i piece pieces
      cases halved
      obtain ⟨-, clean, joined⟩ := Split.onChar_eq_iff.mp pieces
      obtain rfl : piece = cs := by simpa using joined
      exact .inl ⟨rfl, rfl, clean piece List.mem_cons_self⟩
    · rename_i first second pieces
      obtain ⟨-, clean, joined⟩ := Split.onChar_eq_iff.mp pieces
      split at halved
      · cases halved
      · rename_i bothSides
        obtain ⟨someFirst, someSecond⟩ := not_or.mp bothSides
        cases halved
        refine .inr ⟨second, rfl, ?_, clean _ (by simp), clean second (by simp),
          by simpa using someFirst, by simpa using someSecond⟩
        rw [← joined]
        simp [List.intercalate, List.intersperse]
    · cases halved
  · rintro (⟨rfl, rfl, clean⟩ | ⟨back, rfl, rfl, cleanFront, cleanBack, someFront, someBack⟩)
    · simp only [halves?, Split.onChar_of_not_mem clean]
    · simp only [halves?, Split.onChar_append_cons cleanFront, Split.onChar_of_not_mem cleanBack]
      rw [if_neg (by simp [someFront, someBack])]

theorem readPrefixLen?_eq_some_iff {version : IpVersion} {cs : List Char} {len : Nat} :
    readPrefixLen? version cs = some len ↔
      cs ≠ [] ∧ (∀ c ∈ cs, c.isDigit = true) ∧ Nat.ofDigitChars 10 cs 0 = len ∧
        len ≤ version.maxPrefixLen := by
  simp only [readPrefixLen?, Option.filter_eq_some_iff, Numeral.read?_ten_eq_some_iff,
    decide_eq_true_eq, and_assoc]

theorem slash_not_mem_digits {cs : List Char} (digits : ∀ c ∈ cs, c.isDigit = true) : '/' ∉ cs :=
  fun member => absurd (digits '/' member) (by decide)

theorem of?_of_le {ip : IpAddress} {len : Nat} (inRange : len ≤ ip.version.maxPrefixLen) :
    of? ip len = .ok ⟨ip, len, inRange⟩ :=
  dif_pos inRange

/-! ## Outcomes -/

/-- The text that an error is about, for the errors about texts. -/
def refused? : AddressError → Option String
  | .shape input | .family input | .prefixText input | .address input _ => some input
  | .prefixLength _ _ => none

/-- An error about a text quotes it. -/
theorem detail_of_refused? {error : AddressError} {input : String}
    (about : refused? error = some input) :
    ∃ before after, error.detail = before ++ input ++ after := by
  -- Stated for any words: the rewriting would look into literal ones.
  have atEnd : ∀ before : String, before ++ input = before ++ input ++ "" :=
    fun _ => String.append_empty.symm
  have inside : ∀ before between family after : String,
      before ++ input ++ between ++ family ++ after =
        before ++ input ++ (between ++ family ++ after) := by
    intro before between family after
    simp only [String.append_assoc]
  cases error with
  | prefixLength => cases about
  | shape =>
    cases about
    exact ⟨_, _, atEnd "incorrect ip address and prefix: "⟩
  | family =>
    cases about
    exact ⟨_, _, atEnd "unknown IP version: "⟩
  | prefixText =>
    cases about
    exact ⟨_, _, atEnd "invalid prefix length in "⟩
  | address _ version =>
    cases about
    exact ⟨_, _, inside "invalid CIDR address " ": invalid " (AddressError.familyName version)
      " address syntax"⟩

/-- Reading finds what the text spells, or refuses the text. -/
theorem parse_cases (input : String) :
    (∃ addr, Spells input.toList addr.ip addr.prefixLen ∧
        parse input = .ok (addr, addr.version)) ∨
      ∃ error, parse input = .error error ∧ refused? error = some input := by
  cases halved : halves? input.toList with
  | none => exact .inr ⟨.shape input, by simp [parse, halved, bind, Except.bind], rfl⟩
  | some halves =>
    obtain ⟨front, back?⟩ := halves
    cases guessed : IpVersion.ofText? front with
    | none => exact .inr ⟨.family input, by simp [parse, halved, guessed, bind, Except.bind], rfl⟩
    | some version =>
      cases read : IpAddress.read? version front with
      | none =>
        -- The fault is in the address, or in the prefix length, which is looked at before.
        cases back? with
        | none =>
          exact .inr ⟨.address input version,
            by simp [parse, halved, guessed, read, bind, Except.bind], rfl⟩
        | some back =>
          cases length : readPrefixLen? version back with
          | none =>
            exact .inr ⟨.prefixText input,
              by simp [parse, halved, guessed, length, bind, Except.bind], rfl⟩
          | some len =>
            exact .inr ⟨.address input version,
              by simp [parse, halved, guessed, length, read, bind, Except.bind], rfl⟩
      | some ip =>
        obtain ⟨spells, rfl⟩ := IpAddress.read?_eq_some_iff.mp read
        rcases halves?_eq_some_iff.mp halved with ⟨rfl, rfl, noSlash⟩ |
          ⟨back, rfl, split, noSlash, -, -, notEmpty⟩
        · refine .inl ⟨⟨ip, ip.version.maxPrefixLen, Nat.le_refl _⟩, .address spells noSlash, ?_⟩
          simp [parse, halved, guessed, read, of?, bind, Except.bind, NetAddr.version]
        · cases length : readPrefixLen? ip.version back with
          | none =>
            exact .inr ⟨.prefixText input,
              by simp [parse, halved, guessed, length, bind, Except.bind], rfl⟩
          | some len =>
            obtain ⟨-, digits, rfl, inRange⟩ := readPrefixLen?_eq_some_iff.mp length
            refine .inl ⟨⟨ip, _, inRange⟩, ?_, ?_⟩
            · rw [split]
              exact .withLength spells noSlash notEmpty digits inRange
            · simp [parse, halved, guessed, length, read, of?, bind, Except.bind, NetAddr.version,
                inRange]

/-! ## Accepted texts -/

theorem parse_of_spells {input : String} {addr : NetAddr}
    (spells : Spells input.toList addr.ip addr.prefixLen) :
    parse input = .ok (addr, addr.version) := by
  obtain ⟨ip, len, inRange⟩ := addr
  simp only at spells
  generalize text : input.toList = cs at spells
  cases spells with
  | address spells noSlash =>
    have halved : halves? cs = some (cs, none) :=
      halves?_eq_some_iff.mpr (.inl ⟨rfl, rfl, noSlash⟩)
    simp [parse, text, halved, IpVersion.ofText?_of_spells spells,
      IpAddress.read?_eq_some_iff.mpr ⟨spells, rfl⟩, of?, bind, Except.bind, version]
  | @withLength front back _ spells noSlash notEmpty digits _ =>
    have halved : halves? (front ++ '/' :: back) = some (front, some back) :=
      halves?_eq_some_iff.mpr (.inr ⟨back, rfl, rfl, noSlash, slash_not_mem_digits digits,
        spells.ne_nil, notEmpty⟩)
    simp [parse, text, halved, IpVersion.ofText?_of_spells spells,
      readPrefixLen?_eq_some_iff.mpr ⟨notEmpty, digits, rfl, inRange⟩,
      IpAddress.read?_eq_some_iff.mpr ⟨spells, rfl⟩, of?, bind, Except.bind, version, inRange]

theorem parse_eq_ok_iff {input : String} {addr : NetAddr} {version : IpVersion} :
    parse input = .ok (addr, version) ↔
      Spells input.toList addr.ip addr.prefixLen ∧ version = addr.version := by
  constructor
  · intro accepted
    rcases parse_cases input with ⟨found, spells, same⟩ | ⟨error, refused, -⟩
    · rw [accepted] at same
      cases same
      exact ⟨spells, rfl⟩
    · rw [accepted] at refused
      cases refused
  · rintro ⟨spells, rfl⟩
    exact parse_of_spells spells

/-- A spelling with a length in range makes an interface address. -/
theorem Spells.inRange {cs : List Char} {ip : IpAddress} {len : Nat} (spells : Spells cs ip len) :
    len ≤ ip.version.maxPrefixLen := by
  cases spells with
  | address => exact Nat.le_refl _
  | withLength _ _ _ _ inRange => exact inRange

/-- Reading accepts exactly the spellings of interface addresses:

* it finds the address and the length that the text spells, and the family of that address, and it
  finds them in every text that spells any;
* the octets of the address and of its mask are four or sixteen, by the family;
* a text that spells nothing is malformed input, and the message quotes it;
* the spellings of addresses are what the readers of the two families accept. -/
theorem parse_exact (input : String) :
    (∀ addr version, parse input = .ok (addr, version) ↔
        Spells input.toList addr.ip addr.prefixLen ∧ version = addr.version) ∧
      ((∃ found, parse input = .ok found) ↔ ∃ ip len, Spells input.toList ip len) ∧
      (∀ addr version, parse input = .ok (addr, version) →
        addr.ipOctets.length = (if version = .v4 then 4 else 16) ∧
          addr.maskOctets.length = if version = .v4 then 4 else 16) ∧
      (∀ error, parse input = .error error →
        ∃ before after, error.toFailure = .malformedInput (before ++ input ++ after)) ∧
      ∀ cs ip, IpAddress.Spells cs ip ↔
        (IpAddress.read? .v4 cs).or (IpAddress.read? .v6 cs) = some ip := by
  refine ⟨fun addr version => parse_eq_ok_iff, ⟨?_, ?_⟩, ?_, ?_,
    fun cs ip => IpAddress.spells_iff_read?⟩
  · rintro ⟨⟨addr, version⟩, accepted⟩
    exact ⟨_, _, (parse_eq_ok_iff.mp accepted).1⟩
  · rintro ⟨ip, len, spells⟩
    exact ⟨_, @parse_of_spells input ⟨ip, len, spells.inRange⟩ spells⟩
  · intro addr version accepted
    obtain ⟨-, rfl⟩ := parse_eq_ok_iff.mp accepted
    have octets : addr.version.width = if addr.version = .v4 then 4 else 16 := by
      cases addr.version <;> rfl
    rw [← octets]
    exact ⟨addr.ip.length_octets, addr.length_maskOctets⟩
  · intro error refused
    rcases parse_cases input with ⟨addr, -, accepted⟩ | ⟨found, same, about⟩
    · rw [accepted] at refused
      cases refused
    · obtain rfl : found = error := Except.error.inj (same.symm.trans refused)
      obtain ⟨before, after, quoted⟩ := detail_of_refused? about
      exact ⟨before, after, congrArg Failure.malformedInput quoted⟩

/-- An IPv4-mapped address in capitals, with a leading zero in the length; and a length with a
sign. -/
theorem parse_exact_mapped :
    let addr : NetAddr := ⟨.v6 ⟨0, 0, 0, 0, 0, 0xffff, 0x0a00, 0x0001⟩, 96, by decide⟩
    parse "::FFFF:10.0.0.1/096" = .ok (addr, .v6) ∧
      Spells "::FFFF:10.0.0.1/096".toList addr.ip 96 ∧ addr.ipOctets.length = 16 ∧
      parse "10.0.0.1/+8" = .error (.prefixText "10.0.0.1/+8") ∧
      ¬ ∃ ip len, Spells "10.0.0.1/+8".toList ip len := by
  intro addr
  have accepted : parse "::FFFF:10.0.0.1/096" = .ok (addr, .v6) := by rfl
  have refused : parse "10.0.0.1/+8" = .error (.prefixText "10.0.0.1/+8") := by rfl
  obtain ⟨found, -, widths, -⟩ := parse_exact "::FFFF:10.0.0.1/096"
  obtain ⟨-, known, -⟩ := parse_exact "10.0.0.1/+8"
  refine ⟨accepted, ((found addr .v6).mp accepted).1, (widths addr .v6 accepted).1, refused, ?_⟩
  intro spelled
  obtain ⟨result, isOk⟩ := known.mpr spelled
  rw [refused] at isOk
  cases isOk

end NetAddr

end PluginSupport
