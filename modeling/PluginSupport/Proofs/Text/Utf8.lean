import Mathlib.Data.List.Basic
import Mathlib.Tactic.SplitIfs
import PluginSupport.Text.Utf8

/-!
# UTF-8 forms of texts

Comparing texts byte by byte in their UTF-8 form orders them as comparing them character by
character does (`encode_lt_encode_iff`). A first byte tells how many bytes its character has, and
more bytes stand for larger code points; so whatever comes behind two characters, the first byte in
which these differ decides.

The text is read back from its UTF-8 form (`decode?_encode`).
-/
namespace PluginSupport

/-! ## Order -/

/-- Writing items one after the other keeps the order of rows, if the items decide whatever stands
behind them. -/
theorem flatMap_lt_flatMap {α β : Type} [LT α] [LT β] {form : α → List β} {first second : List α}
    (notEmpty : ∀ item ∈ second, form item ≠ [])
    (decides : ∀ item ∈ second, ∀ smaller < item, ∀ s t, form smaller ++ s < form item ++ t)
    (before : first < second) : first.flatMap form < second.flatMap form := by
  induction second generalizing first with
  | nil => exact absurd before (List.not_lt_nil first)
  | cons d second ih =>
    obtain ⟨here, rest⟩ := List.forall_mem_cons.mp notEmpty
    obtain ⟨decidesHere, decidesRest⟩ := List.forall_mem_cons.mp decides
    cases first with
    | nil =>
      obtain ⟨head, tail, same⟩ := List.exists_cons_of_ne_nil here
      rw [List.flatMap_nil, List.flatMap_cons, same]
      exact List.nil_lt_cons _ _
    | cons c first =>
      rw [List.flatMap_cons, List.flatMap_cons]
      rcases List.cons_lt_cons_iff.mp before with smaller | ⟨rfl, behind⟩
      · exact decidesHere c smaller _ _
      · exact List.append_left_lt (ih rest decidesRest behind)

namespace Utf8

theorem utf8EncodeChar_append_lt {c d : Char} (smaller : c < d) (s t : Bytes) :
    String.utf8EncodeChar c ++ s < String.utf8EncodeChar d ++ t := by
  have order : c.val.toNat < d.val.toNat := smaller
  have inRange : d.val.toNat < 0x110000 := by
    have valid : d.val.toNat.isValidChar := d.valid
    unfold Nat.isValidChar at valid
    omega
  unfold String.utf8EncodeChar
  generalize c.val.toNat = m at order
  generalize d.val.toNat = n at order inRange
  -- One case for each pair of lengths; in half of them the smaller character has more bytes.
  dsimp only
  split_ifs <;>
    simp (disch := omega) only [List.cons_append, List.nil_append, List.cons_lt_cons_iff,
      UInt8.lt_iff_toNat_lt, ← UInt8.toNat_inj, UInt8.toNat_ofNat', Nat.mod_eq_of_lt] <;>
    omega

theorem flatMap_utf8EncodeChar_lt {first second : List Char} (before : first < second) :
    first.flatMap String.utf8EncodeChar < second.flatMap String.utf8EncodeChar := by
  refine flatMap_lt_flatMap (fun c _ => String.utf8EncodeChar_ne_nil) ?_ before
  exact fun d _ c smaller => utf8EncodeChar_append_lt smaller

theorem encode_lt_encode_iff {a b : String} : encode a < encode b ↔ a < b := by
  constructor
  · intro before
    refine String.not_le.mp fun after => ?_
    by_cases same : b = a
    · exact List.lt_irrefl _ (same ▸ before)
    · have strictly : b < a :=
        String.not_le.mp fun reverse => same (String.le_antisymm after reverse)
      exact List.lt_asymm before (flatMap_utf8EncodeChar_lt strictly)
  · exact fun before => flatMap_utf8EncodeChar_lt before

/-! ## Reading back -/

theorem lead?_two (bits : Nat) (atLeast : 2 ≤ bits) (atMost : bits < 32) :
    lead? (bits + 192) = some ⟨bits, 1, 0x80, 0xBF⟩ := by
  rw [lead?, if_neg (by omega), if_pos (by omega), Nat.add_sub_cancel]

/-- The bounds of the first continuation byte leave out overlong forms and surrogates. -/
theorem lead?_three (bits next : Nat) (atMost : bits < 16) (small : next < 64)
    (notShort : bits = 0 → 32 ≤ next) (noSurrogate : bits = 13 → next < 32) :
    ∃ low high, lead? (bits + 224) = some ⟨bits, 2, low, high⟩ ∧
      low ≤ next + 128 ∧ next + 128 ≤ high := by
  rw [lead?, if_neg (by omega), if_neg (by omega)]
  by_cases zero : bits = 0
  · subst zero
    exact ⟨0xA0, 0xBF, rfl, by omega, by omega⟩
  · rw [if_neg (by omega), Nat.add_sub_cancel]
    by_cases surrogate : bits = 13
    · subst surrogate
      exact ⟨0x80, 0x9F, rfl, by omega, by omega⟩
    · rw [if_neg (by omega), if_pos (by omega)]
      exact ⟨0x80, 0xBF, rfl, by omega, by omega⟩

/-- The bounds of the first continuation byte leave out overlong forms and what is too large. -/
theorem lead?_four (bits next : Nat) (atMost : bits ≤ 4) (small : next < 64)
    (notShort : bits = 0 → 16 ≤ next) (inRange : bits = 4 → next < 16) :
    ∃ low high, lead? (bits + 240) = some ⟨bits, 3, low, high⟩ ∧
      low ≤ next + 128 ∧ next + 128 ≤ high := by
  rw [lead?, if_neg (by omega), if_neg (by omega), if_neg (by omega), if_neg (by omega),
    if_neg (by omega)]
  by_cases zero : bits = 0
  · subst zero
    exact ⟨0x90, 0xBF, rfl, by omega, by omega⟩
  · rw [if_neg (by omega), Nat.add_sub_cancel]
    by_cases four : bits = 4
    · subst four
      exact ⟨0x80, 0x8F, rfl, by omega, by omega⟩
    · rw [if_pos (by omega)]
      exact ⟨0x80, 0xBF, rfl, by omega, by omega⟩

theorem piecesFrom_lead {b bits more low high : Nat} (small : b < 256)
    (reads : lead? b = some ⟨bits, more + 1, low, high⟩) (rest : Bytes) :
    piecesFrom .between (UInt8.ofNat b :: rest) =
      piecesFrom (.inside bits (more + 1) low high) rest := by
  have byte : (UInt8.ofNat b).toNat = b := UInt8.toNat_ofNat_of_lt' small
  simp only [piecesFrom, step, start, byte, reads, if_neg (Nat.succ_ne_zero more),
    List.nil_append]

theorem piecesFrom_more {bits more low high next : Nat} (small : next < 64)
    (atLeast : low ≤ next + 128) (atMost : next + 128 ≤ high) (rest : Bytes) :
    piecesFrom (.inside bits (more + 2) low high) (UInt8.ofNat (next + 128) :: rest) =
      piecesFrom (.inside (bits * 64 + next) (more + 1) 0x80 0xBF) rest := by
  have byte : (UInt8.ofNat (next + 128)).toNat = next + 128 :=
    UInt8.toNat_ofNat_of_lt' (Nat.lt_of_lt_of_le (Nat.add_lt_add_right small 128) (by decide))
  have notLast : more + 2 ≠ 1 := by omega
  simp only [piecesFrom, step, byte, atLeast, atMost, and_self, if_true, if_neg notLast,
    Nat.add_sub_cancel, List.nil_append, Nat.add_succ_sub_one]

theorem piecesFrom_last {bits low high next : Nat} (small : next < 64)
    (atLeast : low ≤ next + 128) (atMost : next + 128 ≤ high) (rest : Bytes) :
    piecesFrom (.inside bits 1 low high) (UInt8.ofNat (next + 128) :: rest) =
      .char (Char.ofNat (bits * 64 + next)) :: piecesFrom .between rest := by
  have byte : (UInt8.ofNat (next + 128)).toNat = next + 128 :=
    UInt8.toNat_ofNat_of_lt' (Nat.lt_of_lt_of_le (Nat.add_lt_add_right small 128) (by decide))
  simp only [piecesFrom, step, byte, atLeast, atMost, and_self, if_true,
    Nat.add_sub_cancel, List.singleton_append]

theorem piecesFrom_utf8EncodeChar (c : Char) (rest : Bytes) :
    piecesFrom .between (String.utf8EncodeChar c ++ rest) =
      .char c :: piecesFrom .between rest := by
  have valid : c.val.toNat.isValidChar := c.valid
  unfold Nat.isValidChar at valid
  have read : Char.ofNat c.val.toNat = c := Char.ofNat_toNat c
  unfold String.utf8EncodeChar
  generalize c.val.toNat = n at valid read
  have last : n % 64 < 64 := Nat.mod_lt n (by decide)
  dsimp only
  split
  case isTrue one =>
    have byte : (UInt8.ofNat n).toNat = n :=
      UInt8.toNat_ofNat_of_lt' (Nat.lt_of_le_of_lt one (by decide))
    have lead : lead? n = some ⟨n, 0, 0, 0⟩ := by rw [lead?, if_pos (by omega)]
    simp only [List.singleton_append, piecesFrom, step, start, byte, lead, if_true, read]
  case isFalse moreThanOne =>
    split
    case isTrue two =>
      have bits : n / 64 % 32 * 64 + n % 64 = n := by omega
      have lead := lead?_two (n / 64 % 32) (by omega) (by omega)
      rw [List.cons_append, List.singleton_append, piecesFrom_lead (by omega) lead,
        piecesFrom_last last (by omega) (by omega), bits, read]
    case isFalse moreThanTwo =>
      split
      case isTrue three =>
        have bits : (n / 4096 % 16 * 64 + n / 64 % 64) * 64 + n % 64 = n := by omega
        obtain ⟨low, high, lead, atLeast, atMost⟩ :=
          lead?_three (n / 4096 % 16) (n / 64 % 64) (by omega) (by omega) (by omega) (by omega)
        rw [List.cons_append, List.cons_append, List.singleton_append,
          piecesFrom_lead (by omega) lead, piecesFrom_more (by omega) atLeast atMost,
          piecesFrom_last last (by omega) (by omega), bits, read]
      case isFalse four =>
        have bits : ((n / 262144 % 8 * 64 + n / 4096 % 64) * 64 + n / 64 % 64) * 64 + n % 64 = n :=
          by omega
        obtain ⟨low, high, lead, atLeast, atMost⟩ :=
          lead?_four (n / 262144 % 8) (n / 4096 % 64) (by omega) (by omega) (by omega) (by omega)
        rw [List.cons_append, List.cons_append, List.cons_append, List.singleton_append,
          piecesFrom_lead (by omega) lead, piecesFrom_more (by omega) atLeast atMost,
          piecesFrom_more (by omega) (by omega) (by omega),
          piecesFrom_last last (by omega) (by omega), bits, read]

theorem pieces_flatMap (cs : List Char) :
    pieces (cs.flatMap String.utf8EncodeChar) = cs.map .char := by
  rw [pieces]
  induction cs with
  | nil => rfl
  | cons c cs ih => rw [List.flatMap_cons, piecesFrom_utf8EncodeChar, ih, List.map_cons]

theorem decode?_encode (text : String) : decode? (encode text) = some text.toList := by
  have found : text.toList.mapM (fun c => (Piece.char c).char?) = some (text.toList.map id) :=
    List.mapM_pure
  rw [decode?, encode, pieces_flatMap, List.mapM_map]
  rwa [List.map_id] at found

end Utf8

end PluginSupport
