import Mathlib.Data.List.Basic
import Mathlib.Tactic.SplitIfs

/-!
# The bytes of a text

A text as its encoded characters. The byte of an ASCII character is no byte of any other character,
so that a text can be cut at it as well as its bytes can.
-/

set_option autoImplicit false

namespace SymbolCache.Text

def encode (text : List Char) : List UInt8 :=
  text.flatMap String.utf8EncodeChar

theorem encode_append (first second : List Char) :
    encode (first ++ second) = encode first ++ encode second :=
  List.flatMap_append

/-! ## Characters -/

/-- The first byte of a character is that of an ASCII character only if the two are the same, and
the others are none of ASCII characters. -/
theorem exists_utf8EncodeChar (character : Char) :
    ∃ first others, String.utf8EncodeChar character = first :: others ∧
      (∀ byte ∈ others, 0x80 ≤ byte) ∧
      ∀ marker : Char, marker.toNat < 0x80 → character ≠ marker →
        first ≠ UInt8.ofNat marker.toNat := by
  have encoded : ∃ first others, String.utf8EncodeChar character = first :: others ∧
      (∀ byte ∈ others, 0x80 ≤ byte) ∧
      (first.toNat = character.toNat ∨ 0x80 ≤ first.toNat) := by
    have same : character.val.toNat = character.toNat := rfl
    unfold String.utf8EncodeChar
    dsimp only
    split_ifs
    all_goals
      refine ⟨_, _, rfl, ?_, ?_⟩
      · simp [UInt8.le_iff_toNat_le] <;> omega
      · simp
        omega
  obtain ⟨first, others, parts, far, leads⟩ := encoded
  refine ⟨first, others, parts, far, fun marker near different => ?_⟩
  rintro rfl
  have value : (UInt8.ofNat marker.toNat).toNat = marker.toNat := by
    simp
    omega
  rw [value, Char.toNat_inj] at leads
  rcases leads with same | beyond
  · exact different same.symm
  · omega

/-- The byte of a slash is no byte of another character. -/
theorem slash_not_mem_utf8EncodeChar {character : Char} (other : character ≠ '/') :
    (0x2F : UInt8) ∉ String.utf8EncodeChar character := by
  obtain ⟨first, others, parts, far, distinct⟩ := exists_utf8EncodeChar character
  rw [parts, List.mem_cons, not_or]
  exact ⟨Ne.symm (distinct '/' (by decide) other), fun member => absurd (far _ member) (by decide)⟩

/-! ## Texts -/

private theorem toList_loop (bytes : ByteArray) (start : Nat) (before : List UInt8) :
    ByteArray.toList.loop bytes start before = before.reverse ++ bytes.data.toList.drop start := by
  induction start, before using ByteArray.toList.loop.induct bytes with
  | case1 start before more ih =>
      have bound : start < bytes.data.toList.length := by simpa using more
      rw [ByteArray.toList.loop, if_pos more, ih, List.drop_eq_getElem_cons bound]
      simp [ByteArray.get!, more]
  | case2 start before done =>
      have bound : bytes.data.toList.length ≤ start := by simpa using Nat.le_of_not_lt done
      rw [ByteArray.toList.loop, if_neg done, List.drop_eq_nil_of_le bound, List.append_nil]

theorem toUTF8_eq (text : String) : text.toUTF8 = (encode text.toList).toByteArray := by
  rw [String.toUTF8_eq_toByteArray, ← String.ofList_toList (s := text),
    String.toByteArray_ofList, String.toList_ofList]
  rfl

theorem toList_toUTF8 (text : String) : text.toUTF8.toList = encode text.toList := by
  rw [toUTF8_eq, ByteArray.toList, toList_loop, List.toList_data_toByteArray]
  rfl

theorem encode_inj {first second : List Char} : encode first = encode second ↔ first = second := by
  refine ⟨fun same => ?_, congrArg encode⟩
  have texts : (String.ofList first).toUTF8 = (String.ofList second).toUTF8 := by
    rw [toUTF8_eq, toUTF8_eq, String.toList_ofList, String.toList_ofList, same]
  rw [String.toUTF8_eq_toByteArray, String.toUTF8_eq_toByteArray, String.toByteArray_inj] at texts
  exact String.ofList_injective texts

/-- A cut at a byte that is not among the first bytes is behind them. -/
theorem exists_of_append_eq {first second before after : List UInt8} {byte : UInt8}
    (absent : byte ∉ first) (cut : first ++ second = before ++ byte :: after) :
    ∃ rest, before = first ++ rest ∧ second = rest ++ byte :: after := by
  rcases List.append_eq_append_iff.mp cut with ⟨rest, parts, cut⟩ | ⟨rest, parts, cut⟩
  · exact ⟨rest, parts, cut⟩
  · cases rest with
    | nil => exact ⟨[], by simpa using parts.symm, by simpa using cut.symm⟩
    | cons next rest =>
        obtain ⟨rfl, -⟩ := List.cons.inj cut
        exact absurd (by simp [parts]) absent

/-- Where the bytes of a text can be cut at a slash, the text can. -/
theorem encode_eq_append_slash_iff {text : List Char} {before after : List UInt8} :
    encode text = before ++ 0x2F :: after ↔
      ∃ front back, text = front ++ '/' :: back ∧ encode front = before ∧ encode back = after := by
  constructor
  · intro cut
    induction text generalizing before with
    | nil => simp [encode] at cut
    | cons character text ih =>
        replace cut : String.utf8EncodeChar character ++ encode text =
            before ++ 0x2F :: after := cut
        by_cases slash : character = '/'
        case pos =>
          subst slash
          rw [show String.utf8EncodeChar '/' = [0x2F] by decide] at cut
          cases before with
          | nil => exact ⟨[], text, rfl, rfl, (List.cons.inj cut).2⟩
          | cons byte before =>
              obtain ⟨rfl, behind⟩ := List.cons.inj cut
              obtain ⟨front, back, rfl, rfl, rfl⟩ := ih behind
              exact ⟨'/' :: front, back, rfl, rfl, rfl⟩
        case neg =>
          obtain ⟨rest, rfl, behind⟩ :=
            exists_of_append_eq (slash_not_mem_utf8EncodeChar slash) cut
          obtain ⟨front, back, rfl, rfl, rfl⟩ := ih behind
          exact ⟨character :: front, back, rfl, rfl, rfl⟩
  · rintro ⟨front, back, rfl, rfl, rfl⟩
    rw [encode_append]
    rfl

end SymbolCache.Text
