import Mathlib.Data.Nat.Digits.Defs
import Mathlib.Tactic.Ring
import SymbolCache.Config
import SymbolCache.Proofs.Text.Trimming

/-!
# Time limits by their texts

A text states a time limit if it is a numeral with a unit and white space around it, as long as
neither the numeral nor the number of seconds reaches `2 ^ 64`. Exactly such a text is read, and as
exactly that many seconds; a setting with any other text has its default.
-/

set_option autoImplicit false

namespace SymbolCache

namespace Text

/-! ## Numerals -/

/-- ASCII digits, at least one, and the number that they denote. -/
structure Denotes (digits : List Char) (count : Nat) : Prop where
  filled : digits ≠ []
  ascii : ∀ digit ∈ digits, isAsciiDigit digit = true
  value : Nat.ofDigits 10 (digits.reverse.map fun digit => digit.toNat - '0'.toNat) = count

private theorem digitsValue_eq_ofDigits (value : Nat) (digits : List Char) :
    digitsValue value digits =
      Nat.ofDigits 10 (digits.reverse.map fun digit => digit.toNat - '0'.toNat) +
        10 ^ digits.length * value := by
  induction digits generalizing value with
  | nil =>
      rw [List.reverse_nil, List.map_nil, Nat.ofDigits_nil, List.length_nil, Nat.pow_zero,
        Nat.one_mul, Nat.zero_add]
      rfl
  | cons digit digits ih =>
      have step : digitsValue value (digit :: digits) =
          digitsValue (10 * value + (digit.toNat - '0'.toNat)) digits := rfl
      rw [step, ih, List.reverse_cons, List.map_append, Nat.ofDigits_append, List.length_map,
        List.length_reverse, List.map_singleton, Nat.ofDigits_singleton, List.length_cons]
      ring

private theorem Denotes.dropPlus_eq {digits : List Char} {count : Nat}
    (denotes : Denotes digits count) :
    dropPlus digits = digits := by
  unfold dropPlus
  split
  case h_1 => exact absurd (denotes.ascii '+' List.mem_cons_self) (by decide)
  case h_2 => rfl

/-- A numeral is what is left without its sign. -/
theorem denotes_dropPlus_iff {text : List Char} {count : Nat} :
    Denotes (dropPlus text) count ↔ ∃ sign digits, (sign = [] ∨ sign = ['+']) ∧
      text = sign ++ digits ∧ Denotes digits count := by
  constructor
  · intro denotes
    unfold dropPlus at denotes
    split at denotes
    case h_1 digits => exact ⟨['+'], digits, .inr rfl, rfl, denotes⟩
    case h_2 => exact ⟨[], text, .inl rfl, rfl, denotes⟩
  · rintro ⟨sign, digits, rfl | rfl, rfl, denotes⟩
    · rwa [denotes.dropPlus_eq]
    · exact denotes

private theorem natural?_eq_some_iff {bound : Nat} {text : List Char} {count : Nat} :
    natural? bound text = some count ↔ Denotes (dropPlus text) count ∧ count < bound := by
  have value : digitsValue 0 (dropPlus text) = Nat.ofDigits 10
      ((dropPlus text).reverse.map fun digit => digit.toNat - '0'.toNat) := by
    rw [digitsValue_eq_ofDigits, Nat.mul_zero, Nat.add_zero]
  unfold natural?
  dsimp only
  constructor
  · intro read
    split at read
    case isTrue => exact nomatch read
    case isFalse plain =>
      split at read
      case isFalse => exact nomatch read
      case isTrue below =>
        obtain rfl := Option.some.inj read
        simp only [Bool.or_eq_true, List.isEmpty_iff, Bool.not_eq_true', not_or,
          Bool.not_eq_false, List.all_eq_true] at plain
        exact ⟨⟨plain.1, plain.2, value.symm⟩, below⟩
  · rintro ⟨⟨filled, ascii, denoted⟩, below⟩
    have plain : ¬ ((dropPlus text).isEmpty || !(dropPlus text).all isAsciiDigit) = true := by
      simp only [Bool.or_eq_true, List.isEmpty_iff, Bool.not_eq_true', not_or, Bool.not_eq_false,
        List.all_eq_true]
      exact ⟨filled, ascii⟩
    rw [if_neg plain, value, denoted, if_pos below]

end Text

namespace Duration

/-! ## Statements of a limit -/

def unitFactors : List (Char × Nat) :=
  [('s', 1), ('m', 60), ('h', 3600), ('d', 86400)]

/-- Texts that state a limit, and its seconds: a plus sign or none, digits and a unit, with white
space around them. Neither the number of units nor that of seconds reaches `2 ^ 64`. -/
inductive States : List Char → Nat → Prop where
  | intro {before sign digits after : List Char} {unit : Char} {count factor : Nat} :
      Text.Blank before → (sign = [] ∨ sign = ['+']) → Text.Denotes digits count →
      (unit, factor) ∈ unitFactors → Text.Blank after →
      count < 2 ^ 64 → count * factor < 2 ^ 64 →
      States (before ++ (sign ++ digits ++ [unit]) ++ after) (count * factor)

private theorem unitSeconds?_eq_some_iff {unit : Char} {factor : Nat} :
    unitSeconds? unit = some factor ↔ (unit, factor) ∈ unitFactors := by
  unfold unitSeconds? unitFactors
  split <;> simp_all [eq_comm]

/-- A numeral with its unit has no white space at its ends. -/
theorem trimmed_statement {sign digits : List Char} {unit : Char} {count factor : Nat}
    (signed : sign = [] ∨ sign = ['+']) (denotes : Text.Denotes digits count)
    (isUnit : (unit, factor) ∈ unitFactors) : Text.Trimmed (sign ++ digits ++ [unit]) := by
  constructor
  · intro character starts
    rcases signed with rfl | rfl
    · obtain ⟨first, others, rfl⟩ := List.exists_cons_of_ne_nil denotes.filled
      obtain rfl : first = character := Option.some.inj starts
      refine Bool.eq_false_iff.mpr fun white => ?_
      have other := Text.isAsciiDigit_of_isWhiteSpace white
      exact Bool.false_ne_true (other.symm.trans (denotes.ascii first List.mem_cons_self))
    · obtain rfl : '+' = character := Option.some.inj starts
      decide
  · intro character ends
    rw [List.getLast?_concat] at ends
    obtain rfl : unit = character := Option.some.inj ends
    have solid : ∀ entry ∈ unitFactors, Text.isWhiteSpace entry.1 = false := by decide
    exact solid _ isUnit

theorem parse?_eq_some_iff {text : String} {duration : Duration} :
    parse? text = some duration ↔
      ∃ seconds, States text.toList seconds ∧ duration = ofSeconds seconds := by
  simp only [parse?, Option.bind_eq_bind, Option.bind_eq_some_iff, Text.natural?_eq_some_iff,
    Text.denotes_dropPlus_iff, unitSeconds?_eq_some_iff]
  constructor
  · rintro ⟨unit, last, count, ⟨⟨sign, digits, signed, numeral, denotes⟩, below⟩, factor, isUnit,
      result⟩
    split at result
    case isFalse => exact nomatch result
    case isTrue bounded =>
      obtain rfl := Option.some.inj result
      obtain ⟨before, after, blank, blank', whole⟩ := Text.exists_between_trim text.toList
      rw [← List.dropLast_append_getLast? unit last, numeral] at whole
      refine ⟨count * factor, ?_, rfl⟩
      rw [whole]
      exact .intro blank signed denotes isUnit blank' below bounded
  · rintro ⟨seconds, states, rfl⟩
    generalize whole : text.toList = characters at states
    cases states with
    | @intro before sign digits after unit count factor blank signed denotes isUnit blank' below
        bounded =>
        rw [Text.trim_between blank (trimmed_statement signed denotes isUnit) blank',
          List.getLast?_concat, List.dropLast_concat]
        refine ⟨unit, rfl, count, ⟨⟨sign, digits, signed, rfl, denotes⟩, below⟩, factor, isUnit, ?_⟩
        exact if_pos bounded

private theorem parse?_eq_none_iff {text : String} :
    parse? text = none ↔ ∀ seconds, ¬ States text.toList seconds := by
  rw [Option.eq_none_iff_forall_not_mem]
  constructor
  · intro unread seconds states
    exact unread _ (parse?_eq_some_iff.mpr ⟨seconds, states, rfl⟩)
  · intro unstated duration read
    obtain ⟨seconds, states, -⟩ := parse?_eq_some_iff.mp read
    exact unstated seconds states

/-! ## The cut in front of the unit -/

/-- As many bytes from the end as the last character has, a text can be cut. -/
theorem exists_position_of_getLast? {text : List Char} {last : Char}
    (ends : text.getLast? = some last) :
    ∃ position : (String.ofList text).Pos,
      position.offset.byteIdx = (String.ofList text).utf8ByteSize - last.utf8Size ∧
        position.Splits (String.ofList text.dropLast) (String.singleton last) := by
  have whole : String.ofList text = String.ofList text.dropLast ++ String.singleton last := by
    conv => lhs; rw [← List.dropLast_append_getLast? last ends]
    rw [String.ofList_append, String.singleton_eq_ofList]
  have size : (String.ofList text).utf8ByteSize =
      (String.ofList text.dropLast).utf8ByteSize + last.utf8Size := by
    rw [whole, String.utf8ByteSize_append, String.utf8ByteSize_singleton]
  refine ⟨⟨(String.ofList text.dropLast).rawEndPos, ?_⟩, ?_, ⟨whole, rfl⟩⟩
  · rw [String.Pos.Raw.isValid_iff_exists_append]
    exact ⟨_, _, whole, rfl⟩
  · rw [size, Nat.add_sub_cancel, String.byteIdx_rawEndPos]

/-! ## Settings -/

/-- What limit a setting gives: the one that its text states, and a default for any other text. -/
structure Governs (setting : String) (default limit : Duration) : Prop where
  stated : ∀ seconds, States setting.toList seconds → limit = ofSeconds seconds
  unstated : (∀ seconds, ¬ States setting.toList seconds) → limit = default

private theorem governs_getD (setting : String) (default : Duration) :
    Governs setting default ((parse? setting).getD default) where
  stated := by
    intro seconds states
    rw [parse?_eq_some_iff.mpr ⟨seconds, states, rfl⟩, Option.getD_some]
  unstated := by
    intro unstated
    rw [parse?_eq_none_iff.mpr unstated, Option.getD_none]

/-- A text is read exactly if it states a number of seconds, and as that many seconds. It is cut in
front of its last character, whatever the number of bytes that this one has. Where the text of a
setting states nothing, the limit is 30 seconds, and two minutes for listings. -/
theorem parse?_exact :
    (∀ (text : String) (duration : Duration), parse? text = some duration ↔
        ∃ seconds, States text.toList seconds ∧ duration = ofSeconds seconds) ∧
      (∀ text : String, parse? text = none ↔ ∀ seconds, ¬ States text.toList seconds) ∧
      (∀ (text : String) (unit : Char), (Text.trim text.toList).getLast? = some unit →
        ∃ position : (String.ofList (Text.trim text.toList)).Pos,
          position.offset.byteIdx =
              (String.ofList (Text.trim text.toList)).utf8ByteSize - unit.utf8Size ∧
            position.Splits (String.ofList (Text.trim text.toList).dropLast)
              (String.singleton unit)) ∧
      ∀ config : Config,
        Governs config.toolchain.commandTimeout (ofSeconds 30) config.commandLimit ∧
          Governs config.toolchain.listingTimeout (ofSeconds 120) config.listingLimit := by
  refine ⟨fun _ _ => parse?_eq_some_iff, fun _ => parse?_eq_none_iff,
    fun _ _ => exists_position_of_getLast?, fun config => ⟨?_, ?_⟩⟩
  · exact governs_getD config.toolchain.commandTimeout (ofSeconds 30)
  · exact governs_getD config.toolchain.listingTimeout (ofSeconds 120)

/-- A text that ends in a character of three bytes is cut in front of it and states nothing. -/
theorem parse?_exact_example :
    (Text.trim " 30秒".toList).getLast? = some '秒' ∧
      (∃ position : (String.ofList (Text.trim " 30秒".toList)).Pos,
        position.offset.byteIdx = 2 ∧ position.Splits "30" "秒") ∧
      (∀ seconds, ¬ States " 30秒".toList seconds) ∧
      ∀ config : Config, config.toolchain.commandTimeout = " 30秒" →
        config.commandLimit = ofSeconds 30 := by
  obtain ⟨-, unread, cut, settings⟩ := parse?_exact
  have ends : (Text.trim " 30秒".toList).getLast? = some '秒' := by decide +kernel
  have unstated : ∀ seconds, ¬ States " 30秒".toList seconds :=
    (unread " 30秒").mp (by decide +kernel)
  refine ⟨ends, ?_, unstated, ?_⟩
  · obtain ⟨position, offset, splits⟩ := cut " 30秒" '秒' ends
    have size : (String.ofList (Text.trim " 30秒".toList)).utf8ByteSize - '秒'.utf8Size = 2 := by
      decide +kernel
    have numeral : String.ofList (Text.trim " 30秒".toList).dropLast = "30" := by decide +kernel
    have unit : String.singleton '秒' = "秒" := by decide +kernel
    rw [numeral, unit] at splits
    exact ⟨position, offset.trans size, splits⟩
  · intro config setting
    exact (settings config).1.unstated (setting ▸ unstated)

/-- The largest number of seconds, and a count whose seconds are too many. -/
example : parse? "18446744073709551615s" = some (ofSeconds 18446744073709551615) ∧
    parse? "18446744073709551615m" = none := by decide +kernel

end Duration

end SymbolCache
