import Mathlib.Tactic.Common
import SymbolCache.Proofs.Snapshot.Restoration
import SymbolCache.Proofs.Text.Trimming

/-!
# Accepting snapshots

A content is accepted as a snapshot exactly if it decodes and both of its versions fit: what is
checked before the decoding refuses nothing else. An index is made of a snapshot exactly if every
record is exported and under its own name, and then it has the versions and the lists of the
snapshot.
-/

set_option autoImplicit false

namespace SymbolCache

/-! ## Blank texts -/

namespace Json

open Text (isWhiteSpace)

variable {text : List Char}

private theorem readNumber_of_blank (blank : ∀ character ∈ text, isWhiteSpace character = true) :
    readNumber text = none := by
  have digits : text.takeWhile Text.isAsciiDigit = [] := by
    cases text with
    | nil => rfl
    | cons first rest =>
        have other := Text.isAsciiDigit_of_isWhiteSpace (blank first List.mem_cons_self)
        rw [List.takeWhile_cons, other, if_neg Bool.false_ne_true]
  unfold readNumber
  split
  case h_1 => exact absurd (blank '-' List.mem_cons_self) (by decide)
  case h_2 =>
    rw [readUnsigned]
    unfold readWhole
    split
    case h_1 => exact absurd (blank '0' List.mem_cons_self) (by decide)
    case h_2 => simp [readSomeDigits, readDigits, digits]

private theorem readWord_of_blank (blank : ∀ character ∈ text, isWhiteSpace character = true) :
    readWord text = none := by
  unfold readWord
  split
  case h_1 => exact absurd (blank 'n' List.mem_cons_self) (by decide)
  case h_2 => exact absurd (blank 't' List.mem_cons_self) (by decide)
  case h_3 => exact absurd (blank 'f' List.mem_cons_self) (by decide)
  case h_4 => rfl

/-- White space stands for no value, also where it is not white space of JSON. -/
theorem readValue_of_blank (blank : ∀ character ∈ text, isWhiteSpace character = true)
    (fuel : Nat) : readValue fuel text = none := by
  have skipped : ∀ character ∈ skipBlank text, isWhiteSpace character = true :=
    fun character member => blank character ((List.dropWhile_sublist _).subset member)
  cases fuel with
  | zero => rw [readValue]
  | succ fuel =>
      rw [readValue]
      generalize skipBlank text = rest at skipped
      split
      case h_1 => exact absurd (skipped '"' List.mem_cons_self) (by decide)
      case h_2 => exact absurd (skipped '[' List.mem_cons_self) (by decide)
      case h_3 => exact absurd (skipped '{' List.mem_cons_self) (by decide)
      case h_4 => rw [readWord_of_blank skipped, readNumber_of_blank skipped, Option.map_none]

private theorem read?_of_blank {content : String}
    (blank : ∀ character ∈ content.toList, isWhiteSpace character = true) :
    read? content = none := by
  rw [read?, Syntax.read?, readValue_of_blank blank, Option.bind_none]

theorem asNat?_eq_some_iff {value : Json} {bits number : Nat} :
    value.asNat? bits = some number ↔ value = .integer number ∧ number < Nat.pow 2 bits := by
  cases value with
  | integer value =>
      simp only [asNat?, Json.integer.injEq]
      generalize Nat.pow 2 bits = bound
      split
      case isTrue inside =>
        rw [Option.some.injEq]
        omega
      case isFalse outside =>
        simp only [reduceCtorEq, false_iff]
        omega
  | _ => simp [asNat?]

private theorem asString?_eq_some_iff {value : Json} {text : String} :
    value.asString? = some text ↔ value = .string text := by
  cases value <;> simp [asString?]

end Json

namespace Snapshot

private theorem blank_of_trim {text : List Char} (empty : (Text.trim text).isEmpty = true) :
    ∀ character ∈ text, Text.isWhiteSpace character = true := by
  rw [List.isEmpty_iff, Text.trim, Text.trimEnd, Text.trimEndWhere, List.reverse_eq_nil_iff,
    List.dropWhile_eq_nil_iff] at empty
  intro character member
  rw [← List.takeWhile_append_dropWhile (p := Text.isWhiteSpace) (l := text)] at member
  rcases List.mem_append.mp member with leading | rest
  · exact List.mem_takeWhile_imp leading
  · exact empty character (List.mem_reverse.mpr rest)

/-! ## Reading -/

variable {document : Json} {snapshot : Snapshot}

/-- The two versions of a snapshot are fields of its document. -/
theorem header_of_ofJson? (decodes : ofJson? document = some snapshot) :
    document.field? "version" = some (.integer snapshot.schemaVersion) ∧
      document.field? "goVersion" = some (.string snapshot.toolchainVersion) := by
  simp only [ofJson?, Option.bind_eq_bind, Option.bind_eq_some_iff] at decodes
  obtain ⟨version, versionField, schemaVersion, versionValue, toolchain, toolchainField,
    toolchainVersion, toolchainValue, _, _, _, _, _, _, _, _, _, _, built⟩ := decodes
  obtain rfl := Option.some.inj built
  obtain ⟨rfl, _⟩ := Json.asNat?_eq_some_iff.mp versionValue
  obtain rfl := Json.asString?_eq_some_iff.mp toolchainValue
  exact ⟨versionField, toolchainField⟩

private theorem currentSchema_lt : currentSchema < Nat.pow 2 64 :=
  Nat.one_lt_two_pow (by decide)

private theorem checkSchema_eq_ok_iff (decodes : ofJson? document = some snapshot) (path : String) :
    checkSchema path document = .ok () ↔ snapshot.schemaVersion = currentSchema := by
  rw [checkSchema, (header_of_ofJson? decodes).1, Option.bind_some]
  cases stated : (Json.integer snapshot.schemaVersion).asNat? 64 with
  | none =>
      refine iff_of_false (by rintro ⟨⟩) fun same => ?_
      have value := Json.asNat?_eq_some_iff.mpr ⟨rfl, currentSchema_lt⟩
      rw [same, value] at stated
      cases stated
  | some found =>
      obtain ⟨same, _⟩ := Json.asNat?_eq_some_iff.mp stated
      have number : snapshot.schemaVersion = found := Int.ofNat_inj.mp (Json.integer.inj same)
      dsimp only
      rw [number]
      split
      case isTrue equal => exact iff_of_true rfl equal
      case isFalse different =>
        exact iff_of_false (by rintro ⟨⟩) different

private theorem checkToolchain_eq_ok_iff (decodes : ofJson? document = some snapshot)
    (toolchainVersion : String) :
    checkToolchain toolchainVersion document = .ok () ↔
      snapshot.toolchainVersion = toolchainVersion := by
  have stated : statedToolchain document = snapshot.toolchainVersion := by
    rw [statedToolchain, (header_of_ofJson? decodes).2]
    rfl
  rw [checkToolchain, stated]
  split
  case isTrue equal => exact iff_of_true rfl equal
  case isFalse different => exact iff_of_false (by rintro ⟨⟩) different

private theorem check_eq_ok_iff {check : Except Failure Unit}
    {next : Unit → Except Failure Snapshot} :
    check >>= next = .ok snapshot ↔ check = .ok () ∧ next () = .ok snapshot := by
  cases check with
  | error failure => exact iff_of_false (by rintro ⟨⟩) (by simp)
  | ok _ => exact (and_iff_right rfl).symm

/-- A content is accepted if it decodes and both versions fit. -/
theorem read_eq_ok_iff {path toolchainVersion content : String} :
    read path toolchainVersion content = .ok snapshot ↔
      (∃ document, Json.read? content = some document ∧ ofJson? document = some snapshot) ∧
        snapshot.schemaVersion = currentSchema ∧ snapshot.toolchainVersion = toolchainVersion := by
  rw [read]
  split
  case isTrue empty =>
    refine iff_of_false (by rintro ⟨⟩) ?_
    rintro ⟨⟨document, reads, _⟩, _⟩
    rw [Json.read?_of_blank (blank_of_trim empty)] at reads
    cases reads
  case isFalse =>
    cases reads : Json.read? content with
    | none => simp
    | some document =>
        dsimp only
        rw [check_eq_ok_iff, check_eq_ok_iff]
        cases decodes : ofJson? document with
        | none =>
            refine iff_of_false ?_ ?_
            · rintro ⟨_, _, accepted⟩
              cases accepted
            · rintro ⟨⟨_, same, other⟩, _⟩
              obtain rfl := Option.some.inj same
              rw [decodes] at other
              cases other
        | some decoded =>
            constructor
            · rintro ⟨schema, toolchain, same⟩
              obtain rfl := Except.ok.inj same
              exact ⟨⟨document, rfl, decodes⟩, (checkSchema_eq_ok_iff decodes path).mp schema,
                (checkToolchain_eq_ok_iff decodes _).mp toolchain⟩
            · rintro ⟨⟨_, same, other⟩, schema, toolchain⟩
              obtain rfl := Option.some.inj same
              obtain rfl := Option.some.inj (decodes.symm.trans other)
              exact ⟨(checkSchema_eq_ok_iff decodes path).mpr schema,
                (checkToolchain_eq_ok_iff decodes _).mpr toolchain, rfl⟩

/-! ## Restoring -/

def WellFiled (snapshot : Snapshot) : Prop :=
  ∀ (name : String) (list : List Symbol), snapshot.symbols[name]? = some list →
    ∀ symbol ∈ list, symbol.isExported = true ∧ symbol.name = name

private theorem symbolFault?_eq_none_iff {name : String} {symbol : Symbol} :
    symbolFault? name symbol = none ↔ symbol.isExported = true ∧ symbol.name = name := by
  unfold symbolFault?
  by_cases same : symbol.name = name <;> simp [same]

private theorem wellFiled_iff :
    snapshot.WellFiled ↔ ∀ entry ∈ snapshot.symbols.toList, ∀ symbol ∈ entry.2,
      symbolFault? entry.1 symbol = none := by
  constructor
  · intro wellFiled entry member symbol inside
    have found := Std.ExtTreeMap.mem_toList_iff_getElem?_eq_some.mp member
    exact symbolFault?_eq_none_iff.mpr (wellFiled entry.1 entry.2 found symbol inside)
  · intro sound name list found symbol inside
    have member := Std.ExtTreeMap.mem_toList_iff_getElem?_eq_some.mpr found
    exact symbolFault?_eq_none_iff.mp (sound (name, list) member symbol inside)

theorem exists_toIndex_iff : (∃ index, snapshot.toIndex = .ok index) ↔ snapshot.WellFiled := by
  rw [wellFiled_iff]
  constructor
  · rintro ⟨index, restores⟩
    exact (toIndex_eq_ok_iff.mp restores).1
  · intro sound
    exact ⟨_, toIndex_eq_ok_iff.mpr ⟨sound, rfl⟩⟩

theorem packages_of_toIndex {index : Index} (restores : snapshot.toIndex = .ok index) :
    index.packages = snapshot.packages := by
  obtain ⟨_, rfl⟩ := toIndex_eq_ok_iff.mp restores
  rw [Index.packages_addAll, packages_mergeVersions_empty]

/-- A restored index has the lists of the snapshot, without those that are empty. -/
theorem symbols_of_toIndex {index : Index} (restores : snapshot.toIndex = .ok index)
    (name : String) :
    index.symbols[name]? = snapshot.symbols[name]?.filter fun list => !list.isEmpty := by
  have wellFiled := exists_toIndex_iff.mp ⟨index, restores⟩
  have consistent := (reachable_of_toIndex restores).consistent
  obtain ⟨_, rfl⟩ := toIndex_eq_ok_iff.mp restores
  rw [consistent.getElem?_symbols, Index.listed_addAll, Index.listed_mergeVersions,
    Index.listed_empty, List.nil_append, Index.filter_flatMap_toList wellFiled]
  cases snapshot.symbols[name]? with
  | none => rfl
  | some list => cases list <;> simp [Option.filter]

theorem exists_list_of_toIndex {index : Index} (restores : snapshot.toIndex = .ok index)
    {name : String} {symbol : Symbol} (member : symbol ∈ index.listed name) :
    ∃ list, snapshot.symbols[name]? = some list ∧ symbol ∈ list := by
  rw [Index.listed_eq_getElem?, symbols_of_toIndex restores] at member
  cases found : snapshot.symbols[name]? with
  | none => simp [found] at member
  | some list =>
      refine ⟨list, rfl, ?_⟩
      rw [found, Option.filter] at member
      split at member
      · exact member
      · exact absurd member List.not_mem_nil

end Snapshot

end SymbolCache
