import Mathlib.Data.List.TakeWhile
import SymbolCache.Proofs.Json.RoundTrip
import SymbolCache.Snapshot

/-!
# Reading back snapshots

The text of a snapshot is read as that snapshot, whatever characters its names, paths, versions and
signatures have.
-/

set_option autoImplicit false

namespace SymbolCache

/-- Decoding undoes encoding for a list when it does so for every member. -/
theorem mapM_map_eq_some {α β : Type} {decode? : β → Option α} {encode : α → β} {list : List α}
    (undoes : ∀ value ∈ list, decode? (encode value) = some value) :
    (list.map encode).mapM decode? = some list := by
  induction list with
  | nil => rfl
  | cons value list ih =>
      obtain ⟨first, others⟩ := List.forall_mem_cons.mp undoes
      simp [first, ih others]

/-! ## Records -/

namespace Symbol

theorem plain_toJson (symbol : Symbol) (depth : Nat) : symbol.toJson.Plain (depth + 1) := by
  obtain ⟨name, packagePath, packageName, kind, isExported, signature⟩ := symbol
  cases signature <;> simp [toJson, Json.Plain, Json.PlainFields]

/-- The fields of a record have nothing to be put in order inside. -/
theorem sorted_toJson (symbol : Symbol) :
    ∃ fields, (fields.map Prod.fst).Nodup ∧ symbol.toJson = .object fields ∧
      symbol.toJson.sorted = .object (Json.sortFields fields) := by
  obtain ⟨name, packagePath, packageName, kind, isExported, signature⟩ := symbol
  cases signature with
  | none => exact ⟨_, by simp, rfl, rfl⟩
  | some signature => exact ⟨_, by simp, rfl, rfl⟩

/-- A record is decoded by its fields, in whatever order they stand. -/
theorem ofJson?_congr {left right : List (String × Json)}
    (same : ∀ name, (Json.object left).field? name = (Json.object right).field? name) :
    ofJson? (.object left) = ofJson? (.object right) := by
  simp only [ofJson?, same]

theorem ofJson?_sorted (symbol : Symbol) : ofJson? symbol.toJson.sorted = some symbol := by
  obtain ⟨fields, distinct, record, sorted⟩ := sorted_toJson symbol
  rw [sorted, ofJson?_congr (Json.field?_sortFields (Entries.distinct_of_nodup distinct)),
    ← record, ofJson?_toJson]

end Symbol

/-! ## Documents -/

namespace Snapshot

private theorem plain_textsToJson (texts : Std.ExtTreeMap String String) (depth : Nat) :
    (textsToJson texts).Plain (depth + 1) := by
  rw [textsToJson, Json.Plain, Json.plainFields_iff]
  intro field member
  obtain ⟨entry, _, rfl⟩ := List.mem_map.mp member
  simp [Json.Plain]

private theorem plain_symbolsToJson (symbols : Std.ExtTreeMap String (List Symbol)) (depth : Nat) :
    (symbolsToJson symbols).Plain (depth + 3) := by
  rw [symbolsToJson, Json.Plain, Json.plainFields_iff]
  intro field member
  obtain ⟨entry, _, rfl⟩ := List.mem_map.mp member
  rw [Json.Plain, Json.plainElements_iff]
  intro element inside
  obtain ⟨symbol, _, rfl⟩ := List.mem_map.mp inside
  exact symbol.plain_toJson depth

private theorem textsOfJson?_sorted (texts : Std.ExtTreeMap String String) :
    textsOfJson? (textsToJson texts).sorted = some texts := by
  have sorted : (textsToJson texts).sorted =
      .object (texts.toList.map fun entry => (entry.1, .string entry.2)) := by
    rw [textsToJson, Json.sorted, Json.sortedFields_eq_map, List.map_map,
      ← Json.sortFields_map_toList]
    rfl
  rw [sorted, textsOfJson?, mapM_map_eq_some]
  · exact congrArg some (Entries.ofList_toList texts)
  · intro entry _
    rfl

private theorem listOfJson?_sorted (texts : List String) :
    listOfJson? (Json.array (texts.map .string)).sorted = some texts := by
  rw [Json.sorted, Json.sortedElements_eq_map, List.map_map, listOfJson?]
  exact mapM_map_eq_some fun text _ => rfl

private theorem symbolsOfJson?_sorted (symbols : Std.ExtTreeMap String (List Symbol)) :
    symbolsOfJson? (symbolsToJson symbols).sorted = some symbols := by
  have sorted : (symbolsToJson symbols).sorted =
      .object (symbols.toList.map fun entry =>
        (entry.1, .array (entry.2.map fun symbol => symbol.toJson.sorted))) := by
    rw [symbolsToJson, Json.sorted, Json.sortedFields_eq_map, List.map_map,
      ← Json.sortFields_map_toList symbols fun list =>
        .array (list.map fun symbol => symbol.toJson.sorted)]
    congr 3
    funext entry
    simp [Json.sorted, Json.sortedElements_eq_map]
  have lists : ∀ list : List Symbol,
      symbolListOfJson? (.array (list.map fun symbol => symbol.toJson.sorted)) = some list :=
    fun list => mapM_map_eq_some fun symbol _ => symbol.ofJson?_sorted
  rw [sorted, symbolsOfJson?, mapM_map_eq_some]
  · exact congrArg some (Entries.ofList_toList symbols)
  · intro entry _
    exact congrArg (Option.map _) (lists entry.2)

structure Fits (snapshot : Snapshot) : Prop where
  schemaVersion : snapshot.schemaVersion < Nat.pow 2 32
  timestamp : snapshot.timestamp < Nat.pow 2 64

private theorem fits_capture (index : Index) (toolchainVersion : String) (time : Nat) :
    (capture index toolchainVersion time).Fits where
  schemaVersion := show currentSchema < Nat.pow 2 32 by decide
  timestamp := Nat.mod_lt _ (by decide)

variable {snapshot : Snapshot}

private theorem inRange_of_lt {value : Nat} (small : value < Nat.pow 2 64) :
    Json.InRange value := by
  constructor
  · have least : -(Nat.pow 2 63 : Int) ≤ 0 := by decide
    omega
  · exact_mod_cast small

theorem Fits.plain_toJson (fits : snapshot.Fits) : snapshot.toJson.Plain Json.maxDepth := by
  have schema : snapshot.schemaVersion < Nat.pow 2 64 :=
    Nat.lt_trans fits.schemaVersion (by decide)
  rw [toJson, show Json.maxDepth = 123 + 4 from rfl, Json.Plain, Json.plainFields_iff]
  simp only [List.forall_mem_cons, Json.Plain, true_and]
  refine ⟨inRange_of_lt schema, inRange_of_lt fits.timestamp, plain_textsToJson _ _, ?_,
    plain_symbolsToJson _ _, List.forall_mem_nil _⟩
  rw [Json.plainElements_iff]
  intro element member
  obtain ⟨text, _, rfl⟩ := List.mem_map.mp member
  simp [Json.Plain]

theorem field?_sorted_toJson (snapshot : Snapshot) (name : String) :
    snapshot.toJson.sorted.field? name = (snapshot.toJson.field? name).map Json.sorted :=
  Json.field?_sorted (by simp) name

theorem asNat?_sorted {bits value : Nat} (small : value < Nat.pow 2 bits) :
    (Json.integer value).sorted.asNat? bits = some value := by
  have inside : 0 ≤ (value : Int) ∧ (value : Int) < Nat.pow 2 bits :=
    ⟨Int.natCast_nonneg value, by exact_mod_cast small⟩
  rw [Json.sorted, Json.asNat?, if_pos inside, Int.toNat_natCast]

/-- A document is decoded field by field. The fields stand for themselves here, as their decoding
would otherwise be computed with bounds of 64 bits. -/
theorem ofJson?_eq_some {document version toolchain timestamp packages processed symbols : Json}
    (versionField : document.field? "version" = some version)
    (toolchainField : document.field? "goVersion" = some toolchain)
    (timestampField : document.field? "timestamp" = some timestamp)
    (packagesField : document.field? "packages" = some packages)
    (processedField : document.field? "processedPackages" = some processed)
    (symbolsField : document.field? "symbols" = some symbols)
    (versionValue : version.asNat? 32 = some snapshot.schemaVersion)
    (toolchainValue : toolchain.asString? = some snapshot.toolchainVersion)
    (timestampValue : timestamp.asNat? 64 = some snapshot.timestamp)
    (packagesValue : textsOfJson? packages = some snapshot.packages)
    (processedValue : listOfJson? processed = some snapshot.processedPackages)
    (symbolsValue : symbolsOfJson? symbols = some snapshot.symbols) :
    ofJson? document = some snapshot := by
  simp only [ofJson?, optionalField?, versionField, toolchainField, timestampField, packagesField,
    processedField, symbolsField, Option.bind_eq_bind, Option.bind_some, versionValue,
    toolchainValue, timestampValue, packagesValue, processedValue, symbolsValue]
  rfl

theorem Fits.ofJson?_sorted (fits : snapshot.Fits) :
    ofJson? snapshot.toJson.sorted = some snapshot := by
  have field : ∀ {name : String} {value : Json}, snapshot.toJson.field? name = some value →
      snapshot.toJson.sorted.field? name = some value.sorted := by
    intro name value found
    rw [field?_sorted_toJson, found, Option.map_some]
  exact ofJson?_eq_some (field rfl) (field rfl) (field rfl)
    (field rfl) (field rfl) (field rfl)
    (asNat?_sorted fits.schemaVersion) rfl (asNat?_sorted fits.timestamp) (textsOfJson?_sorted _)
    (listOfJson?_sorted _) (symbolsOfJson?_sorted _)

/-! ## Reading -/

private theorem checkSchema_sorted (current : snapshot.schemaVersion = currentSchema)
    (path : String) :
    checkSchema path snapshot.toJson.sorted = .ok () := by
  have version : snapshot.toJson.sorted.field? "version" =
      some (Json.integer snapshot.schemaVersion).sorted := field?_sorted_toJson snapshot _
  have small : snapshot.schemaVersion < Nat.pow 2 64 := by
    rw [current]
    decide
  rw [checkSchema, version, Option.bind_some, asNat?_sorted small]
  exact if_pos current

private theorem statedToolchain_sorted (snapshot : Snapshot) :
    statedToolchain snapshot.toJson.sorted = snapshot.toolchainVersion := by
  have toolchain : snapshot.toJson.sorted.field? "goVersion" =
      some (Json.string snapshot.toolchainVersion).sorted := field?_sorted_toJson snapshot _
  rw [statedToolchain, toolchain]
  rfl

private theorem trim_eq_cons {first : Char} (solid : Text.isWhiteSpace first = false)
    (rest : List Char) :
    (Text.trim (first :: rest)).isEmpty = false := by
  have kept : Text.trimStart (first :: rest) = first :: rest :=
    List.dropWhile_cons_of_neg (by simp [solid])
  rw [Text.trim, kept, Text.trimEnd, Text.trimEndWhere, List.isEmpty_eq_false_iff]
  intro empty
  rw [List.reverse_eq_nil_iff, List.dropWhile_eq_nil_iff] at empty
  have white := empty first (by simp)
  exact Bool.false_ne_true (solid.symm.trans white)

/-- The text of a snapshot of the current format is accepted for its own toolchain alone, and then
read as that snapshot. -/
theorem Fits.read_text (fits : snapshot.Fits) (current : snapshot.schemaVersion = currentSchema)
    (path toolchainVersion : String) :
    read path toolchainVersion snapshot.text =
      if snapshot.toolchainVersion = toolchainVersion then .ok snapshot
      else .error (.toolchainMismatch snapshot.toolchainVersion toolchainVersion) := by
  have filled : (Text.trim snapshot.text.toList).isEmpty = false := by
    rw [text, String.toList_ofList, toJson, Json.render, List.cons_append]
    exact trim_eq_cons (by decide) _
  have document : Json.read? snapshot.text = some snapshot.toJson.sorted :=
    Json.read?_render fits.plain_toJson
  rw [read, filled]
  simp only [Bool.false_eq_true, if_false, document, checkSchema_sorted current, checkToolchain,
    statedToolchain_sorted, fits.ofJson?_sorted]
  split
  · rfl
  · rfl

/-- What is written for an index is read as the snapshot of that index. -/
theorem read_capture (index : Index) (toolchainVersion path : String) (time : Nat) :
    read path toolchainVersion (capture index toolchainVersion time).text =
      .ok (capture index toolchainVersion time) := by
  rw [(fits_capture index toolchainVersion time).read_text rfl]
  exact if_pos rfl

theorem toolchain_of_read {index : Index} {stamp version path : String} {time : Nat}
    {snapshot : Snapshot}
    (accepted : read path version (capture index stamp time).text = .ok snapshot) :
    stamp = version := by
  rw [(fits_capture index stamp time).read_text rfl] at accepted
  by_contra different
  have refused : (capture index stamp time).toolchainVersion ≠ version := different
  rw [if_neg refused] at accepted
  cases accepted

end Snapshot

end SymbolCache
