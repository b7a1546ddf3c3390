import Mathlib.Data.List.Nodup
import SymbolCache.Proofs.Index.Agreement
import SymbolCache.Proofs.Index.Changes
import SymbolCache.Proofs.Text.Parts
import SymbolCache.Query

/-!
# Searching and scanning

A query looks at the names whose lower-case forms lie in one stretch of an ordered map. It finds
what a scan of all records finds: the forms that start alike lie next to each other, and the maps of
an index agree.
-/

set_option autoImplicit false

namespace SymbolCache

namespace Index

/-! ## What a query asks for -/

/-- A query that a text is cut into: at its first dot, if it has one. -/
def Query.Reads (query : Query) (text : String) : Prop :=
  match query.qualifier with
  | some qualifier => text = qualifier ++ "." ++ query.leading ∧ '.' ∉ qualifier.toList
  | none => text = query.leading ∧ '.' ∉ text.toList

/-- A name starts as a query says: its lower-case form, and if case matters the name itself, too. -/
def Query.Leads (query : Query) (caseSensitive : Bool) (name : String) : Prop :=
  (Text.lowerCase query.leading).toList <+: (Text.lowerCase name).toList ∧
    (caseSensitive = true → query.leading.toList <+: name.toList)

def Query.Qualifies (query : Query) (symbol : Symbol) : Prop :=
  ∀ qualifier ∈ query.qualifier, symbol.kind ≠ .package ∧
    (symbol.packageName = qualifier ∨ ImportPath.IsLastElement qualifier symbol.packagePath)

def Query.Seeks (query : Query) (caseSensitive : Bool) (symbol : Symbol) : Prop :=
  query.Leads caseSensitive symbol.name ∧ query.Qualifies symbol

instance (query : Query) (caseSensitive : Bool) : DecidablePred (query.Leads caseSensitive) :=
  fun _ => inferInstanceAs (Decidable (_ ∧ _))

instance (query : Query) : DecidablePred query.Qualifies :=
  fun _ => inferInstanceAs (Decidable (∀ qualifier ∈ query.qualifier, _))

instance (query : Query) (caseSensitive : Bool) : DecidablePred (query.Seeks caseSensitive) :=
  fun _ => inferInstanceAs (Decidable (_ ∧ _))

theorem Query.reads_ofText (text : String) : (Query.ofText text).Reads text := by
  unfold Query.ofText
  by_cases dotted : '.' ∈ text.toList
  · obtain ⟨before, after, parts, absent⟩ := List.eq_append_cons_of_mem dotted
    rw [parts, Text.splitOnce_append absent]
    refine ⟨String.toList_inj.mp ?_, by simpa using absent⟩
    simp [parts]
  · rw [Text.splitOnce_of_not_mem dotted]
    exact ⟨rfl, dotted⟩

/-- A text is cut in one way only. -/
theorem Query.eq_ofText_of_reads {query : Query} {text : String} (reads : query.Reads text) :
    query = Query.ofText text := by
  obtain ⟨qualifier, leading⟩ := query
  cases qualifier with
  | none =>
      obtain ⟨rfl, absent⟩ := reads
      rw [Query.ofText, Text.splitOnce_of_not_mem absent]
  | some qualifier =>
      obtain ⟨rfl, absent⟩ := reads
      have parts : (qualifier ++ "." ++ leading).toList =
          qualifier.toList ++ '.' :: leading.toList := by simp
      rw [Query.ofText, parts, Text.splitOnce_append absent]
      simp

private theorem Query.admits_iff {query : Query} {symbol : Symbol} :
    query.admits symbol = true ↔ query.Qualifies symbol := by
  unfold Query.admits Query.Qualifies
  cases query.qualifier with
  | none => simp
  | some qualifier => simp [isOfPackage, ImportPath.endsIn_iff]

/-! ## The names that start alike -/

section

variable {α : Type} {list : List α} {keeps : α → Bool}

private theorem keeps_eq_false_of_onward {first : α}
    (onward : ∀ second ∈ list, keeps second = true →
    keeps first = true) (stops : keeps first = false) : ∀ second ∈ list, keeps second = false := by
  intro second member
  exact Bool.eq_false_iff.mpr fun keep => by simp [onward second member keep] at stops

private theorem takeWhile_eq_filter
    (closed : list.Pairwise fun first second => keeps second = true → keeps first = true) :
    list.takeWhile keeps = list.filter keeps := by
  induction list with
  | nil => rfl
  | cons first rest ih =>
      obtain ⟨onward, closedRest⟩ := List.pairwise_cons.mp closed
      cases kept : keeps first with
      | true => simp [kept, ih closedRest]
      | false =>
          have none := keeps_eq_false_of_onward onward kept
          rw [List.takeWhile_cons_of_neg (by simp [kept]), List.filter_cons_of_neg (by simp [kept]),
            List.filter_eq_nil_iff.mpr (by simpa using none)]

private theorem dropWhile_eq_filter
    (closed : list.Pairwise fun first second => keeps second = true → keeps first = true) :
    list.dropWhile keeps = list.filter fun element => !keeps element := by
  induction list with
  | nil => rfl
  | cons first rest ih =>
      obtain ⟨onward, closedRest⟩ := List.pairwise_cons.mp closed
      cases kept : keeps first with
      | true => simp [kept, ih closedRest]
      | false =>
          have none := keeps_eq_false_of_onward onward kept
          rw [List.dropWhile_cons_of_neg (by simp [kept]), List.filter_cons_of_pos (by simp [kept]),
            List.filter_eq_self.mpr (by simpa using none)]

end

def allNames (index : Index) : List String :=
  index.byLower.toList.flatMap fun entry => entry.2.toList

/-- Every name is under its lower-case form. -/
theorem Filed.lowerCase_of_mem {index : Index} (filed : index.Filed)
    {entry : String × Std.ExtTreeSet String compare} (member : entry ∈ index.byLower.toList)
    {name : String} (inSet : name ∈ entry.2.toList) : Text.lowerCase name = entry.1 := by
  refine ((filed.byLower entry.1 name).mp ?_).2
  rw [namesAt_of_mem_toList member]
  exact Std.ExtTreeSet.mem_toList.mp inSet

/-- Every name is listed once. -/
theorem Filed.nodup_allNames {index : Index} (filed : index.Filed) : index.allNames.Nodup := by
  have keys : index.byLower.toList.Pairwise fun first second => first.1 ≠ second.1 := by
    have distinct : (index.byLower.toList.map Prod.fst).Nodup := by
      rw [Std.ExtTreeMap.map_fst_toList_eq_keys]
      exact Std.ExtTreeMap.nodup_keys
    exact List.pairwise_map.mp distinct
  rw [allNames, List.nodup_flatMap]
  constructor
  · intro entry _
    refine Std.ExtTreeSet.distinct_toList.imp fun different same => different ?_
    exact Std.compare_eq_iff_eq.mpr same
  · refine keys.imp_of_mem ?_
    intro first second firstMember secondMember different name firstName secondName
    exact different ((filed.lowerCase_of_mem firstMember firstName).symm.trans
      (filed.lowerCase_of_mem secondMember secondName))

private theorem Filed.mem_allNames {index : Index} (filed : index.Filed) (name : String) :
    name ∈ index.allNames ↔ index.listed name ≠ [] := by
  rw [allNames, mem_flatMap_toList]
  constructor
  · rintro ⟨key, member⟩
    exact ((filed.byLower key name).mp member).1
  · intro filled
    exact ⟨Text.lowerCase name, (filed.byLower _ name).mpr ⟨filled, rfl⟩⟩

/-- The forms from a text on, up to the first that does not start with it, are all that do. -/
theorem stretch_eq_filter (names : Std.ExtTreeMap String (Std.ExtTreeSet String))
    (lower : String) :
    ((names.toList.dropWhile fun entry => decide (entry.1 < lower)).takeWhile fun entry =>
        Text.startsWith lower entry.1) =
      names.toList.filter fun entry => Text.startsWith lower entry.1 := by
  have ordered : names.toList.Pairwise fun first second => first.1 < second.1 := by
    refine (Std.ExtTreeMap.ordered_keys_toList (t := names)).imp fun before => ?_
    exact compareOfLessAndEq_eq_lt.mp before
  have above : (names.toList.dropWhile fun entry => decide (entry.1 < lower)) =
      names.toList.filter fun entry => !decide (entry.1 < lower) := by
    refine dropWhile_eq_filter (ordered.imp fun before below => ?_)
    rw [decide_eq_true_eq] at below ⊢
    exact String.lt_trans before below
  rw [above, takeWhile_eq_filter, List.filter_filter]
  · refine List.filter_congr fun entry _ => ?_
    cases starts : Text.startsWith lower entry.1 with
    | false => rfl
    | true => rw [decide_eq_false (Text.not_lt_of_startsWith starts)]; rfl
  · refine List.pairwise_filter.mpr (ordered.imp fun before atLeast _ starts => ?_)
    exact Text.startsWith_of_between (by simpa using atLeast) before starts

private theorem flatMap_filter {α β : Type} (list : List α) (keeps : α → Bool)
    (values : α → List β) :
    (list.filter keeps).flatMap values =
      list.flatMap fun element => if keeps element then values element else [] := by
  induction list with
  | nil => rfl
  | cons first rest ih => cases kept : keeps first <;> simp [kept, ih]

private theorem Query.leads_iff {query : Query} {caseSensitive : Bool} {name : String} :
    query.Leads caseSensitive name ↔
      Text.startsWith (Text.lowerCase query.leading) (Text.lowerCase name) = true ∧
        (!caseSensitive || Text.startsWith query.leading name) = true := by
  rw [Query.Leads, Text.startsWith_iff]
  cases caseSensitive <;> simp [Text.startsWith_iff]

/-- The names found are all that start as the query says. -/
theorem Filed.namesWithPrefix_eq {index : Index} (filed : index.Filed) (query : Query)
    (caseSensitive : Bool) :
    index.namesWithPrefix caseSensitive query.leading =
      index.allNames.filter fun name => decide (query.Leads caseSensitive name) := by
  rw [namesWithPrefix, stretch_eq_filter, flatMap_filter, allNames, List.filter_flatMap,
    List.filter_flatMap]
  refine List.flatMap_congr fun entry member => ?_
  have lower : ∀ name ∈ entry.2.toList, Text.lowerCase name = entry.1 :=
    fun _ => filed.lowerCase_of_mem member
  split
  case isTrue starts =>
    refine List.filter_congr fun name inSet => ?_
    rw [Bool.eq_iff_iff, decide_eq_true_iff, Query.leads_iff, lower name inSet]
    exact (and_iff_right starts).symm
  case isFalse other =>
    symm
    rw [List.filter_nil, List.filter_eq_nil_iff]
    intro name inSet
    rw [decide_eq_true_iff, Query.leads_iff, lower name inSet]
    exact fun leads => other leads.1

private theorem Filed.mem_namesWithPrefix {index : Index} (filed : index.Filed) (query : Query)
    (caseSensitive : Bool) (name : String) :
    name ∈ index.namesWithPrefix caseSensitive query.leading ↔
      index.listed name ≠ [] ∧ query.Leads caseSensitive name := by
  rw [filed.namesWithPrefix_eq, List.mem_filter, filed.mem_allNames, decide_eq_true_iff]

private theorem Filed.nodup_namesWithPrefix {index : Index} (filed : index.Filed) (query : Query)
    (caseSensitive : Bool) : (index.namesWithPrefix caseSensitive query.leading).Nodup := by
  rw [filed.namesWithPrefix_eq]
  exact filed.nodup_allNames.filter _

/-! ## The full scan -/

def scan (index : Index) : List Symbol :=
  index.symbols.toList.flatMap Prod.snd

private theorem Filed.isExported_of_mem_scan {index : Index} (filed : index.Filed) {symbol : Symbol}
    (member : symbol ∈ index.scan) : symbol.isExported = true := by
  obtain ⟨entry, inside, among⟩ := List.mem_flatMap.mp member
  have found := Std.ExtTreeMap.mem_toList_iff_getElem?_eq_some.mp inside
  exact (filed.own entry.1 entry.2 found symbol among).1

/-- The scan has the records of a package under a name in their order. -/
theorem Filed.filter_scan {index : Index} (filed : index.Filed) (path name : String) :
    index.scan.filter (fun symbol => position symbol = (path, name)) = index.records path name := by
  rw [records, listed_eq_getElem?, ← filter_flatMap_toList filed.own name, List.filter_filter]
  refine List.filter_congr fun symbol member => ?_
  rw [Bool.eq_iff_iff]
  simp [position, filed.isExported_of_mem_scan member]

theorem Filed.mem_scan {index : Index} (filed : index.Filed) {symbol : Symbol} :
    symbol ∈ index.scan ↔ symbol ∈ index.records symbol.packagePath symbol.name := by
  rw [← filed.filter_scan, List.mem_filter]
  simp [position]

/-- The packages by path are those with a record. -/
theorem Consistent.mem_keys_byPackage {index : Index} (consistent : index.Consistent)
    {path : String} :
    path ∈ index.byPackage.keys ↔ ∃ symbol ∈ index.scan, symbol.packagePath = path := by
  have present := consistent.represented.byPackage
  rw [Std.ExtTreeMap.mem_keys]
  constructor
  · intro member
    obtain ⟨names, found⟩ := Option.isSome_iff_exists.mp
      (Std.ExtTreeMap.mem_iff_isSome_getElem?.mp member)
    obtain ⟨name, inside⟩ : ∃ name, name ∈ names := by
      by_contra none
      exact present.filled path names found
        (Std.ExtTreeSet.ext_mem fun name => ⟨fun inside => absurd ⟨name, inside⟩ none, by simp⟩)
    obtain ⟨symbol, listed, owned⟩ := records_ne_nil_iff.mp
      ((consistent.byPackage path name).mp (by rwa [namesAt_of_getElem? found]))
    refine ⟨symbol, consistent.mem_scan.mpr (mem_records.mpr ⟨?_, rfl⟩), owned⟩
    rwa [consistent.named name symbol listed]
  · rintro ⟨symbol, member, rfl⟩
    obtain ⟨listed, -⟩ := mem_records.mp (consistent.mem_scan.mp member)
    have filled : index.listed symbol.name ≠ [] := List.ne_nil_of_mem listed
    refine present.present _ symbol.name ⟨index.listed symbol.name, ?_, symbol, listed, rfl⟩
    rw [consistent.getElem?_symbols, if_neg filled]

/-- Of the records of a package under a name, those are candidates for which the name is found. -/
theorem Filed.filter_candidates {index : Index} (filed : index.Filed) {names : List String}
    (distinct : names.Nodup) (path name : String) :
    (names.flatMap index.listed).filter (fun symbol => position symbol = (path, name)) =
      if name ∈ names then index.records path name else [] := by
  rw [List.filter_flatMap, ← flatMap_single distinct]
  refine List.flatMap_congr fun other _ => ?_
  rw [filed.filter_listed]
  split
  case isTrue same => rw [← same]
  case isFalse => rfl

/-- A query finds what a scan of all records finds, sorted. -/
theorem Filed.find_eq_scan {index : Index} (filed : index.Filed) (caseSensitive : Bool)
    (text : String) :
    index.find caseSensitive text =
      (index.scan.filter fun symbol =>
        decide ((Query.ofText text).Seeks caseSensitive symbol)).mergeSort symbolAtMost := by
  apply orders_position.mergeSort_eq_of_filter_eq
  rintro ⟨path, name⟩
  have candidates := filed.filter_candidates
    (filed.nodup_namesWithPrefix (Query.ofText text) caseSensitive) path name
  have own : ∀ symbol ∈ index.records path name, symbol.name = name :=
    fun symbol member => filed.named name symbol (mem_records.mp member).1
  have seeks : ∀ symbol ∈ index.records path name,
      (Query.ofText text).Seeks caseSensitive symbol ↔
        (Query.ofText text).Leads caseSensitive name ∧
          (Query.ofText text).admits symbol = true := by
    intro symbol member
    rw [Query.Seeks, own symbol member, Query.admits_iff]
  calc
    _ = ((List.flatMap index.listed _).filter fun symbol => position symbol = (path, name)).filter
          (Query.ofText text).admits := filter_comm _ _ _
    _ = (index.records path name).filter fun symbol =>
          decide ((Query.ofText text).Seeks caseSensitive symbol) := by
        rw [candidates]
        split
        case isTrue found =>
          have leads := ((filed.mem_namesWithPrefix _ _ _).mp found).2
          refine List.filter_congr fun symbol member => ?_
          rw [Bool.eq_iff_iff, decide_eq_true_iff, seeks symbol member, and_iff_right leads]
        case isFalse absent =>
          symm
          rw [List.filter_nil, List.filter_eq_nil_iff]
          intro symbol member sought
          refine absent ((filed.mem_namesWithPrefix _ _ _).mpr ⟨?_, ?_⟩)
          · exact List.ne_nil_of_mem (mem_records.mp member).1
          · exact ((seeks symbol member).mp (of_decide_eq_true sought)).1
    _ = (index.scan.filter fun symbol => position symbol = (path, name)).filter fun symbol =>
          decide ((Query.ofText text).Seeks caseSensitive symbol) := by
        rw [filed.filter_scan]
    _ = _ := filter_comm _ _ _

theorem Filed.mem_find {index : Index} (filed : index.Filed) {caseSensitive : Bool}
    {text : String} {symbol : Symbol} :
    symbol ∈ index.find caseSensitive text ↔
      symbol ∈ index.scan ∧ (Query.ofText text).Seeks caseSensitive symbol := by
  rw [filed.find_eq_scan, List.mem_mergeSort, List.mem_filter, decide_eq_true_eq]

/-- What a query is to find in an index: the records that it asks for, each as often as it is
filed, in ascending order of their import paths and then their names. Records of one package under
one name are in the order in which they are filed. -/
structure Finds (index : Index) (caseSensitive : Bool) (query : Query) (found : List Symbol) :
    Prop where
  exact : found.Perm (index.scan.filter fun symbol => decide (query.Seeks caseSensitive symbol))
  sorted : found.Pairwise fun first second =>
    first.packagePath < second.packagePath ∨
      first.packagePath = second.packagePath ∧ first.name ≤ second.name
  stored : ∀ path name,
    (found.filter fun symbol => symbol.packagePath = path ∧ symbol.name = name) =
      (index.listed name).filter fun symbol =>
        symbol.packagePath = path ∧ query.Seeks caseSensitive symbol

theorem symbolAtMost_iff {first second : Symbol} :
    symbolAtMost first second = true ↔
      first.packagePath < second.packagePath ∨
        first.packagePath = second.packagePath ∧ first.name ≤ second.name := by
  simp [symbolAtMost]

theorem Filed.filter_find {index : Index} (filed : index.Filed) (caseSensitive : Bool)
    (text path name : String) :
    (index.find caseSensitive text).filter (fun symbol => position symbol = (path, name)) =
      (index.records path name).filter fun symbol =>
        decide ((Query.ofText text).Seeks caseSensitive symbol) := by
  rw [filed.find_eq_scan, orders_position.filter_mergeSort, filter_comm, filed.filter_scan]

theorem Filed.finds {index : Index} (filed : index.Filed) (caseSensitive : Bool) (text : String) :
    index.Finds caseSensitive (Query.ofText text) (index.find caseSensitive text) where
  exact := by
    rw [filed.find_eq_scan]
    exact List.mergeSort_perm _ _
  sorted := by
    rw [filed.find_eq_scan]
    exact (List.pairwise_mergeSort orders_position.trans orders_position.total _).imp
      symbolAtMost_iff.mp
  stored path name := by
    have found := filed.filter_find caseSensitive text path name
    simp only [position, Prod.mk.injEq, records, List.filter_filter] at found
    rw [found]
    refine List.filter_congr fun symbol _ => ?_
    rw [Bool.eq_iff_iff]
    simp [and_comm]

/-- Indexes in which the query without any text finds the same have the same records. -/
theorem sameRecords_of_find {left right : Index} (leftFiled : left.Filed)
    (rightFiled : right.Filed) {caseSensitive : Bool}
    (same : left.find caseSensitive "" = right.find caseSensitive "") : SameRecords left right := by
  have everything : ∀ symbol, (Query.ofText "").Seeks caseSensitive symbol := by
    intro symbol
    have query : Query.ofText "" = { qualifier := none, leading := "" } := by decide +kernel
    have lower : Text.lowerCase "" = "" := by decide +kernel
    rw [query]
    refine ⟨⟨?_, fun _ => List.nil_prefix⟩, by simp [Query.Qualifies]⟩
    rw [lower]
    exact List.nil_prefix
  intro path name
  have records := leftFiled.filter_find caseSensitive "" path name
  rw [same, rightFiled.filter_find] at records
  simpa [everything] using records.symm

end Index

namespace Store

open Index

/-- Every search finds what a scan of all records finds, and shows the first of it up to the
limit. -/
theorem search_eq_scan (store : Store) (reachable : store.index.Reachable) (text : String) :
    ∃ query : Query, query.Reads text ∧
      (∀ caseSensitive,
        store.index.Finds caseSensitive query (store.index.find caseSensitive text)) ∧
      ∀ limit,
        (store.search limit text).symbols =
          (if limit = 0 then store.findSymbols text else (store.findSymbols text).take limit) ∧
        (store.search limit text).total = (store.findSymbols text).length ∧
        ((store.search limit text).truncated = true ↔
          (store.search limit text).symbols.length < (store.findSymbols text).length) := by
  refine ⟨.ofText text, Query.reads_ofText text,
    fun caseSensitive => reachable.consistent.finds caseSensitive text, fun limit => ?_⟩
  have shown : (store.search limit text).symbols =
      if limit = 0 then store.findSymbols text else (store.findSymbols text).take limit := by
    unfold search
    by_cases none : limit = 0
    · simp [none]
    · by_cases more : limit < (store.findSymbols text).length
      · simp [none, more, Nat.pos_of_ne_zero none]
      · simp [none, more, List.take_of_length_le (Nat.not_lt.mp more)]
  refine ⟨shown, rfl, ?_⟩
  rw [shown]
  by_cases none : limit = 0
  · simp [search, none]
  · simp only [search, none, if_false, List.length_take, decide_eq_true_eq, Bool.and_eq_true]
    omega

def sharingStore : Store :=
  let function (path name : String) : Symbol :=
    { (Symbol.declare name (.ofImportPath path) .func none) with isExported := true }
  { create "/work" {} with
    index := empty.addAll [function "lib.org/get" "GetAll", function "lib.org/b" "Get",
      function "lib.org/get" "Get", function "lib.org/b" "gET", function "lib.org/b" "Get"] }

theorem search_sharingStore :
    sharingStore.index.Reachable ∧
      ∃ query : Query, query.Reads "ge" ∧
        sharingStore.index.Finds true query (sharingStore.index.find true "ge") ∧
        sharingStore.index.Finds false query (sharingStore.index.find false "ge") ∧
        (sharingStore.search 2 "ge").symbols = (sharingStore.findSymbols "ge").take 2 := by
  have reachable : sharingStore.index.Reachable := Reachable.empty.addAll _
  obtain ⟨query, reads, finds, shows⟩ := search_eq_scan sharingStore reachable "ge"
  exact ⟨reachable, query, reads, finds true, finds false, (shows 2).1⟩

example :
    sharingStore.index.namesWithPrefix false "GET" = ["Get", "gET", "GetAll"] ∧
      sharingStore.index.namesWithPrefix true "Get" = ["Get", "GetAll"] := by
  decide +kernel

end Store

end SymbolCache
