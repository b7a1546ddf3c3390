import SymbolCache.Proofs.Index.Search
import SymbolCache.Proofs.Text.LowerCase

/-!
# Literal prefixes

A query without a package is compared with names in lower case, also where case matters. So it finds
the names that start with it literally, but for those in which it breaks a capital sigma.
-/

set_option autoImplicit false

namespace SymbolCache.Index

open Text (BreaksSigma)

variable {index : Index} {text : String}

theorem Query.ofText_of_undotted (undotted : '.' ∉ text.toList) :
    Query.ofText text = { qualifier := none, leading := text } := by
  have reads : Query.Reads { qualifier := none, leading := text } text := ⟨rfl, undotted⟩
  exact (Query.eq_ofText_of_reads reads).symm

/-- Lower-casing keeps what starts literally, unless a sigma is broken. -/
theorem startsLower_iff {name : String} (starts : text.toList <+: name.toList) :
    (Text.lowerCase text).toList <+: (Text.lowerCase name).toList ↔
      ¬ BreaksSigma text.toList name.toList := by
  rw [Text.breaksSigma_iff, and_iff_right starts, not_not, Text.lowerCase, Text.lowerCase,
    String.toList_ofList, String.toList_ofList]

theorem Query.seeks_undotted_iff (undotted : '.' ∉ text.toList) {caseSensitive : Bool}
    {symbol : Symbol} (starts : text.toList <+: symbol.name.toList) :
    (Query.ofText text).Seeks caseSensitive symbol ↔
      ¬ BreaksSigma text.toList symbol.name.toList := by
  rw [Query.ofText_of_undotted undotted, ← startsLower_iff starts]
  exact ⟨fun seeks => seeks.1.1, fun lower => ⟨⟨lower, fun _ => starts⟩, by simp [Query.Qualifies]⟩⟩

private theorem Query.seeks_undotted_caseSensitive_iff (undotted : '.' ∉ text.toList)
    {symbol : Symbol} :
    (Query.ofText text).Seeks true symbol ↔
      text.toList <+: symbol.name.toList ∧ ¬ BreaksSigma text.toList symbol.name.toList := by
  constructor
  · intro seeks
    have starts : text.toList <+: symbol.name.toList := by
      have leads := seeks.1
      rw [Query.ofText_of_undotted undotted] at leads
      exact leads.2 rfl
    exact ⟨starts, (Query.seeks_undotted_iff undotted starts).mp seeks⟩
  · rintro ⟨starts, kept⟩
    exact (Query.seeks_undotted_iff undotted starts).mpr kept

/-- The records of a name that starts with the text are all found, or none of them is. -/
theorem Filed.filter_find_prefix (filed : index.Filed) (undotted : '.' ∉ text.toList)
    (caseSensitive : Bool) (path : String) {name : String} (starts : text.toList <+: name.toList) :
    ((index.find caseSensitive text).filter fun symbol => position symbol = (path, name)) =
      if BreaksSigma text.toList name.toList then [] else index.records path name := by
  have seeks : ∀ symbol ∈ index.records path name,
      (Query.ofText text).Seeks caseSensitive symbol ↔
        ¬ BreaksSigma text.toList name.toList := by
    intro symbol member
    obtain rfl := filed.named name symbol (mem_records.mp member).1
    exact Query.seeks_undotted_iff undotted starts
  rw [filed.filter_find]
  split
  case isTrue broken =>
    rw [List.filter_eq_nil_iff]
    exact fun symbol member sought =>
      (seeks symbol member).mp (of_decide_eq_true sought) broken
  case isFalse kept =>
    exact List.filter_eq_self.mpr fun symbol member =>
      decide_eq_true ((seeks symbol member).mpr kept)

private theorem Filed.find_caseSensitive_perm (filed : index.Filed) (undotted : '.' ∉ text.toList) :
    (index.find true text).Perm (index.scan.filter fun symbol =>
      text.toList <+: symbol.name.toList ∧ ¬ BreaksSigma text.toList symbol.name.toList) := by
  have same : (index.scan.filter fun symbol => decide ((Query.ofText text).Seeks true symbol)) =
      index.scan.filter fun symbol =>
        text.toList <+: symbol.name.toList ∧ ¬ BreaksSigma text.toList symbol.name.toList :=
    List.filter_congr fun symbol _ =>
      decide_eq_decide.mpr (Query.seeks_undotted_caseSensitive_iff undotted)
  rw [← same]
  exact (filed.finds true text).exact

/-- A text without a dot finds all records of a name that starts with it, or none of them if it
breaks a sigma of the name; and where case matters, it finds nothing else. So what it finds is then
exactly what starts with it literally, if and only if it breaks a sigma of no stored name. -/
theorem Reachable.find_prefix (reachable : index.Reachable) (undotted : '.' ∉ text.toList) :
    (∀ name caseSensitive path, text.toList <+: name.toList →
      ((index.find caseSensitive text).filter fun symbol => position symbol = (path, name)) =
        if BreaksSigma text.toList name.toList then [] else index.records path name) ∧
      (index.find true text).Perm (index.scan.filter fun symbol =>
        text.toList <+: symbol.name.toList ∧ ¬ BreaksSigma text.toList symbol.name.toList) ∧
      ((index.find true text).Perm
          (index.scan.filter fun symbol => text.toList <+: symbol.name.toList) ↔
        ∀ name, index.listed name ≠ [] → ¬ BreaksSigma text.toList name.toList) := by
  have filed : index.Filed := reachable.consistent.toFiled
  have found := filed.find_caseSensitive_perm undotted
  refine ⟨fun name caseSensitive path starts =>
    filed.filter_find_prefix undotted caseSensitive path starts, found, ?_⟩
  constructor
  · intro all name filled broken
    obtain ⟨symbol, member⟩ := List.exists_mem_of_ne_nil _ filled
    obtain rfl := filed.named name symbol member
    have stored : symbol ∈ index.scan := filed.mem_scan.mpr (mem_records.mpr ⟨member, rfl⟩)
    have starts : text.toList <+: symbol.name.toList := (Text.breaksSigma_iff.mp broken).1
    have missed := found.mem_iff.mp
      (all.mem_iff.mpr (List.mem_filter.mpr ⟨stored, decide_eq_true starts⟩))
    exact (of_decide_eq_true (List.mem_filter.mp missed).2).2 broken
  · intro kept
    refine found.trans (List.Perm.of_eq (List.filter_congr fun symbol stored => ?_))
    have filled : index.listed symbol.name ≠ [] :=
      List.ne_nil_of_mem (mem_records.mp (filed.mem_scan.mp stored)).1
    exact decide_eq_decide.mpr (and_iff_left (kept symbol.name filled))

/-- An index with a name and a longer one, in which the sigma of the first is not final. -/
def sigmaIndex : Index :=
  empty.addAll [.declare "ΑΣΑ" (.ofImportPath "e.org/x") .func none,
    .declare "ΑΣ" (.ofImportPath "e.org/x") .func none]

theorem reachable_sigmaIndex : sigmaIndex.Reachable :=
  Reachable.empty.addAll _

theorem find_prefix_sigmaIndex :
    sigmaIndex.Reachable ∧ '.' ∉ "ΑΣ".toList ∧ '.' ∉ "Α".toList ∧
      (sigmaIndex.find true "ΑΣ").Perm
        [.declare "ΑΣ" (.ofImportPath "e.org/x") .func none] ∧
      (sigmaIndex.find true "Α").Perm
        [.declare "ΑΣ" (.ofImportPath "e.org/x") .func none,
          .declare "ΑΣΑ" (.ofImportPath "e.org/x") .func none] := by
  have undotted : '.' ∉ "ΑΣ".toList ∧ '.' ∉ "Α".toList := by decide
  obtain ⟨-, found, -⟩ := reachable_sigmaIndex.find_prefix undotted.1
  obtain ⟨-, -, exactly⟩ := reachable_sigmaIndex.find_prefix undotted.2
  have all := exactly.mpr fun name _ broken =>
    absurd (Text.sigma_mem_of_breaksSigma broken) (by decide)
  refine ⟨reachable_sigmaIndex, undotted.1, undotted.2, found.trans (.of_eq ?_),
    all.trans (.of_eq ?_)⟩
  · decide +kernel
  · decide +kernel

/-- A stored name that starts with a text literally, and that the text does not find. -/
theorem find_misses_sigma :
    sigmaIndex.Reachable ∧
      sigmaIndex.listed "ΑΣΑ" = [.declare "ΑΣΑ" (.ofImportPath "e.org/x") .func none] ∧
      "ΑΣ".toList <+: "ΑΣΑ".toList ∧ '.' ∉ "ΑΣ".toList ∧
      ∀ caseSensitive, sigmaIndex.find caseSensitive "ΑΣ" =
        [.declare "ΑΣ" (.ofImportPath "e.org/x") .func none] := by
  refine ⟨reachable_sigmaIndex, ?_⟩
  decide +kernel

/-! ## Longer queries -/

variable {character : Char}

theorem Query.ofText_push (undotted : character ≠ '.') :
    Query.ofText (text.push character) =
      { Query.ofText text with leading := (Query.ofText text).leading.push character } := by
  have reads := Query.reads_ofText text
  refine (Query.eq_ofText_of_reads ?_).symm
  generalize Query.ofText text = query at reads ⊢
  obtain ⟨qualifier, leading⟩ := query
  cases qualifier with
  | none =>
      obtain ⟨rfl, absent⟩ := reads
      refine ⟨rfl, ?_⟩
      simpa [undotted.symm] using absent
  | some qualifier =>
      obtain ⟨rfl, absent⟩ := reads
      refine ⟨?_, absent⟩
      simp [← String.toList_inj]

/-- A name that starts with a text and one more character starts with the text, unless the text has
a sigma. -/
theorem Query.seeks_of_push {query : Query} (plain : 'Σ' ∉ query.leading.toList)
    {caseSensitive : Bool} {symbol : Symbol}
    (seeks : Query.Seeks { query with leading := query.leading.push character } caseSensitive
      symbol) :
    query.Seeks caseSensitive symbol := by
  obtain ⟨⟨lower, exactly⟩, qualifies⟩ := seeks
  have starts : query.leading.toList <+: (query.leading.push character).toList := by
    rw [String.toList_push]
    exact List.prefix_append _ _
  have startsLower := (startsLower_iff starts).mpr fun broken =>
    plain (Text.sigma_mem_of_breaksSigma broken)
  exact ⟨⟨startsLower.trans lower, fun sensitive => starts.trans (exactly sensitive)⟩, qualifies⟩

/-- A longer query finds what is left of what the shorter one finds. -/
theorem Filed.find_push (filed : index.Filed) (undotted : character ≠ '.')
    (plain : 'Σ' ∉ (Query.ofText text).leading.toList) (caseSensitive : Bool) :
    index.find caseSensitive (text.push character) =
      (index.find caseSensitive text).filter fun symbol =>
        decide ((Query.ofText (text.push character)).Seeks caseSensitive symbol) := by
  have narrowed : ∀ symbol,
      (Query.ofText (text.push character)).Seeks caseSensitive symbol →
        (Query.ofText text).Seeks caseSensitive symbol := by
    intro symbol seeks
    rw [Query.ofText_push undotted] at seeks
    exact Query.seeks_of_push plain seeks
  rw [filed.find_eq_scan, filed.find_eq_scan, ← orders_position.mergeSort_filter,
    List.filter_filter]
  refine congrArg (List.mergeSort · symbolAtMost) (List.filter_congr fun symbol _ => ?_)
  rw [← Bool.decide_and, decide_eq_decide]
  exact ⟨fun seeks => ⟨seeks, narrowed symbol seeks⟩, And.left⟩

end SymbolCache.Index
