import SymbolCache.Proofs.Editor.Cursor
import SymbolCache.Proofs.Editor.Identifiers
import SymbolCache.Proofs.Index.Prefixes

/-!
# Completion

Members of a package are offered unless the document imports a package of that name. What an
imported package is called is told by its import path alone, and what a query finds by the declared
name as well: members of an imported package are offered exactly where its path does not suggest
the name that it declares. What is offered while an identifier is typed is narrowed by each of its
characters.
-/

set_option autoImplicit false

namespace SymbolCache

namespace ImportPath

/-- An import path suggests the name of its package: as its last element, or as the name that is
assumed for it. -/
def Suggests (importPath name : String) : Prop :=
  IsLastElement name importPath ∨ assumedName importPath = name

end ImportPath

namespace Store

variable {store : Store}

/-! ## The import gate -/

def ImportsSuggesting (store : Store) (document name : String) : Prop :=
  ∃ path ∈ Imports.paths document, ImportPath.Suggests path name ∧
    ∃ symbol ∈ store.index.scan, symbol.packagePath = path

private theorem importsPackage_iff (consistent : store.index.Consistent) {document name : String} :
    store.importsPackage document name = true ↔ store.ImportsSuggesting document name := by
  unfold importsPackage ImportsSuggesting Index.pathsForName ImportPath.Suggests
  simp only [List.any_eq_true, List.mem_filter, consistent.mem_keys_byPackage, Bool.or_eq_true,
    ImportPath.endsIn_iff, beq_iff_eq, Std.ExtTreeSet.contains_iff_mem]
  constructor
  · rintro ⟨path, ⟨indexed, suggests⟩, imported⟩
    exact ⟨path, imported, suggests, indexed⟩
  · rintro ⟨path, imported, suggests, indexed⟩
    exact ⟨path, ⟨indexed, suggests⟩, imported⟩

/-- Without a limit all that is found is shown, and with one nothing else. -/
theorem exists_mem_search {text : String} {symbol : Symbol} :
    (∃ limit, symbol ∈ (store.search limit text).symbols) ↔ symbol ∈ store.findSymbols text := by
  constructor
  · rintro ⟨limit, shown⟩
    simp only [search] at shown
    split at shown
    · exact List.mem_of_mem_take shown
    · exact shown
  · intro found
    exact ⟨0, by simpa [search] using found⟩

/-- What is offered for an identifier with a qualifier is found, as long as members are offered. -/
theorem exists_mem_complete {document line identifier qualifier selector : String}
    (typed : Cursor.identifier? line = some identifier)
    (qualified : Cursor.splitQualified? identifier = some (qualifier, selector))
    {symbol : Symbol} :
    (∃ limit, symbol ∈ (store.complete limit document line).symbols) ↔
      (Cursor.isInCommentOrString line = false ∧ store.offersMembers document qualifier = true) ∧
        symbol ∈ store.findSymbols identifier := by
  unfold complete
  cases Cursor.isInCommentOrString line with
  | true => simp [emptyAnswer]
  | false =>
      simp only [typed, qualified]
      cases store.offersMembers document qualifier with
      | true => simp [exists_mem_search]
      | false => simp [emptyAnswer]

/-! ## Imported packages -/

/-- Members of an imported package are offered, up to whatever limit, exactly if it declares the
qualifier as its name and its path does not suggest it; if, besides, no other imported package has
a path that does, the cursor is in code and the setting is on. Of such a package what is found is
offered. -/
theorem imported_of_complete (store : Store) (reachable : store.index.Reachable)
    {document line identifier qualifier selector : String}
    (typed : Cursor.identifier? line = some identifier)
    (qualified : Cursor.splitQualified? identifier = some (qualifier, selector))
    (symbol : Symbol) :
    (∃ limit, symbol ∈ (store.complete limit document line).symbols) ∧
        symbol.packagePath ∈ Imports.paths document ↔
      (Cursor.isInCommentOrString line = false ∧
        store.config.completion.provideForSpecifiedPackages = true ∧
        ¬ store.ImportsSuggesting document qualifier) ∧
      (symbol ∈ store.index.scan ∧ symbol.kind ≠ .package ∧
        Index.Query.Leads ⟨some qualifier, selector⟩ store.config.completion.caseSensitive
          symbol.name) ∧
      symbol.packagePath ∈ Imports.paths document ∧
      symbol.packageName = qualifier ∧ ¬ ImportPath.Suggests symbol.packagePath qualifier := by
  have consistent := reachable.consistent
  have query : Index.Query.ofText identifier = ⟨some qualifier, selector⟩ := by
    obtain ⟨⟨before, after⟩, cut, same⟩ := Option.map_eq_some_iff.mp qualified
    obtain ⟨rfl, rfl⟩ := Prod.mk.inj same
    rw [Index.Query.ofText, cut]
  have found : symbol ∈ store.findSymbols identifier ↔ symbol ∈ store.index.scan ∧
      (Index.Query.mk (some qualifier) selector).Seeks store.config.completion.caseSensitive
        symbol := by
    rw [findSymbols, consistent.mem_find, query]
  have offers : store.offersMembers document qualifier = true ↔
      ¬ store.ImportsSuggesting document qualifier ∧
        store.config.completion.provideForSpecifiedPackages = true := by
    rw [offersMembers, Bool.and_eq_true, Bool.not_eq_true', ← Bool.not_eq_true,
      importsPackage_iff consistent]
  rw [exists_mem_complete typed qualified, offers, found]
  constructor
  · rintro ⟨⟨⟨code, unimported, setting⟩, filed, leads, qualifies⟩, imported⟩
    obtain ⟨proper, named⟩ := qualifies qualifier rfl
    have unsuggested : ¬ ImportPath.Suggests symbol.packagePath qualifier := fun suggests =>
      unimported ⟨symbol.packagePath, imported, suggests, symbol, filed, rfl⟩
    refine ⟨⟨code, setting, unimported⟩, ⟨filed, proper, leads⟩, imported, ?_, unsuggested⟩
    exact named.resolve_right fun last => unsuggested (.inl last)
  · rintro ⟨⟨code, setting, unimported⟩, ⟨filed, proper, leads⟩, imported, named, -⟩
    refine ⟨⟨⟨code, unimported, setting⟩, filed, leads, ?_⟩, imported⟩
    intro other asked
    obtain rfl : qualifier = other := Option.some.inj asked
    exact ⟨proper, .inl named⟩

/-! ### A package whose path suggests another name -/

def renamedPackage : Package where
  importPath := "lib.org/go.uuid"
  name := "uuid"
  standard := false

def renamedMember : Symbol :=
  .declare "New" renamedPackage .func (some "func() int")

def renamedStore : Store :=
  { create "/work" {} with
    index := Index.empty.replacePackage "lib.org/go.uuid" "v1.0.0"
      [.declare "uuid" renamedPackage .package none, renamedMember] }

def importingDocument : String :=
  "package main\n\nimport \"lib.org/go.uuid\"\n"

/-- A member of the package is offered although the document imports it. -/
theorem completes_imported_package :
    renamedStore.index.Reachable ∧ Cursor.identifier? "\tid := uuid.N" = some "uuid.N" ∧
      Cursor.splitQualified? "uuid.N" = some ("uuid", "N") ∧
      renamedMember ∈ (renamedStore.complete 100 importingDocument "\tid := uuid.N").symbols ∧
        renamedMember.packagePath ∈ Imports.paths importingDocument := by
  refine ⟨Index.Reachable.empty.replacePackage .., by decide +kernel, by decide +kernel, ?_⟩
  decide +kernel

theorem imported_of_complete_example :
    renamedStore.index.Reachable ∧ Cursor.identifier? "\tid := uuid.N" = some "uuid.N" ∧
      Cursor.splitQualified? "uuid.N" = some ("uuid", "N") ∧
      renamedMember ∈ (renamedStore.complete 100 importingDocument "\tid := uuid.N").symbols ∧
      renamedMember.packageName = "uuid" ∧
      ¬ ImportPath.Suggests renamedMember.packagePath "uuid" := by
  have reachable : renamedStore.index.Reachable := Index.Reachable.empty.replacePackage ..
  have typed : Cursor.identifier? "\tid := uuid.N" = some "uuid.N" := by decide +kernel
  have qualified : Cursor.splitQualified? "uuid.N" = some ("uuid", "N") := by decide +kernel
  have offered : renamedMember ∈
      (renamedStore.complete 100 importingDocument "\tid := uuid.N").symbols := by decide +kernel
  have imported : renamedMember.packagePath ∈ Imports.paths importingDocument := by
    decide +kernel
  obtain ⟨-, -, -, named, unsuggested⟩ :=
    (imported_of_complete renamedStore reachable typed qualified renamedMember).mp
      ⟨⟨100, offered⟩, imported⟩
  exact ⟨reachable, typed, qualified, offered, named, unsuggested⟩

end Store

/-! ## Completion while typing -/

namespace Cursor

open Index (Query)

private theorem splitQualified?_eq (identifier : String) :
    splitQualified? identifier = (Query.ofText identifier).qualifier.map fun qualifier =>
      (qualifier, (Query.ofText identifier).leading) := by
  unfold splitQualified? Query.ofText
  cases Text.splitOnce '.' identifier.toList <;> rfl

/-- What an identifier asks for is the start of an ASCII word. -/
theorem word_of_mem_leading {line identifier : String}
    (typed : identifier? line = some identifier) :
    ∀ character ∈ (Query.ofText identifier).leading.toList,
      Text.isAsciiWord character = true := by
  have form := (identifier?_eq_some_iff.mp typed).2.form
  generalize whole : identifier.toList = text at form
  cases form with
  | plain word =>
      rw [Query.ofText_of_undotted (whole ▸ word.undotted)]
      exact whole ▸ word
  | @qualified qualifier selector word _ word' =>
      rw [Query.ofText, whole, Text.splitOnce_append word.undotted, String.toList_ofList]
      exact word'

end Cursor

namespace Store

open Index (Query)

variable {store : Store}

/-- If an identifier has a qualifier, members of the package of that name are offered. -/
def Offers (store : Store) (document identifier : String) : Prop :=
  ∀ qualifier ∈ (Query.ofText identifier).qualifier,
    store.offersMembers document qualifier = true

instance (document identifier : String) : Decidable (store.Offers document identifier) :=
  inferInstanceAs (Decidable (∀ qualifier ∈ (Query.ofText identifier).qualifier, _))

private theorem symbols_search (text : String) :
    (store.search 0 text).symbols = store.findSymbols text := by
  simp [search]

private theorem symbols_complete {document line identifier : String}
    (typed : Cursor.identifier? line = some identifier) :
    (store.complete 0 document line).symbols =
      if Cursor.isInCommentOrString line = false ∧ store.Offers document identifier then
        store.findSymbols identifier
      else [] := by
  unfold complete
  cases Cursor.isInCommentOrString line with
  | true => simp [emptyAnswer]
  | false =>
      simp only [typed, Cursor.splitQualified?_eq]
      cases named : (Query.ofText identifier).qualifier with
      | none => simp [Offers, named, symbols_search]
      | some qualifier =>
          cases offered : store.offersMembers document qualifier <;>
            simp [Offers, named, offered, symbols_search, emptyAnswer]

/-- One more character of the identifier that is being typed leaves out some of the symbols that are
offered without a limit, and adds none: the others are offered as often as before and in the same
order. -/
theorem complete_narrows (store : Store) (reachable : store.index.Reachable) (document : String)
    {line identifier : String} (typed : Cursor.identifier? line = some identifier)
    {character : Char} (word : Text.isAsciiWord character = true) :
    (store.complete 0 document (line.push character)).symbols.Sublist
      (store.complete 0 document line).symbols := by
  have undotted : character ≠ '.' := by
    rintro rfl
    exact absurd word (by decide)
  have plain : 'Σ' ∉ (Query.ofText identifier).leading.toList := fun member =>
    absurd (Cursor.word_of_mem_leading typed 'Σ' member) (by decide)
  have offers : store.Offers document (identifier.push character) ↔
      store.Offers document identifier := by
    rw [Offers, Offers, Query.ofText_push undotted]
  rw [symbols_complete typed, symbols_complete (Cursor.identifier?_push typed word),
    Cursor.isInCommentOrString_push line word]
  simp only [offers]
  split
  · rw [findSymbols, reachable.consistent.find_push undotted plain]
    exact List.filter_sublist
  · exact List.Sublist.refl _

/-- A member that is offered behind its qualifier is among those offered right after the dot. -/
theorem complete_narrows_example :
    renamedStore.index.Reachable ∧
      Cursor.identifier? "\tid := uuid." = some "uuid." ∧ Text.isAsciiWord 'N' = true ∧
      renamedMember ∈
        (renamedStore.complete 0 "package main\n" ("\tid := uuid.".push 'N')).symbols ∧
      renamedMember ∈ (renamedStore.complete 0 "package main\n" "\tid := uuid.").symbols := by
  have reachable : renamedStore.index.Reachable := Index.Reachable.empty.replacePackage ..
  have typed : Cursor.identifier? "\tid := uuid." = some "uuid." := by decide +kernel
  have word : Text.isAsciiWord 'N' = true := by decide
  have offered : renamedMember ∈
      (renamedStore.complete 0 "package main\n" ("\tid := uuid.".push 'N')).symbols := by
    decide +kernel
  refine ⟨reachable, typed, word, offered, ?_⟩
  exact (complete_narrows renamedStore reachable "package main\n" typed word).subset offered

end Store

end SymbolCache
