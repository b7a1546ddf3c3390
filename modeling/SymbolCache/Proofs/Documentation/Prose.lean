import SymbolCache.Extraction
import SymbolCache.Proofs.Documentation.Groups

/-!
# Package comments

The documentation of a package starts with its clause and its comment; the sections come after it.
The comment is not indented, and the reader knows nothing of comments: a line of one that starts
with a keyword is read like any declaration, and it can open a group that reaches into the sections.
-/

set_option autoImplicit false

namespace SymbolCache.Documentation

open Layout Extraction

/-! ## Pages -/

def sectionHeaders : List (List Char) :=
  ["CONSTANTS".toList, "VARIABLES".toList, "FUNCTIONS".toList, "TYPES".toList]

def endLines (lines : List (List Char)) : List Char :=
  lines.flatMap fun line => line ++ ['\n']

structure Comment where
  lines : List (List Char)
  oneLine : ∀ line ∈ lines, '\n' ∉ line
  noHeader : ∀ line ∈ lines, Text.dropCarriageReturn line ∉ sectionHeaders

structure Page where
  clause : List Char
  sections : List Char
  isClause : "package ".toList <+: clause
  oneLine : '\n' ∉ clause
  starts : ∃ header ∈ sectionHeaders, (Text.lines sections).head? = some header

def Page.text (page : Page) (comment : Comment) : String :=
  String.ofList (endLines (page.clause :: comment.lines) ++ page.sections)

private theorem lines_append_cons {line : List Char} (oneLine : '\n' ∉ line) (rest : List Char) :
    Text.lines (line ++ '\n' :: rest) = Text.dropCarriageReturn line :: Text.lines rest := by
  rw [Text.lines_append, Text.split_of_not_mem oneLine, List.map_singleton, List.singleton_append]

private theorem lines_endLines {lines : List (List Char)} (oneLine : ∀ line ∈ lines, '\n' ∉ line)
    (rest : List Char) :
    Text.lines (endLines lines ++ rest) =
      lines.map Text.dropCarriageReturn ++ Text.lines rest := by
  induction lines with
  | nil => rfl
  | cons line lines ih =>
      obtain ⟨first, others⟩ := List.forall_mem_cons.mp oneLine
      have parts : endLines (line :: lines) ++ rest =
          line ++ '\n' :: (endLines lines ++ rest) := by
        simp [endLines]
      rw [parts, lines_append_cons first, ih others, List.map_cons, List.cons_append]

/-! ## What a comment is read as -/

def Comment.leaves (comment : Comment) : Option SymbolKind :=
  groupAfter ofReader none comment.lines

def Comment.declared (comment : Comment) : List Declaration :=
  readLines none comment.lines

theorem readLines_append (group : Option SymbolKind) (before after : List (List Char)) :
    readLines group (before ++ after) =
      readLines group before ++ readLines (groupAfter ofReader group before) after := by
  induction before generalizing group with
  | nil => cases group <;> rfl
  | cons line before ih =>
      have step : ∀ lines, readLines group (line :: lines) =
          (step ofReader group line).1 ++ readLines (step ofReader group line).2 lines := by
        intro lines
        rw [readLines_eq_steps, readLines_eq_steps, steps, List.flatMap_cons]
      rw [List.cons_append, step, step, ih, List.append_assoc]
      rfl

private theorem readLines_map_append (group : Option SymbolKind) (before after : List (List Char)) :
    readLines group (before.map Text.dropCarriageReturn ++ after) =
      readLines group (before ++ after) := by
  rw [readLines_append, ← readLines_map_dropCarriageReturn _ after, ← readLines_append,
    ← List.map_append, readLines_map_dropCarriageReturn]

private theorem isProse_clause {clause : List Char} (isClause : "package ".toList <+: clause) :
    IsProse clause := by
  obtain ⟨rest, rfl⟩ := isClause
  exact isProse_cons (by decide) _

private theorem declarations_page (page : Page) (comment : Comment) :
    declarations (page.text comment) =
      comment.declared ++ readLines comment.leaves (Text.lines page.sections) := by
  have oneLine : ∀ line ∈ page.clause :: comment.lines, '\n' ∉ line :=
    List.forall_mem_cons.mpr ⟨page.oneLine, comment.oneLine⟩
  rw [declarations, Page.text, String.toList_ofList, lines_endLines oneLine, readLines_map_append,
    List.cons_append, readLines_of_declares (isProse_clause page.isClause).readLine_eq,
    List.nil_append, readLines_append]
  rfl

/-- Lines that do not start with a keyword leave no group open. -/
theorem groupAfter_prose {lines : List (List Char)} (prose : ∀ line ∈ lines, IsProse line) :
    groupAfter ofReader none lines = none := by
  induction lines with
  | nil => rfl
  | cons line lines ih =>
      obtain ⟨first, others⟩ := List.forall_mem_cons.mp prose
      rw [groupAfter, List.foldl_cons, step, first.readLine_eq]
      exact ih others

private theorem readLines_prose {lines : List (List Char)} (prose : ∀ line ∈ lines, IsProse line) :
    readLines none lines = [] := by
  induction lines with
  | nil => rfl
  | cons line lines ih =>
      obtain ⟨first, others⟩ := List.forall_mem_cons.mp prose
      rw [readLines_of_declares first.readLine_eq, ih others, List.append_nil]

/-! ## Symbols -/

def exported (package : Package) (declarations : List Declaration) : List Symbol :=
  (declarations.map fun declaration =>
    Symbol.declare declaration.name package declaration.kind declaration.signature).filter
      Symbol.isExported

private theorem exported_append (package : Package) (first second : List Declaration) :
    exported package (first ++ second) = exported package first ++ exported package second := by
  rw [exported, List.map_append, List.filter_append]
  rfl

def extracted {σ : Type} (toolchain : Toolchain) (package : Package) (now : Job.Running σ)
    (text : String) : List Symbol :=
  ((extract toolchain package).run (fun _ _ => .ok text) now).1

section

variable {σ : Type} (toolchain : Toolchain) (package : Package) (now : Job.Running σ)

private theorem extracted_eq (text : String) :
    extracted toolchain package now text =
      packageSymbol package :: exported package (declarations text) :=
  rfl

theorem extracted_page (page : Page) (comment : Comment) :
    extracted toolchain package now (page.text comment) =
      packageSymbol package :: (exported package comment.declared ++
        exported package (readLines comment.leaves (Text.lines page.sections))) := by
  rw [extracted_eq, declarations_page, exported_append]

/-- No page tells one comment from the other. -/
def Interchangeable (first second : Comment) : Prop :=
  ∀ page : Page, extracted toolchain package now (page.text first) =
    extracted toolchain package now (page.text second)

def Page.ofSections (sections : List Char)
    (starts : ∃ header ∈ sectionHeaders, (Text.lines sections).head? = some header) : Page where
  clause := "package p".toList
  sections
  isClause := by decide
  oneLine := by decide
  starts

def barePage : Page :=
  .ofSections "TYPES".toList ⟨"TYPES".toList, by decide, by decide +kernel⟩

def groupPage : Page :=
  .ofSections "TYPES\n\tA".toList ⟨"TYPES".toList, by decide, by decide +kernel⟩

private theorem readLines_barePage (group : Option SymbolKind) :
    readLines group (Text.lines barePage.sections) = [] := by
  have lines : Text.lines barePage.sections = ["TYPES".toList] := by decide +kernel
  rw [lines]
  cases group with
  | none => rfl
  | some kind => rfl

private theorem kind_groupPage (group : Option SymbolKind) :
    (exported package (readLines group (Text.lines groupPage.sections))).head?.map Symbol.kind =
      group := by
  have lines : Text.lines groupPage.sections = ["TYPES".toList, "\tA".toList] := by decide +kernel
  have isExported : Symbol.isExportedName "A" = true := by decide +kernel
  cases group with
  | none => rw [lines]; rfl
  | some kind =>
      have declares : readLines (some kind) ["TYPES".toList, "\tA".toList] =
          [⟨"A", kind, none⟩] := by
        cases kind <;> decide +kernel
      rw [lines, declares]
      simp [exported, Symbol.declare, isExported]

/-- Two comments are interchangeable exactly if the same symbols are read from them and they leave
the same group open. -/
theorem interchangeable_iff (first second : Comment) :
    Interchangeable toolchain package now first second ↔
      exported package first.declared = exported package second.declared ∧
        first.leaves = second.leaves := by
  constructor
  · intro same
    have declared : exported package first.declared = exported package second.declared := by
      have bare := same barePage
      rw [extracted_page, extracted_page, readLines_barePage, readLines_barePage] at bare
      simpa [exported] using bare
    refine ⟨declared, ?_⟩
    have group := same groupPage
    rw [extracted_page, extracted_page, declared] at group
    have members := List.append_cancel_left (List.cons.inj group).2
    rw [← kind_groupPage package first.leaves, members, kind_groupPage]
  · rintro ⟨declared, leaves⟩ page
    rw [extracted_page, extracted_page, declared, leaves]

/-- From a page the package gets what its comment declares, and what its sections declare in the
group that the comment leaves open. So two comments can stand for each other in every page exactly
if both give the same symbols and leave the same group open, and a comment of which no line starts
with a keyword declares nothing. -/
theorem extracted_with_comments (first second : Comment) :
    (∀ page : Page, extracted toolchain package now (page.text first) =
        packageSymbol package :: (exported package first.declared ++
          exported package (readLines first.leaves (Text.lines page.sections)))) ∧
      (Interchangeable toolchain package now first second ↔
        exported package first.declared = exported package second.declared ∧
          first.leaves = second.leaves) ∧
      ((∀ line ∈ first.lines, IsProse line) →
        ∀ page : Page, extracted toolchain package now (page.text first) =
          packageSymbol package ::
            exported package (readLines none (Text.lines page.sections))) := by
  refine ⟨fun page => extracted_page toolchain package now page first,
    interchangeable_iff toolchain package now first second, fun prose page => ?_⟩
  rw [extracted_page, Comment.declared, readLines_prose prose, Comment.leaves,
    groupAfter_prose prose]
  rfl

end

def instants : Comment where
  lines := ["".toList, "Package c converts between an instant and the type Time".toList,
    "of the standard library.".toList, "".toList]
  oneLine := by decide +kernel
  noHeader := by decide +kernel

def instantsWrapped : Comment where
  lines := ["".toList, "Package c converts between an instant and the".toList,
    "type Time of the standard library.".toList, "".toList]
  oneLine := by decide +kernel
  noHeader := by decide +kernel

def instantsListed : Comment where
  lines := ["".toList, "Package c converts between an instant and what is declared in".toList,
    "var (".toList, "of the standard library.".toList, "".toList]
  oneLine := by decide +kernel
  noHeader := by decide +kernel

def instantsPage : Page where
  clause := "package c // import \"lib.org/c\"".toList
  sections := "FUNCTIONS\n\nfunc Open() int\n".toList
  isClause := by decide
  oneLine := by decide +kernel
  starts := ⟨"FUNCTIONS".toList, by decide, by decide +kernel⟩

def instantsPackage : Package :=
  .ofImportPath "lib.org/c"

theorem extracted_with_comments_example :
    (∀ line ∈ instants.lines, IsProse line) ∧
      extracted (.ofConfig {} "/work") instantsPackage ⟨(), []⟩ (instantsPage.text instants) =
        [packageSymbol instantsPackage,
          .declare "Open" instantsPackage .func (some "func() int")] := by
  have prose : ∀ line ∈ instants.lines, IsProse line := by
    simp only [instants, List.forall_mem_cons]
    exact ⟨.inr (by decide), .inr (by decide), .inr (by decide), .inr (by decide),
      List.forall_mem_nil _⟩
  obtain ⟨-, -, silent⟩ := extracted_with_comments (.ofConfig {} "/work") instantsPackage ⟨(), []⟩
    instants instants
  exact ⟨prose, (silent prose instantsPage).trans (by decide +kernel)⟩

/-- What a package declares goes by where the words of its comment are broken: the second comment
adds a symbol, and the third one hides those of the sections. -/
theorem extracted_of_wrapped_comments :
    extracted (.ofConfig {} "/work") instantsPackage ⟨(), []⟩ (instantsPage.text instants) =
        [packageSymbol instantsPackage,
          .declare "Open" instantsPackage .func (some "func() int")] ∧
      extracted (.ofConfig {} "/work") instantsPackage ⟨(), []⟩
          (instantsPage.text instantsWrapped) =
        [packageSymbol instantsPackage,
          .declare "Time" instantsPackage .type (some "of the standard library."),
          .declare "Open" instantsPackage .func (some "func() int")] ∧
      extracted (.ofConfig {} "/work") instantsPackage ⟨(), []⟩
          (instantsPage.text instantsListed) =
        [packageSymbol instantsPackage] := by
  rw [extracted_page, extracted_page, extracted_page]
  decide +kernel

end SymbolCache.Documentation
