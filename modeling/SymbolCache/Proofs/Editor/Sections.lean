import SymbolCache.Proofs.Editor.Imports

/-!
# Import sections

The paths that are read from a document are those that its import declarations spell out, as long
as there are no comments.
-/

set_option autoImplicit false

namespace SymbolCache.Imports

open Text (Blank)

/-! ## Declarations and the gaps between them -/

/-- What stands between declarations, or between the specifications of a block: white space, and
comments up to the ends of their lines. -/
inductive Filler where
  | blank (text : List Char) (isBlank : Blank text)
  | comment (text : List Char) (oneLine : '\n' ∉ text)

def Filler.text : Filler → List Char
  | .blank text _ => text
  | .comment text _ => "//".toList ++ (text ++ ['\n'])

abbrev Gap := List Filler

def Gap.text (gap : Gap) : List Char :=
  gap.flatMap Filler.text

def Gap.comments (gap : Gap) : List (List Char) :=
  gap.flatMap fun
    | .blank _ _ => []
    | .comment text _ => [text]

section

variable {α : Type}

def itemsText (textOf : α → List Char) (items : List (Gap × α)) : List Char :=
  items.flatMap fun item => Gap.text item.1 ++ textOf item.2

def OnSeparateLines (items : List (Gap × α)) : Prop :=
  ∀ item ∈ items.tail, '\n' ∈ Gap.text item.1

instance (items : List (Gap × α)) : Decidable (OnSeparateLines items) :=
  inferInstanceAs (Decidable (∀ item ∈ items.tail, '\n' ∈ Gap.text item.1))

end

structure Spec where
  name : List Char
  /-- The white space between the name and the path. -/
  blank : List Char
  quote : Char
  path : List Char
  named : name = ['.'] ∨ name.all Text.isWord = true
  isBlank : Blank blank
  isQuote : isQuote quote = true
  plain : path.all (fun character => !Imports.isQuote character && character != ')') = true

def Spec.text (spec : Spec) : List Char :=
  spec.name ++ (spec.blank ++ spec.quote :: (spec.path ++ [spec.quote]))

/-- A declaration of one path or of a block of them. The name of a single path is in ASCII. -/
inductive Declaration where
  | single (gap : List Char) (spec : Spec) (isBlank : Blank gap)
      (apart : (gap ++ spec.text).head?.any Text.isWord = false)
      (labelled : spec.name ≠ [] → IsName spec.name ∧ spec.blank ≠ [])
  | block (gap : List Char) (specs : List (Gap × Spec)) (closing : Gap) (isBlank : Blank gap)
      (lines : OnSeparateLines specs)

def blockText (specs : List (Gap × Spec)) (closing : Gap) : List Char :=
  itemsText Spec.text specs ++ Gap.text closing

def Declaration.text : Declaration → List Char
  | .single gap spec _ _ _ => "import".toList ++ (gap ++ spec.text)
  | .block gap specs closing _ _ =>
    "import".toList ++ (gap ++ '(' :: (blockText specs closing ++ [')']))

private theorem Declaration.text_single {gap : List Char} {spec : Spec} (isBlank : Blank gap)
    (apart : (gap ++ spec.text).head?.any Text.isWord = false)
    (labelled : spec.name ≠ [] → IsName spec.name ∧ spec.blank ≠ []) :
    (Declaration.single gap spec isBlank apart labelled).text =
      "import".toList ++ (gap ++ spec.text) :=
  rfl

theorem Declaration.text_block {gap : List Char} {specs : List (Gap × Spec)} (closing : Gap)
    (isBlank : Blank gap) (lines : OnSeparateLines specs) :
    (Declaration.block gap specs closing isBlank lines).text =
      "import".toList ++ (gap ++ '(' :: (blockText specs closing ++ [')'])) :=
  rfl

def Declaration.paths : Declaration → List (List Char)
  | .single _ spec _ _ _ => [spec.path]
  | .block _ specs _ _ _ => specs.map fun item => item.2.path

def Declaration.comments : Declaration → List (List Char)
  | .single _ _ _ _ _ => []
  | .block _ specs closing _ _ =>
    (specs.flatMap fun item => Gap.comments item.1) ++ Gap.comments closing

/-- The declarations of a document, with the gaps between them and around them. -/
structure Section where
  declarations : List (Gap × Declaration)
  closing : Gap
  lines : OnSeparateLines declarations

def Section.text (imports : Section) : List Char :=
  itemsText Declaration.text imports.declarations ++ Gap.text imports.closing

def Section.paths (imports : Section) : List (List Char) :=
  imports.declarations.flatMap fun item => item.2.paths

def Section.outside (imports : Section) : List (List Char) :=
  (imports.declarations.flatMap fun item => Gap.comments item.1) ++ Gap.comments imports.closing

def Section.inside (imports : Section) : List (List Char) :=
  imports.declarations.flatMap fun item => item.2.comments

/-! ## Without the comments -/

def Filler.plain : Filler → Filler
  | .blank text isBlank => .blank text isBlank
  | .comment _ _ => .blank ['\n'] (by decide)

def Gap.plain (gap : Gap) : Gap :=
  gap.map Filler.plain

theorem Gap.comments_plain (gap : Gap) : Gap.comments (Gap.plain gap) = [] := by
  rw [Gap.comments, List.flatMap_eq_nil_iff]
  intro filler member
  obtain ⟨filler, -, rfl⟩ := List.mem_map.mp member
  cases filler <;> rfl

theorem Filler.newline_mem_plain {filler : Filler} (ends : '\n' ∈ filler.text) :
    '\n' ∈ filler.plain.text := by
  cases filler with
  | blank => exact ends
  | comment => exact List.mem_singleton_self _

theorem Gap.newline_mem_plain {gap : Gap} (ends : '\n' ∈ Gap.text gap) :
    '\n' ∈ Gap.text (Gap.plain gap) := by
  obtain ⟨filler, member, ends⟩ := List.mem_flatMap.mp ends
  have changed : filler.plain ∈ Gap.plain gap := List.mem_map_of_mem member
  exact List.mem_flatMap.mpr ⟨filler.plain, changed, filler.newline_mem_plain ends⟩

theorem OnSeparateLines.plain {α : Type} {items : List (Gap × α)} (lines : OnSeparateLines items)
    (change : α → α) :
    OnSeparateLines (items.map fun item => (Gap.plain item.1, change item.2)) := by
  intro changed member
  rw [← List.map_tail] at member
  obtain ⟨item, below, rfl⟩ := List.mem_map.mp member
  exact Gap.newline_mem_plain (lines item below)

def Declaration.plain : Declaration → Declaration
  | .single gap spec isBlank apart labelled => .single gap spec isBlank apart labelled
  | .block gap specs closing isBlank lines =>
    .block gap (specs.map fun item => (Gap.plain item.1, id item.2)) (Gap.plain closing) isBlank
      (lines.plain id)

def Section.plain (imports : Section) : Section where
  declarations := imports.declarations.map fun item => (Gap.plain item.1, item.2.plain)
  closing := Gap.plain imports.closing
  lines := imports.lines.plain Declaration.plain

private theorem comments_plain_gaps {α : Type} (items : List (Gap × α)) (change : α → α)
    (closing : Gap) :
    ((items.map fun item => (Gap.plain item.1, change item.2)).flatMap fun item =>
      Gap.comments item.1) ++ Gap.comments (Gap.plain closing) = [] := by
  refine List.append_eq_nil_iff.mpr ⟨?_, Gap.comments_plain closing⟩
  rw [List.flatMap_eq_nil_iff]
  intro item member
  obtain ⟨item, -, rfl⟩ := List.mem_map.mp member
  exact Gap.comments_plain item.1

theorem Declaration.comments_plain (declaration : Declaration) :
    declaration.plain.comments = [] := by
  cases declaration with
  | single => rfl
  | block gap specs closing isBlank lines => exact comments_plain_gaps specs id closing

theorem Declaration.paths_plain (declaration : Declaration) :
    declaration.plain.paths = declaration.paths := by
  cases declaration with
  | single => rfl
  | block gap specs closing isBlank lines => exact List.map_map ..

theorem Section.outside_plain (imports : Section) : imports.plain.outside = [] :=
  comments_plain_gaps imports.declarations Declaration.plain imports.closing

theorem Section.inside_plain (imports : Section) : imports.plain.inside = [] := by
  rw [Section.inside, List.flatMap_eq_nil_iff]
  intro item member
  obtain ⟨item, -, rfl⟩ := List.mem_map.mp member
  exact item.2.comments_plain

theorem Section.paths_plain (imports : Section) : imports.plain.paths = imports.paths := by
  rw [Section.paths, Section.plain, List.flatMap_map, Section.paths]
  exact List.flatMap_congr fun item _ => item.2.paths_plain

/-! ## What is read from a block -/

def Filler.quoted : Filler → List (List Char)
  | .blank _ _ => []
  | .comment text _ => blockPaths text

def Declaration.read : Declaration → List (List Char)
  | .single _ spec _ _ _ => [spec.path]
  | .block _ specs closing _ _ =>
    (specs.flatMap fun item => item.1.flatMap Filler.quoted ++ [item.2.path]) ++
      closing.flatMap Filler.quoted

/-- A comment that neither ends a block nor leaves a path open in it. -/
def Paired (text : List Char) : Prop :=
  ')' ∉ text ∧ Even (text.countP isQuote)

section

variable {text : List Char}

/-- A text in a block from which some paths are read, whatever follows. -/
structure Passes (text : List Char) (paths : List (List Char)) : Prop where
  inside : ')' ∉ text
  even : Even (text.countP isQuote)
  paths_eq : blockPaths text = paths

theorem Passes.append {first second : List Char} {firstPaths secondPaths : List (List Char)}
    (left : Passes first firstPaths) (right : Passes second secondPaths) :
    Passes (first ++ second) (firstPaths ++ secondPaths) where
  inside member := (List.mem_append.mp member).elim left.inside right.inside
  even := by
    rw [List.countP_append]
    exact left.even.add right.even
  paths_eq := by rw [blockPaths_append left.even, left.paths_eq, right.paths_eq]

theorem Passes.nil : Passes [] [] :=
  ⟨List.not_mem_nil, Even.zero, rfl⟩

theorem Passes.of_unquoted (inside : ')' ∉ text) (unquoted : Unquoted text) : Passes text [] where
  inside
  even := by
    rw [countP_eq_zero_of_unquoted unquoted]
    exact Even.zero
  paths_eq := blockPaths_of_unquoted unquoted

theorem Passes.flatMap {α : Type} {textOf : α → List Char} {pathsOf : α → List (List Char)}
    {items : List α}
    (passes : ∀ item ∈ items, Passes (textOf item) (pathsOf item)) :
    Passes (items.flatMap textOf) (items.flatMap pathsOf) := by
  induction items with
  | nil => exact .nil
  | cons item items ih =>
      obtain ⟨first, others⟩ := List.forall_mem_cons.mp passes
      exact first.append (ih others)

theorem Filler.passes {filler : Filler}
    (paired : ∀ text oneLine, filler = .comment text oneLine → Paired text) :
    Passes filler.text filler.quoted := by
  cases filler with
  | blank text isBlank =>
      have solid : Text.isWhiteSpace ')' = false := by decide
      exact .of_unquoted (isBlank.not_mem solid) (unquoted_of_blank isBlank)
  | comment text oneLine =>
      have slashes : Passes "//".toList [] := .of_unquoted (by decide) (by decide)
      have lineEnd : Passes ['\n'] [] := .of_unquoted (by decide) (by decide)
      obtain ⟨inside, even⟩ := paired text oneLine rfl
      have passes := slashes.append (Passes.append ⟨inside, even, rfl⟩ lineEnd)
      rwa [List.nil_append, List.append_nil] at passes

theorem Gap.mem_comments {gap : Gap} :
    text ∈ Gap.comments gap ↔ ∃ oneLine, Filler.comment text oneLine ∈ gap := by
  rw [Gap.comments, List.mem_flatMap]
  constructor
  · rintro ⟨filler, member, listed⟩
    cases filler with
    | blank => exact absurd listed List.not_mem_nil
    | comment other oneLine =>
        obtain rfl := List.mem_singleton.mp listed
        exact ⟨oneLine, member⟩
  · rintro ⟨oneLine, member⟩
    exact ⟨.comment text oneLine, member, List.mem_singleton_self _⟩

theorem Gap.newline_not_mem {gap : Gap} {text : List Char} (listed : text ∈ Gap.comments gap) :
    '\n' ∉ text := by
  obtain ⟨oneLine, -⟩ := Gap.mem_comments.mp listed
  exact oneLine

private theorem newline_not_mem_gaps {α : Type} {items : List (Gap × α)} {closing : Gap}
    {text : List Char}
    (listed : text ∈ (items.flatMap fun item => Gap.comments item.1) ++ Gap.comments closing) :
    '\n' ∉ text := by
  rcases List.mem_append.mp listed with listed | listed
  · obtain ⟨item, -, listed⟩ := List.mem_flatMap.mp listed
    exact Gap.newline_not_mem listed
  · exact Gap.newline_not_mem listed

theorem Section.newline_not_mem_outside {imports : Section} {text : List Char}
    (listed : text ∈ imports.outside) : '\n' ∉ text :=
  newline_not_mem_gaps listed

theorem Declaration.newline_not_mem {declaration : Declaration} {text : List Char}
    (listed : text ∈ declaration.comments) : '\n' ∉ text := by
  cases declaration with
  | single => exact absurd listed List.not_mem_nil
  | block gap specs closing isBlank lines => exact newline_not_mem_gaps listed

theorem Section.newline_not_mem_inside {imports : Section} {text : List Char}
    (listed : text ∈ imports.inside) : '\n' ∉ text := by
  obtain ⟨item, -, listed⟩ := List.mem_flatMap.mp listed
  exact Declaration.newline_not_mem listed

theorem Gap.passes {gap : Gap} (paired : ∀ text ∈ Gap.comments gap, Paired text) :
    Passes (Gap.text gap) (gap.flatMap Filler.quoted) := by
  refine .flatMap fun filler member => Filler.passes ?_
  rintro text oneLine rfl
  exact paired text (Gap.mem_comments.mpr ⟨oneLine, member⟩)

private theorem passes_name {name : List Char}
    (named : name = ['.'] ∨ name.all Text.isWord = true) :
    Passes name [] := by
  rcases named with rfl | words
  · exact .of_unquoted (by decide) (by decide)
  · rw [List.all_eq_true] at words
    refine .of_unquoted (fun member => absurd (words ')' member) (by decide)) ?_
    intro character member
    rw [Bool.eq_false_iff]
    intro quote
    exact Bool.false_ne_true ((isWord_of_isQuote quote).symm.trans (words character member))

theorem Spec.forall_plain (spec : Spec) :
    ∀ character ∈ spec.path, Imports.isQuote character = false ∧ character ≠ ')' := by
  simpa using spec.plain

theorem Spec.unquoted (spec : Spec) : Unquoted spec.path :=
  fun character member => (spec.forall_plain character member).1

theorem Spec.passes (spec : Spec) : Passes spec.text [spec.path] := by
  have solid : Text.isWhiteSpace ')' = false := by decide
  have blank : Passes spec.blank [] :=
    .of_unquoted (spec.isBlank.not_mem solid) (unquoted_of_blank spec.isBlank)
  have quoted : Passes (spec.quote :: (spec.path ++ [spec.quote])) [spec.path] := by
    constructor
    · have other : ')' ≠ spec.quote := by
        intro same
        exact absurd (same ▸ spec.isQuote) (by decide)
      have inside : ')' ∉ spec.path := fun member =>
        (spec.forall_plain ')' member).2 rfl
      simp [other, inside]
    · rw [List.countP_cons_of_pos spec.isQuote, List.countP_append,
        countP_eq_zero_of_unquoted spec.unquoted, List.countP_cons_of_pos spec.isQuote]
      decide
    · exact blockPaths_of_quoted spec.isQuote spec.unquoted spec.isQuote []
  have whole := (passes_name spec.named).append (blank.append quoted)
  rwa [List.nil_append, List.nil_append] at whole

private theorem passes_blockText {specs : List (Gap × Spec)} {closing : Gap}
    (paired : ∀ item ∈ specs, ∀ text ∈ Gap.comments item.1, Paired text)
    (last : ∀ text ∈ Gap.comments closing, Paired text) :
    Passes (blockText specs closing)
      ((specs.flatMap fun item => item.1.flatMap Filler.quoted ++ [item.2.path]) ++
        closing.flatMap Filler.quoted) := by
  refine Passes.append ?_ (Gap.passes last)
  exact .flatMap fun item member => (Gap.passes (paired item member)).append item.2.passes

/-! ## What is read from a declaration -/

theorem declaration?_of_reads {paths : List (List Char)} {behind rest : List Char}
    (apart : ∀ character ∈ behind.head?, Text.isWord character = false)
    (reads : Reads behind paths rest) :
    declaration? ("import".toList ++ behind) = some (paths, rest) := by
  rw [declaration?, afterWord?_eq_some_iff.mpr ⟨rfl, apart⟩]
  exact readDeclaration?_eq_some_iff.mpr reads

theorem Spec.reads {gap : List Char} (blank : Blank gap) (spec : Spec)
    (labelled : spec.name ≠ [] → IsName spec.name ∧ spec.blank ≠ []) (rest : List Char) :
    Reads (gap ++ (spec.text ++ rest)) [spec.path] rest := by
  by_cases named : spec.name = []
  · have wider : Blank (gap ++ spec.blank) :=
      List.forall_mem_append.mpr ⟨blank, spec.isBlank⟩
    have reads : Reads _ [spec.path] rest :=
      .path wider .none spec.isQuote spec.unquoted spec.isQuote
    simpa [Spec.text, named] using reads
  · obtain ⟨isName, filled⟩ := labelled named
    have label := Label.name isName spec.isBlank filled
    have reads : Reads _ [spec.path] rest :=
      .path blank label spec.isQuote spec.unquoted spec.isQuote
    simpa [Spec.text] using reads

/-- A block is read up to its parenthesis, whatever its comments say. -/
theorem declaration?_block {gap : List Char} {specs : List (Gap × Spec)} {closing : Gap}
    (isBlank : Blank gap) (lines : OnSeparateLines specs) (inside : ')' ∉ blockText specs closing)
    (rest : List Char) :
    declaration? ((Declaration.block gap specs closing isBlank lines).text ++ rest) =
      some (blockPaths (blockText specs closing), rest) := by
  rw [Declaration.text_block, List.append_assoc]
  refine declaration?_of_reads ?_ ?_
  · intro character member
    cases gap with
    | nil =>
        obtain rfl := Option.some.inj member
        decide
    | cons space gap =>
        obtain rfl := Option.some.inj member
        exact Text.isWord_of_isWhiteSpace (isBlank space List.mem_cons_self)
  · rw [List.append_assoc, List.cons_append, List.append_assoc]
    exact .block isBlank inside

theorem Declaration.declaration?_append (declaration : Declaration)
    (paired : ∀ text ∈ declaration.comments, Paired text) (rest : List Char) :
    declaration? (declaration.text ++ rest) = some (declaration.read, rest) := by
  cases declaration with
  | single gap spec isBlank apart labelled =>
      rw [Declaration.text_single, List.append_assoc]
      refine declaration?_of_reads ?_ ?_
      · have filled : gap ++ spec.text ≠ [] := by simp [Spec.text]
        rw [List.head?_append_of_ne_nil _ filled]
        exact any_isWord_eq_false_iff.mp apart
      · rw [List.append_assoc]
        exact spec.reads isBlank labelled rest
  | block gap specs closing isBlank lines =>
      have passes : Passes (blockText specs closing)
          (Declaration.block gap specs closing isBlank lines).read := by
        refine passes_blockText (fun item member text listed => paired text ?_)
          fun text listed => paired text ?_
        · exact List.mem_append_left _ (List.mem_flatMap.mpr ⟨item, member, listed⟩)
        · exact List.mem_append_right _ listed
      rw [declaration?_block isBlank lines passes.inside, passes.paths_eq]

/-- Where each gap is read apart from what follows it, so are the declarations. -/
theorem declaredPaths_itemsText (readGap : Gap → List (List Char))
    {items : List (Gap × Declaration)}
    (paired : ∀ item ∈ items, ∀ text ∈ item.2.comments, Paired text)
    (gaps : ∀ item ∈ items, ∀ rest,
      declaredPaths false (Gap.text item.1 ++ (item.2.text ++ rest)) =
        readGap item.1 ++ declaredPaths false (item.2.text ++ rest)) (rest : List Char) :
    declaredPaths false (itemsText Declaration.text items ++ rest) =
      (items.flatMap fun item => readGap item.1 ++ item.2.read) ++ declaredPaths false rest := by
  induction items with
  | nil => rfl
  | cons item items ih =>
      obtain ⟨firstPaired, othersPaired⟩ := List.forall_mem_cons.mp paired
      obtain ⟨firstGap, otherGaps⟩ := List.forall_mem_cons.mp gaps
      have parts : itemsText Declaration.text (item :: items) ++ rest =
          Gap.text item.1 ++ (item.2.text ++ (itemsText Declaration.text items ++ rest)) := by
        simp [itemsText]
      rw [parts, firstGap, declaredPaths_of_some (item.2.declaration?_append firstPaired _),
        ih othersPaired otherGaps, List.flatMap_cons, List.append_assoc, List.append_assoc]

/-! ## Sections without comments -/

private theorem Gap.blank_text {gap : Gap} (uncommented : Gap.comments gap = []) :
    Blank (Gap.text gap) := by
  intro character member
  obtain ⟨filler, inside, spelled⟩ := List.mem_flatMap.mp member
  cases filler with
  | blank text isBlank => exact isBlank character spelled
  | comment text oneLine =>
      have listed : text ∈ Gap.comments gap := Gap.mem_comments.mpr ⟨oneLine, inside⟩
      rw [uncommented] at listed
      exact absurd listed List.not_mem_nil

theorem Gap.flatMap_quoted_eq (gap : Gap) :
    gap.flatMap Filler.quoted = (Gap.comments gap).flatMap blockPaths := by
  rw [Gap.comments, List.flatMap_assoc]
  refine List.flatMap_congr fun filler _ => ?_
  cases filler with
  | blank => rfl
  | comment text oneLine => exact (List.flatMap_singleton blockPaths text).symm

private theorem Gap.flatMap_quoted {gap : Gap} (uncommented : Gap.comments gap = []) :
    gap.flatMap Filler.quoted = [] := by
  rw [Gap.flatMap_quoted_eq, uncommented]
  rfl

private theorem Declaration.read_of_uncommented {declaration : Declaration}
    (uncommented : declaration.comments = []) : declaration.read = declaration.paths := by
  cases declaration with
  | single => rfl
  | block gap specs closing isBlank lines =>
      obtain ⟨items, last⟩ := List.append_eq_nil_iff.mp uncommented
      rw [List.flatMap_eq_nil_iff] at items
      rw [Declaration.read, Declaration.paths, Gap.flatMap_quoted last, List.append_nil,
        List.map_eq_flatMap]
      refine List.flatMap_congr fun item member => ?_
      rw [Gap.flatMap_quoted (items item member), List.nil_append]

theorem mem_paths {document path : String} :
    path ∈ Imports.paths document ↔ path.toList ∈ declaredPaths false document.toList := by
  rw [Imports.paths, ← Std.ExtTreeSet.contains_iff_mem, Std.ExtTreeSet.contains_ofList,
    List.contains_iff_mem, List.mem_map]
  constructor
  · rintro ⟨listed, member, rfl⟩
    rwa [String.toList_ofList]
  · exact fun member => ⟨path.toList, member, String.ofList_toList⟩

end

def Section.document (imports : Section) (before after : List Char) : String :=
  String.ofList (before ++ (imports.text ++ after))

/-- The paths of a document without comments are those that its section declares, as long as the
word is not used around the section. -/
theorem paths_of_section (imports : Section) (before after : List Char)
    (uncommented : imports.outside = [] ∧ imports.inside = [])
    (silentBefore : ¬ Mentions before) (ended : ∀ character ∈ before.getLast?, character = '\n')
    (silentAfter : ¬ Mentions after) (path : String) :
    (path ∈ paths (imports.document before after) ↔ path.toList ∈ imports.paths) ∧
      (declares (imports.document before after) path = true ↔ path.toList ∈ imports.paths) := by
  obtain ⟨outside, inside⟩ := uncommented
  obtain ⟨between, last⟩ := List.append_eq_nil_iff.mp outside
  rw [List.flatMap_eq_nil_iff] at between
  rw [Section.inside, List.flatMap_eq_nil_iff] at inside
  have behind : declaredPaths false (Gap.text imports.closing ++ after) = [] := by
    have none : declaredPaths false (after ++ []) = declaredPaths false [] :=
      declaredPaths_append_of_not_mentions silentAfter nofun
    rw [List.append_nil, declaredPaths_nil] at none
    rw [declaredPaths_append_of_blank (Gap.blank_text last), none]
  have unworded : ∀ character ∈ before.getLast?, Text.isWord character = false := by
    intro character member
    rw [ended character member]
    decide
  have read : declaredPaths false (before ++ (imports.text ++ after)) = imports.paths := by
    rw [declaredPaths_append_of_not_mentions silentBefore fun _ => unworded,
      Section.text, List.append_assoc, declaredPaths_itemsText fun _ => [], behind,
      List.append_nil, Section.paths]
    · refine List.flatMap_congr fun item member => ?_
      rw [List.nil_append, Declaration.read_of_uncommented (inside item member)]
    · intro item member text listed
      rw [inside item member] at listed
      exact absurd listed List.not_mem_nil
    · intro item member rest
      rw [declaredPaths_append_of_blank (Gap.blank_text (between item member)), List.nil_append]
  have listed : path ∈ paths (imports.document before after) ↔ path.toList ∈ imports.paths := by
    rw [mem_paths, Section.document, String.toList_ofList, read]
  exact ⟨listed, Std.ExtTreeSet.contains_iff_mem.trans listed⟩

/-- A path under a name, then a block. Its second path goes on from its first, and the word is in
its last. -/
def sample : Section where
  declarations := [
    ([], .single [' ']
      ⟨"str".toList, [' '], '"', "strings".toList, by decide, by decide, rfl, by decide⟩
      (by decide) (by decide) fun _ => ⟨⟨'s', "tr".toList, rfl, rfl, rfl⟩, by decide⟩),
    ([.blank "\n\n".toList (by decide)], .block [' '] [
      ([.blank "\n\t".toList (by decide)],
        ⟨[], [], '"', "gopkg.in/yaml".toList, by decide, by decide, rfl, by decide⟩),
      ([.blank "\n\t".toList (by decide)],
        ⟨"yaml".toList, [' '], '"', "gopkg.in/yaml.v3".toList, by decide, by decide, rfl,
          by decide⟩),
      ([.blank "\n\t".toList (by decide)],
        ⟨"_".toList, [' '], '\x60', "go/import".toList, by decide, by decide, rfl, by decide⟩)]
      [.blank ['\n'] (by decide)] (by decide) (by decide))]
  closing := [.blank "\n\n".toList (by decide)]
  lines := by decide

theorem paths_of_section_example :
    let document := sample.document "package main\n\n".toList "var importer = 1\n".toList
    document = "package main\n\nimport str \"strings\"\n\nimport (\n\t\"gopkg.in/yaml\"\n\tyaml " ++
        "\"gopkg.in/yaml.v3\"\n\t_ \x60go/import\x60\n)\n\nvar importer = 1\n" ∧
      (sample.outside = [] ∧ sample.inside = []) ∧ ¬ Mentions "package main\n\n".toList ∧
        ¬ Mentions "var importer = 1\n".toList ∧ "go/import" ∈ paths document ∧
          "gopkg.in" ∉ paths document ∧ declares document "gopkg.in/yaml" = true := by
  have uncommented : sample.outside = [] ∧ sample.inside = [] := ⟨rfl, rfl⟩
  have silentBefore : ¬ Mentions "package main\n\n".toList := by decide
  have silentAfter : ¬ Mentions "var importer = 1\n".toList := by decide
  have read := paths_of_section sample "package main\n\n".toList "var importer = 1\n".toList
    uncommented silentBefore (fun _ member => (Option.some.inj member).symm) silentAfter
  refine ⟨by decide +kernel, uncommented, silentBefore, silentAfter, ?_, ?_, ?_⟩
  · exact (read "go/import").1.mpr (by decide +kernel)
  · exact fun member => absurd ((read "gopkg.in").1.mp member) (by decide +kernel)
  · exact (read "gopkg.in/yaml").2.mpr (by decide +kernel)

end SymbolCache.Imports
