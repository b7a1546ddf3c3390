import Mathlib.Data.List.Perm.Basic
import SymbolCache.Proofs.Editor.Lines
import SymbolCache.Proofs.Editor.Sections

/-!
# Comments among imports

Comments are read as text. With them the paths of a document are those without them and those that
the comments spell out, as long as no comment closes a block or leaves something open.
-/

set_option autoImplicit false

namespace SymbolCache.Imports

open Text (Blank)

section

variable {rest : List Char}

/-! ## Gaps with comments -/

/-- The paths of the declarations that are commented out in a gap between declarations. -/
def Gap.declared (gap : Gap) : List (List Char) :=
  (Gap.comments gap).flatMap (declaredPaths false)

private theorem declaredPaths_of_slashes (text : List Char) :
    declaredPaths false ("//".toList ++ text) = declaredPaths false text :=
  declaredPaths_append_of_not_mentions (by decide) fun _ character member => by
    obtain rfl := Option.some.inj member
    decide

theorem Gap.fresh_append (gap : Gap) (fresh : Fresh rest) : Fresh (Gap.text gap ++ rest) := by
  induction gap with
  | nil => exact fresh
  | cons filler gap ih =>
      cases filler with
      | blank text isBlank =>
          rw [Gap.text, List.flatMap_cons, List.append_assoc]
          exact ih.append isBlank
      | comment text oneLine => exact fresh_of_slash

theorem Gap.declaredPaths_append {gap : Gap} (settled : ∀ text ∈ Gap.comments gap, Settled text)
    (fresh : Fresh rest) :
    declaredPaths false (Gap.text gap ++ rest) =
      Gap.declared gap ++ declaredPaths false rest := by
  induction gap with
  | nil => rfl
  | cons filler gap ih =>
      cases filler with
      | blank text isBlank =>
          rw [Gap.text, List.flatMap_cons, List.append_assoc]
          exact (declaredPaths_append_of_blank isBlank _).trans (ih settled)
      | comment text oneLine =>
          obtain ⟨first, others⟩ := List.forall_mem_cons.mp settled
          have parts : Gap.text (.comment text oneLine :: gap) ++ rest =
              "//".toList ++ (text ++ '\n' :: (Gap.text gap ++ rest)) := by
            simp [Gap.text, Filler.text]
          rw [parts, declaredPaths_of_slashes,
            first.declaredPaths_append (Gap.fresh_append gap fresh), ih others]
          exact (List.append_assoc _ _ _).symm

end

/-! ## What comments spell out -/

def Section.read (imports : Section) : List (List Char) :=
  (imports.declarations.flatMap fun item => Gap.declared item.1 ++ item.2.read) ++
    Gap.declared imports.closing

def Section.commentedOut (imports : Section) : List (List Char) :=
  imports.outside.flatMap (declaredPaths false) ++ imports.inside.flatMap blockPaths

section

variable {imports : Section} {lead after : List Char}

theorem Section.fresh_append (paired : ∀ text ∈ imports.inside, Paired text) {rest : List Char}
    (fresh : Fresh rest) : Fresh (imports.text ++ rest) := by
  rw [Section.text, List.append_assoc]
  have closing := Gap.fresh_append imports.closing fresh
  cases items : imports.declarations with
  | nil => exact closing
  | cons item others =>
      have firstPaired : ∀ text ∈ item.2.comments, Paired text := fun text listed =>
        paired text (List.mem_flatMap.mpr ⟨item, by rw [items]; exact List.mem_cons_self, listed⟩)
      rw [itemsText, List.flatMap_cons, List.append_assoc, List.append_assoc]
      have read := item.2.declaration?_append firstPaired
      exact Gap.fresh_append item.1 (fresh_of_declaration? (read _))

/-- A section is read between what comes before and after it. -/
theorem Section.declaredPaths_append (settledLead : Settled lead)
    (apart : readDeclaration? after = none) (settled : ∀ text ∈ imports.outside, Settled text)
    (paired : ∀ text ∈ imports.inside, Paired text) :
    declaredPaths false (lead ++ '\n' :: (imports.text ++ after)) =
      declaredPaths false lead ++ (imports.read ++ declaredPaths false after) := by
  have fresh := fresh_of_none apart
  obtain ⟨between, last⟩ := List.forall_mem_append.mp settled
  have itemsPaired : ∀ item ∈ imports.declarations, ∀ text ∈ item.2.comments, Paired text :=
    fun item member text listed => paired text (List.mem_flatMap.mpr ⟨item, member, listed⟩)
  rw [settledLead.declaredPaths_append (imports.fresh_append paired fresh), Section.text,
    List.append_assoc, declaredPaths_itemsText Gap.declared itemsPaired,
    Gap.declaredPaths_append last fresh, Section.read, List.append_assoc]
  intro item member rest
  refine Gap.declaredPaths_append (fun text listed => between text ?_)
    (fresh_of_declaration? (item.2.declaration?_append (itemsPaired item member) rest))
  exact List.mem_flatMap.mpr ⟨item, member, listed⟩

theorem mem_flatMap_append {α β : Type} {items : List α} {first second : α → List β} {member : β} :
    (member ∈ items.flatMap fun item => first item ++ second item) ↔
      member ∈ items.flatMap first ∨ member ∈ items.flatMap second := by
  rw [← List.mem_append, (List.flatMap_append_perm items first second).mem_iff]

theorem Declaration.mem_read {declaration : Declaration} {path : List Char} :
    path ∈ declaration.read ↔
      path ∈ declaration.paths ∨ path ∈ declaration.comments.flatMap blockPaths := by
  cases declaration with
  | single => simp [Declaration.read, Declaration.paths, Declaration.comments]
  | block gap specs closing isBlank lines =>
      rw [Declaration.read, Declaration.paths, Declaration.comments, List.flatMap_append,
        List.flatMap_assoc, ← Gap.flatMap_quoted_eq, List.mem_append, List.mem_append,
        mem_flatMap_append, List.map_eq_flatMap]
      simp only [← Gap.flatMap_quoted_eq]
      tauto

theorem Section.mem_read {path : List Char} :
    path ∈ imports.read ↔ path ∈ imports.paths ∨ path ∈ imports.commentedOut := by
  have declared : (path ∈ imports.declarations.flatMap fun item => item.2.read) ↔
      path ∈ imports.paths ∨ path ∈ imports.inside.flatMap blockPaths := by
    rw [Section.paths, Section.inside, List.flatMap_assoc, ← mem_flatMap_append]
    simp only [List.mem_flatMap (l := imports.declarations), Declaration.mem_read, List.mem_append]
  rw [Section.read, Section.commentedOut, Section.outside, List.flatMap_append, List.mem_append,
    List.mem_append, List.mem_append, mem_flatMap_append, declared, List.flatMap_assoc]
  simp only [Gap.declared]
  tauto

theorem mem_paths_document (settledLead : Settled lead)
    (apart : readDeclaration? after = none) (settled : ∀ text ∈ imports.outside, Settled text)
    (paired : ∀ text ∈ imports.inside, Paired text) (path : String) :
    path ∈ paths (imports.document (lead ++ ['\n']) after) ↔
      path.toList ∈ declaredPaths false lead ∨
        (path.toList ∈ imports.paths ∨ path.toList ∈ imports.commentedOut) ∨
          path.toList ∈ declaredPaths false after := by
  have lines : lead ++ ['\n'] ++ (imports.text ++ after) =
      lead ++ '\n' :: (imports.text ++ after) :=
    List.append_assoc ..
  rw [mem_paths, Section.document, String.toList_ofList, lines,
    Section.declaredPaths_append settledLead apart settled paired, List.mem_append, List.mem_append,
    Section.mem_read]

private theorem Section.commentedOut_plain : imports.plain.commentedOut = [] := by
  rw [Section.commentedOut, Section.outside_plain, Section.inside_plain]
  rfl

theorem mem_paths_plain (settledLead : Settled lead) (apart : readDeclaration? after = none)
    (path : String) :
    path ∈ paths (imports.plain.document (lead ++ ['\n']) after) ↔
      path.toList ∈ declaredPaths false lead ∨ path.toList ∈ imports.paths ∨
        path.toList ∈ declaredPaths false after := by
  rw [mem_paths_document settledLead apart, Section.paths_plain, Section.commentedOut_plain]
  · simp only [List.not_mem_nil, or_false]
  · rw [Section.outside_plain]
    exact List.forall_mem_nil _
  · rw [Section.inside_plain]
    exact List.forall_mem_nil _

end

/-! ## Comments that change nothing -/

def Silent (text : List Char) : Prop :=
  Settled text ∧ declaredPaths false text = []

theorem silent_iff {text : List Char} :
    Silent text ↔ declaredPaths false (text ++ '\n' :: codeBelow) = [] := by
  constructor
  · rintro ⟨settled, none⟩
    exact settled.trans none
  · intro none
    have unchanged : (declaredPaths false (text ++ '\n' :: codeBelow)).length ≤
        (declaredPaths false text).length := by
      rw [none]
      exact Nat.zero_le _
    have read := declaredPaths_append_newline fresh_codeBelow unchanged
    rw [declaredPaths_codeBelow, List.append_nil, none] at read
    exact ⟨none.trans read, read.symm⟩

/-- Comments of these texts, between declarations and in blocks, do not change the paths of any
document. -/
def Harmless (between inside : List Char → Prop) : Prop :=
  ∀ (imports : Section) (lead after : List Char), Settled lead → readDeclaration? after = none →
    (∀ text ∈ imports.outside, between text) → (∀ text ∈ imports.inside, inside text) →
      paths (imports.document (lead ++ ['\n']) after) =
        paths (imports.plain.document (lead ++ ['\n']) after)

private theorem paired_of_unquoted {text : List Char} (inside : ')' ∉ text) (unquoted :
    Unquoted text) :
    Paired text := by
  refine ⟨inside, ?_⟩
  rw [countP_eq_zero_of_unquoted unquoted]
  exact Even.zero

private theorem harmless_of_silent {between inside : List Char → Prop}
    (silent : ∀ text, '\n' ∉ text → between text → Silent text)
    (unquoted : ∀ text, '\n' ∉ text → inside text → ')' ∉ text ∧ Unquoted text) :
    Harmless between inside := by
  intro imports lead after settledLead apart outside insides
  have silentOutside : ∀ text ∈ imports.outside, Silent text := fun text listed =>
    silent text (Section.newline_not_mem_outside listed) (outside text listed)
  have unquotedInside : ∀ text ∈ imports.inside, ')' ∉ text ∧ Unquoted text := fun text listed =>
    unquoted text (Section.newline_not_mem_inside listed) (insides text listed)
  have nothing : imports.commentedOut = [] := by
    refine List.append_eq_nil_iff.mpr ⟨?_, ?_⟩
    · exact List.flatMap_eq_nil_iff.mpr fun text listed => (silentOutside text listed).2
    · exact List.flatMap_eq_nil_iff.mpr fun text listed =>
        blockPaths_of_unquoted (unquotedInside text listed).2
  apply Std.ExtTreeSet.ext_mem
  intro path
  rw [mem_paths_plain settledLead apart, mem_paths_document settledLead apart, nothing]
  · simp only [List.not_mem_nil, or_false]
  · exact fun text listed => (silentOutside text listed).1
  · intro text listed
    obtain ⟨closed, unquoted⟩ := unquotedInside text listed
    exact paired_of_unquoted closed unquoted

/-! ### Comments that do change something -/

theorem blank_space : Blank [' '] := by decide

theorem blank_tab : Blank ['\t'] := by decide

theorem blank_newline : Blank ['\n'] := by decide

private theorem blank_indent : Blank "\n\t".toList := by decide

private theorem blank_lines : Blank "\n\n".toList := by decide

private theorem unnamed : ([] : List Char) = ['.'] ∨ List.all [] Text.isWord = true := .inr rfl

private theorem isQuote_double : isQuote '"' = true := rfl

def bare (path : List Char)
    (plain : path.all (fun character => !isQuote character && character != ')') = true) : Spec :=
  ⟨[], [], '"', path, unnamed, List.forall_mem_nil _, isQuote_double, plain⟩

section

variable {path text : List Char}
  (plain : path.all (fun character => !isQuote character && character != ')') = true)
  (oneLine : '\n' ∉ text)

def remarked : Section where
  declarations := [([], .single [' '] (bare path plain) blank_space rfl nofun)]
  closing := [.blank [' '] blank_space, .comment text oneLine]
  lines := nofun

def remarkedSpecs : List (Gap × Spec) :=
  [([.blank "\n\t".toList blank_indent, .comment text oneLine, .blank ['\t'] blank_tab],
    bare path plain)]

theorem remarkedSpecs_lines : OnSeparateLines (remarkedSpecs plain oneLine) :=
  List.forall_mem_nil _

def remarkedBlock : Section where
  declarations := [([], .block [' '] (remarkedSpecs plain oneLine) [.blank ['\n'] blank_newline]
    blank_space (remarkedSpecs_lines plain oneLine))]
  closing := [.blank ['\n'] blank_newline]
  lines := nofun

private theorem remarked_comments :
    (remarked plain oneLine).outside = [text] ∧ (remarked plain oneLine).inside = [] :=
  ⟨rfl, rfl⟩

private theorem remarkedBlock_comments :
    (remarkedBlock plain oneLine).outside = [] ∧ (remarkedBlock plain oneLine).inside = [text] :=
  ⟨rfl, rfl⟩

end

def Section.framed (imports : Section) : String :=
  imports.document ("package p".toList ++ ['\n']) codeBelow

section

variable {imports : Section}

theorem silent_package : Silent "package p".toList :=
  silent_iff.mpr (by decide +kernel)

theorem mem_framed (fresh : Fresh (imports.text ++ codeBelow)) {path : String} :
    path ∈ paths imports.framed ↔
      path.toList ∈ declaredPaths false (imports.text ++ codeBelow) := by
  have lines : "package p".toList ++ ['\n'] ++ (imports.text ++ codeBelow) =
      "package p".toList ++ '\n' :: (imports.text ++ codeBelow) :=
    List.append_assoc ..
  rw [mem_paths, Section.framed, Section.document, String.toList_ofList, lines,
    silent_package.1.declaredPaths_append fresh, silent_package.2, List.nil_append]

private theorem mem_framed_plain {path : String} :
    path ∈ paths imports.plain.framed ↔ path.toList ∈ imports.paths := by
  rw [Section.framed, mem_paths_plain silent_package.1 readDeclaration?_codeBelow,
    silent_package.2, declaredPaths_codeBelow]
  simp only [List.not_mem_nil, false_or, or_false]

end

section

variable {path text : List Char}
  (plain : path.all (fun character => !isQuote character && character != ')') = true)
  (oneLine : '\n' ∉ text)

private theorem mem_remarked {found : String} :
    found ∈ paths (remarked plain oneLine).framed ↔
      found.toList ∈ path :: declaredPaths false (text ++ '\n' :: codeBelow) := by
  have read := Declaration.declaration?_append
    (.single [' '] (bare path plain) blank_space rfl nofun) nofun
    ([' '] ++ ("//".toList ++ (text ++ '\n' :: codeBelow)))
  have parts : (remarked plain oneLine).text ++ codeBelow =
      (Declaration.single [' '] (bare path plain) blank_space rfl nofun).text ++
        ([' '] ++ ("//".toList ++ (text ++ '\n' :: codeBelow))) := by
    simp [remarked, Section.text, itemsText, Gap.text, Filler.text]
  rw [mem_framed (by rw [parts]; exact fresh_of_declaration? read), parts,
    declaredPaths_of_some read, declaredPaths_append_of_blank (by decide), declaredPaths_of_slashes]
  rfl

/-- The first path that a comment with a quote spells out ends before the quotes on the next line
do. -/
theorem exists_path_of_quote (quoted : ¬ Unquoted text) :
    ∃ found, ∀ rest, found ∈ blockPaths (text ++ '\n' :: '\t' :: '"' :: rest) := by
  induction text using quotes_induction with
  | plain text unquoted => exact absurd unquoted quoted
  | single before quote behind unquoted opens inside =>
      refine ⟨behind ++ ['\n', '\t'], fun rest => ?_⟩
      have longer : Unquoted (behind ++ ['\n', '\t']) :=
        List.forall_mem_append.mpr ⟨inside, show Unquoted ['\n', '\t'] by decide⟩
      have read := blockPaths_of_quoted opens longer (show isQuote '"' = true from rfl) rest
      rw [List.append_assoc] at read
      rw [List.append_assoc, blockPaths_append_of_unquoted unquoted, List.cons_append]
      exact read.symm ▸ List.mem_cons_self
  | pair before opening behind closing after unquoted opens inside closes ih =>
      refine ⟨behind, fun rest => ?_⟩
      rw [List.append_assoc, blockPaths_append_of_unquoted unquoted, List.cons_append,
        List.append_assoc, List.cons_append, blockPaths_of_quoted opens inside closes]
      exact List.mem_cons_self

private theorem blockText_remarkedSpecs :
    blockText (remarkedSpecs plain oneLine) [.blank ['\n'] blank_newline] =
      "\n\t//".toList ++ (text ++ '\n' :: '\t' :: '"' :: (path ++ ['"', '\n'])) := by
  simp [remarkedSpecs, blockText, itemsText, Gap.text, Filler.text, Spec.text, bare]

private theorem mem_remarkedBlock (closed : ')' ∉ text) {found : List Char}
    (listed : ∀ rest, found ∈ blockPaths (text ++ '\n' :: '\t' :: '"' :: rest)) :
    String.ofList found ∈ paths (remarkedBlock plain oneLine).framed := by
  have spelled := blockText_remarkedSpecs plain oneLine
  have inside : ')' ∉ blockText (remarkedSpecs plain oneLine) [.blank ['\n'] blank_newline] := by
    have unclosed : ')' ∉ path := fun member => ((bare path plain).forall_plain ')' member).2 rfl
    rw [spelled]
    simp [closed, unclosed]
  have read := declaration?_block blank_space (remarkedSpecs_lines plain oneLine) inside
    ('\n' :: codeBelow)
  have parts : (remarkedBlock plain oneLine).text ++ codeBelow =
      (Declaration.block [' '] (remarkedSpecs plain oneLine) [.blank ['\n'] blank_newline]
        blank_space (remarkedSpecs_lines plain oneLine)).text ++ '\n' :: codeBelow := by
    simp [remarkedBlock, Section.text, itemsText, Gap.text, Filler.text]
  rw [mem_framed (by rw [parts]; exact fresh_of_declaration? read), parts,
    declaredPaths_of_some read, String.toList_ofList, spelled,
    blockPaths_append_of_unquoted (by decide)]
  exact List.mem_append_left _ (listed _)

end

/-! ### A comment that closes a block -/

theorem Mentions.append_left {front back : List Char} (mentions : Mentions back) :
    Mentions (front ++ ')' :: back) := by
  obtain ⟨before, after, rfl, ended, apart⟩ := mentions
  refine ⟨front ++ ')' :: before, after, by simp, ?_, apart⟩
  intro character member
  cases before with
  | nil =>
      obtain rfl : ')' = character := by simpa using member
      decide
  | cons first before => exact ended character (by simpa using member)

private theorem mentions_of_append_newline {text : List Char}
    (mentions : Mentions (text ++ ['\n'])) :
    Mentions text := by
  obtain ⟨before, after, spelled, ended, apart⟩ := mentions
  rcases parts_of_lines spelled with ⟨tail, rfl, word⟩ | ⟨tail, -, none⟩
  · rcases parts_of_lines word.symm with ⟨more, rfl, rfl⟩ | ⟨more, within, -⟩
    · refine ⟨before, more, rfl, ended, fun character member => ?_⟩
      exact apart character (List.mem_head?_append_of_mem_head? member)
    · exact absurd (within ▸ by simp : '\n' ∈ "import".toList) (by decide)
  · exact absurd none (by simp)

/-- What is left of a block with a path in it when a comment above the path closes it. -/
def leftOver (path : List Char) : List Char :=
  "\t\"".toList ++ (path ++ ("\"\n)\n".toList ++ codeBelow))

private theorem mem_closedBlock {path front back : List Char} {found : String}
    (plain : path.all (fun character => !isQuote character && character != ')') = true)
    (oneLine : '\n' ∉ front ++ ')' :: back) (inside : ')' ∉ front)
    (absent : ¬ Mentions (front ++ ')' :: back))
    (nothing : declaredPaths false (leftOver path) = []) :
    found ∈ paths (remarkedBlock plain oneLine).framed ↔
      found.toList ∈ blockPaths ("\n\t//".toList ++ front) := by
  have silent : ¬ Mentions (back ++ ['\n']) := fun mentions =>
    absent (mentions_of_append_newline mentions).append_left
  have passed : declaredPaths false (back ++ ['\n'] ++ leftOver path) = [] := by
    rw [declaredPaths_append_of_not_mentions silent, nothing]
    intro _ character member
    obtain rfl : '\n' = character := by simpa using member
    decide
  have unclosed : ')' ∉ "\n\t//".toList ++ front := by
    rw [List.mem_append]
    exact fun member => member.elim (by decide) inside
  have parts : (remarkedBlock plain oneLine).text ++ codeBelow =
      "import".toList ++ ([' '] ++ '(' :: ("\n\t//".toList ++ front ++
        ')' :: (back ++ ['\n'] ++ leftOver path))) := by
    simp [remarkedBlock, remarkedSpecs, Section.text, itemsText, Gap.text, Filler.text,
      Declaration.text_block, blockText, Spec.text, bare, leftOver]
  have read : declaration? ((remarkedBlock plain oneLine).text ++ codeBelow) =
      some (blockPaths ("\n\t//".toList ++ front), back ++ ['\n'] ++ leftOver path) := by
    rw [parts]
    refine declaration?_of_reads ?_ (.block (by decide) unclosed)
    intro character member
    obtain rfl := Option.some.inj member
    decide
  rw [mem_framed (fresh_of_declaration? read), declaredPaths_of_some read, passed, List.append_nil]

/-! ### Which comments are harmless -/

section

variable {between inside : List Char → Prop}

private theorem Harmless.framed_iff (harmless : Harmless between inside) {imports : Section}
    (outside : ∀ text ∈ imports.outside, between text)
    (insides : ∀ text ∈ imports.inside, inside text) {found : String} :
    found ∈ paths imports.framed ↔ found.toList ∈ imports.paths := by
  have same := harmless imports "package p".toList codeBelow silent_package.1
    readDeclaration?_codeBelow outside insides
  rw [Section.framed, same]
  exact mem_framed_plain

private theorem Harmless.remarked_iff (harmless : Harmless between inside) {path text : List Char}
    (plain : path.all (fun character => !isQuote character && character != ')') = true)
    (oneLine : '\n' ∉ text) (isBetween : between text) {found : String} :
    found ∈ paths (remarked plain oneLine).framed ↔ found.toList ∈ [path] := by
  obtain ⟨outside, none⟩ := remarked_comments plain oneLine
  exact harmless.framed_iff (outside ▸ List.forall_mem_singleton.mpr isBetween)
    (none ▸ List.forall_mem_nil _)

private theorem Harmless.remarkedBlock_iff (harmless : Harmless between inside)
    {path text : List Char}
    (plain : path.all (fun character => !isQuote character && character != ')') = true)
    (oneLine : '\n' ∉ text) (isInside : inside text) {found : String} :
    found ∈ paths (remarkedBlock plain oneLine).framed ↔ found.toList ∈ [path] := by
  obtain ⟨none, insides⟩ := remarkedBlock_comments plain oneLine
  exact harmless.framed_iff (none ▸ List.forall_mem_nil _)
    (insides ▸ List.forall_mem_singleton.mpr isInside)

/-- Two paths, of which a comment cannot spell out both and nothing else. -/
def samplePaths : List (List Char) :=
  ["a".toList, "b".toList]

theorem plain_samplePaths : ∀ path ∈ samplePaths,
    path.all (fun character => !isQuote character && character != ')') = true := by
  decide

private theorem false_of_samplePaths (found : List Char)
    (only : ∀ path ∈ samplePaths, found ∈ [path]) :
    False := by
  have first := List.mem_singleton.mp (only "a".toList (by decide))
  have second := List.mem_singleton.mp (only "b".toList (by decide))
  exact absurd (first.symm.trans second) (by decide)

theorem Harmless.silent (harmless : Harmless between inside) {text : List Char}
    (oneLine : '\n' ∉ text) (isBetween : between text) : Silent text := by
  rw [silent_iff, List.eq_nil_iff_forall_not_mem]
  refine fun found read => false_of_samplePaths found fun path member => ?_
  have plain := plain_samplePaths path member
  have listed : String.ofList found ∈ paths (remarked plain oneLine).framed := by
    rw [mem_remarked, String.toList_ofList]
    exact List.mem_cons_of_mem _ read
  have only := (harmless.remarked_iff plain oneLine isBetween).mp listed
  rwa [String.toList_ofList] at only

theorem Harmless.unquoted (harmless : Harmless between inside) {text : List Char}
    (oneLine : '\n' ∉ text) (isInside : inside text) (closed : ')' ∉ text) : Unquoted text := by
  by_contra quoted
  obtain ⟨found, read⟩ := exists_path_of_quote quoted
  refine false_of_samplePaths found fun path member => ?_
  have plain := plain_samplePaths path member
  have listed := (harmless.remarkedBlock_iff plain oneLine isInside).mp
    (mem_remarkedBlock plain oneLine closed read)
  rwa [String.toList_ofList] at listed

private theorem Harmless.not_closed (harmless : Harmless between inside) {text : List Char}
    (oneLine : '\n' ∉ text) (isInside : inside text) (absent : ¬ Mentions text) : ')' ∉ text := by
  intro closes
  obtain ⟨front, back, rfl, opened⟩ := List.eq_append_cons_of_mem closes
  have nothing : ∀ path ∈ samplePaths, declaredPaths false (leftOver path) = [] := by
    decide +kernel
  -- The paths read from the comment are the same, whichever path stands below it.
  have read (path : List Char) (member : path ∈ samplePaths) (found : String) :
      found.toList ∈ blockPaths ("\n\t//".toList ++ front) ↔ found.toList ∈ [path] := by
    have plain := plain_samplePaths path member
    rw [← harmless.remarkedBlock_iff plain oneLine isInside,
      mem_closedBlock plain oneLine opened absent (nothing path member)]
  have first := (read "a".toList (by decide) "a").mpr (by decide)
  exact absurd ((read "b".toList (by decide) "a").mp first) (by decide)

/-- Comments with these texts are harmless exactly if those between declarations are silent and
those in blocks neither close the block nor have quotes, as long as no comment closes a block and
mentions the word as well. -/
theorem harmless_iff (closing : ∀ text, inside text → ')' ∈ text → ¬ Mentions text) :
    Harmless between inside ↔ (∀ text, '\n' ∉ text → between text → Silent text) ∧
      ∀ text, '\n' ∉ text → inside text → ')' ∉ text ∧ Unquoted text := by
  constructor
  · intro harmless
    refine ⟨fun text oneLine => harmless.silent oneLine, fun text oneLine isInside => ?_⟩
    have closed : ')' ∉ text := fun closes =>
      harmless.not_closed oneLine isInside (closing text isInside closes) closes
    exact ⟨closed, harmless.unquoted oneLine isInside closed⟩
  · rintro ⟨silent, unquoted⟩
    exact harmless_of_silent silent unquoted

end

/-! ## Documents with comments -/

/-- With comments that leave nothing open, the paths of a document are those without the comments
and those that the comments spell out. Comments are harmless in every document exactly if nothing
is read from them and none of them closes a block. -/
theorem paths_with_comments (between inside : List Char → Prop) :
    (∀ (imports : Section) (lead after : List Char), Settled lead → readDeclaration? after = none →
      (∀ text ∈ imports.outside, Settled text) → (∀ text ∈ imports.inside, Paired text) →
        ∀ path, path ∈ paths (imports.document (lead ++ ['\n']) after) ↔
          path ∈ paths (imports.plain.document (lead ++ ['\n']) after) ∨
            path.toList ∈ imports.commentedOut) ∧
      ((∀ text, inside text → ')' ∈ text → ¬ Mentions text) →
        (Harmless between inside ↔ (∀ text, '\n' ∉ text → between text → Silent text) ∧
          ∀ text, '\n' ∉ text → inside text → ')' ∉ text ∧ Unquoted text)) := by
  constructor
  · intro imports lead after settledLead apart settled paired path
    rw [mem_paths_document settledLead apart settled paired, mem_paths_plain settledLead apart]
    tauto
  · exact fun closing => harmless_iff closing

def annotated : Section where
  declarations := [([.blank ['\n'] blank_newline, .comment " import \"old\"".toList (by decide)],
    .block [' '] [([.blank [' '] blank_space, .comment " once \"fmt\"".toList (by decide),
      .blank ['\t'] blank_tab], bare "io".toList rfl)] [.blank ['\n'] blank_newline]
      blank_space nofun)]
  closing := [.blank "\n\n".toList blank_lines]
  lines := nofun

theorem paths_with_comments_example :
    let document := annotated.document ("package main".toList ++ ['\n']) "func main() {}\n".toList
    document = "package main\n\n// import \"old\"\nimport ( // once \"fmt\"\n\t\"io\"\n)\n\n" ++
        "func main() {}\n" ∧
      Settled "package main".toList ∧ readDeclaration? "func main() {}\n".toList = none ∧
        (∀ text ∈ annotated.outside, Settled text) ∧ (∀ text ∈ annotated.inside, Paired text) ∧
          "old" ∈ paths document ∧ "fmt" ∈ paths document ∧
            Harmless (· = " see import notes".toList) (· = " :-|".toList) := by
  have settledLead : Settled "package main".toList := by decide +kernel
  have apart : readDeclaration? "func main() {}\n".toList = none := by decide
  have settled : ∀ text ∈ annotated.outside, Settled text :=
    List.forall_mem_singleton.mpr (show Settled " import \"old\"".toList by decide +kernel)
  have paired : ∀ text ∈ annotated.inside, Paired text :=
    List.forall_mem_singleton.mpr (show Paired " once \"fmt\"".toList from ⟨by decide, by decide⟩)
  obtain ⟨commented, harmless⟩ :=
    paths_with_comments (· = " see import notes".toList) (· = " :-|".toList)
  have read := commented annotated "package main".toList "func main() {}\n".toList
    settledLead apart settled paired
  have closing : ∀ text, text = " :-|".toList → ')' ∈ text → ¬ Mentions text := by
    rintro text rfl closes
    exact absurd closes (by decide)
  refine ⟨by decide +kernel, settledLead, apart, settled, paired, ?_, ?_, ?_⟩
  · exact (read "old").mpr (.inr (by decide +kernel))
  · exact (read "fmt").mpr (.inr (by decide +kernel))
  · refine (harmless closing).mpr ⟨?_, ?_⟩
    · rintro text - rfl
      exact silent_iff.mpr (by decide +kernel)
    · rintro text - rfl
      decide

def emoticon : Section where
  declarations := [([.blank ['\n'] blank_newline], .block [' '] [
    ([.blank "\n\t".toList blank_indent], bare "os".toList rfl),
    ([.blank [' '] blank_space, .comment " :)".toList (by decide), .blank ['\t'] blank_tab],
      bare "io".toList rfl)] [.blank ['\n'] blank_newline] blank_space (by decide))]
  closing := [.blank ['\n'] blank_newline]
  lines := nofun

/-- A comment can end a block, and then the paths behind it are missed. A path that is commented out
counts as one of the document. -/
theorem comments_change_paths :
    let document := emoticon.document ("package main".toList ++ ['\n']) []
    let plain := emoticon.plain.document ("package main".toList ++ ['\n']) []
    document = "package main\n\nimport (\n\t\"os\" // :)\n\t\"io\"\n)\n" ∧
      plain = "package main\n\nimport (\n\t\"os\" \n\t\"io\"\n)\n" ∧
        "io" ∈ paths plain ∧ "io" ∉ paths document ∧ declares document "io" = false ∧
          "old" ∈ paths "package main\n\n// import \"old\"\n" := by
  have missed : "io" ∉ paths (emoticon.document ("package main".toList ++ ['\n']) []) := by
    rw [mem_paths]
    decide +kernel
  refine ⟨by decide +kernel, by decide +kernel, ?_, missed, ?_, ?_⟩
  · rw [mem_paths]
    decide +kernel
  · rw [declares, Bool.eq_false_iff]
    exact missed
  · rw [mem_paths]
    decide +kernel

end SymbolCache.Imports
