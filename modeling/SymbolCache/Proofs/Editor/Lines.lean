import SymbolCache.Proofs.Editor.Imports

/-!
# Lines

A text is read on its own if none of its declarations goes on on the lines below it.
-/

set_option autoImplicit false

namespace SymbolCache.Imports

open Text (Blank)

variable {text rest left : List Char} {paths : List (List Char)} {flag : Bool}

/-! ## What the next line adds -/

/-- What is read behind the word stays the same with more text behind it. -/
theorem Reads.append (reads : Reads text paths rest) (more : List Char) :
    Reads (text ++ more) paths (rest ++ more) := by
  cases reads with
  | @path gap label path rest opening closing blank labelled opens unquoted closes =>
      have longer : Reads _ [path] (rest ++ more) := .path blank labelled opens unquoted closes
      simpa using longer
  | @block gap body rest blank inside =>
      have longer : Reads _ _ (rest ++ more) := .block blank inside
      simpa using longer

/-- A path or a block that is opened behind the word and not closed. -/
inductive Unfinished : List Char → Prop where
  | path {gap label path : List Char} {opening : Char} (blank : Blank gap)
      (labelled : Label label) (opens : isQuote opening = true) (unquoted : Unquoted path) :
      Unfinished (gap ++ (label ++ opening :: path))
  | block {gap body : List Char} (blank : Blank gap) (inside : ')' ∉ body) :
      Unfinished (gap ++ '(' :: body)

theorem IsName.not_mem {name : List Char} (isName : IsName name) : '\n' ∉ name := by
  obtain ⟨first, others, rfl, starts, words⟩ := isName
  intro member
  rcases List.mem_cons.mp member with rfl | member
  · exact absurd starts (by decide)
  · exact absurd (List.all_eq_true.mp words '\n' member) (by decide)

/-- A label that goes on on the next line ends with white space there. -/
theorem Label.blank_of_append {before after : List Char}
    (labelled : Label (before ++ '\n' :: after)) : Blank after := by
  generalize same : before ++ '\n' :: after = label at labelled
  cases labelled with
  | none => simp at same
  | @name name gap isName blank filled =>
      rcases List.append_eq_append_iff.mp same with ⟨tail, rfl, behind⟩ | ⟨tail, rfl, rfl⟩
      · cases tail with
        | nil =>
            obtain rfl : '\n' :: after = gap := behind
            exact (List.forall_mem_cons.mp blank).2
        | cons next tail =>
            obtain ⟨rfl, -⟩ := List.cons_eq_cons.mp behind
            exact absurd (by simp) isName.not_mem
      · exact (List.forall_mem_cons.mp (List.forall_mem_append.mp blank).2).2

/-- A part of a text of two lines ends on the first line or goes on on the second. -/
theorem parts_of_lines {before behind : List Char}
    (same : text ++ '\n' :: rest = before ++ behind) :
    (∃ tail, text = before ++ tail ∧ behind = tail ++ '\n' :: rest) ∨
      ∃ tail, before = text ++ '\n' :: tail ∧ rest = tail ++ behind := by
  rcases List.append_eq_append_iff.mp same with ⟨tail, spelled, below⟩ | ⟨tail, rfl, rfl⟩
  · cases tail with
    | nil => exact .inl ⟨[], by simpa using spelled.symm, below.symm⟩
    | cons next tail =>
        obtain ⟨rfl, rfl⟩ := List.cons_eq_cons.mp below
        exact .inr ⟨tail, spelled, rfl⟩
  · exact .inl ⟨tail, rfl, rfl⟩

theorem exists_of_cons_eq {first : Char} {behind : List Char} (solid : first ≠ '\n')
    (same : first :: behind = text ++ '\n' :: rest) :
    ∃ tail, text = first :: tail ∧ behind = tail ++ '\n' :: rest := by
  cases text with
  | nil => exact absurd (List.cons_eq_cons.mp same).1 solid
  | cons next tail =>
      obtain ⟨rfl, below⟩ := List.cons_eq_cons.mp same
      exact ⟨tail, rfl, below⟩

private theorem ne_newline_of_isQuote {quote : Char} (isQuote : isQuote quote = true) :
    quote ≠ '\n' := by
  rintro rfl
  exact absurd isQuote (by decide)

private theorem reads_next_line (reads : Reads (text ++ '\n' :: rest) paths left)
    (unread : readDeclaration? text = none) :
    Unfinished text ∨ Reads rest paths left ∧
      (Blank text ∨ ∃ quote ∈ (Text.trimStart rest).head?, isQuote quote = true) := by
  have within {left : List Char} : ¬ Reads text paths left := by
    intro reads
    rw [readDeclaration?_eq_some_iff.mpr reads] at unread
    exact nomatch unread
  generalize same : text ++ '\n' :: rest = whole at reads
  cases reads with
  | @path gap label path left opening closing blank labelled opens unquoted closes =>
      rcases parts_of_lines same with ⟨named, rfl, behindGap⟩ | ⟨below, rfl, rfl⟩
      · rcases parts_of_lines behindGap.symm with ⟨quoted, rfl, behindLabel⟩ | ⟨below, rfl, rfl⟩
        · obtain ⟨spelled, rfl, behindQuote⟩ :=
            exists_of_cons_eq (ne_newline_of_isQuote opens) behindLabel
          rcases parts_of_lines behindQuote.symm with ⟨closed, rfl, behindPath⟩ | ⟨below, rfl, -⟩
          · obtain ⟨more, rfl, -⟩ := exists_of_cons_eq (ne_newline_of_isQuote closes) behindPath
            exact absurd (.path blank labelled opens unquoted closes) within
          · have above : Unquoted spelled := fun character member =>
              unquoted character (List.mem_append_left _ member)
            exact .inl (.path blank labelled opens above)
        · have indent : Blank below := labelled.blank_of_append
          refine .inr ⟨.path indent .none opens unquoted closes, .inr ⟨opening, ?_, opens⟩⟩
          rw [Text.trimStart_append indent, Text.trimStart_cons (isWhiteSpace_of_isQuote opens)]
          rfl
      · obtain ⟨above, others⟩ := List.forall_mem_append.mp blank
        have indent := (List.forall_mem_cons.mp others).2
        exact .inr ⟨.path indent labelled opens unquoted closes, .inl above⟩
  | @block gap body left blank inside =>
      rcases parts_of_lines same with ⟨opened, rfl, behindGap⟩ | ⟨below, rfl, rfl⟩
      · obtain ⟨spelled, rfl, behindOpening⟩ := exists_of_cons_eq (by decide) behindGap
        rcases parts_of_lines behindOpening.symm with ⟨closed, rfl, behindBody⟩ | ⟨below, rfl, -⟩
        · obtain ⟨more, rfl, -⟩ := exists_of_cons_eq (by decide) behindBody
          exact absurd (.block blank inside) within
        · exact .inl (.block blank (mt (List.mem_append_left _) inside))
      · obtain ⟨above, others⟩ := List.forall_mem_append.mp blank
        exact .inr ⟨.block (List.forall_mem_cons.mp others).2 inside, .inl above⟩

theorem afterWord?_append_newline :
    afterWord? (text ++ '\n' :: rest) = (afterWord? text).map (· ++ '\n' :: rest) := by
  ext behind
  rw [Option.map_eq_some_iff, afterWord?_eq_some_iff]
  constructor
  · rintro ⟨spelled, apart⟩
    rcases parts_of_lines spelled with ⟨tail, rfl, rfl⟩ | ⟨tail, within, -⟩
    · refine ⟨tail, afterWord?_eq_some_iff.mpr ⟨rfl, fun character member => ?_⟩, rfl⟩
      exact apart character (List.mem_head?_append_of_mem_head? member)
    · exact absurd (within ▸ by simp : '\n' ∈ "import".toList) (by decide)
  · rintro ⟨tail, word, rfl⟩
    obtain ⟨rfl, apart⟩ := afterWord?_eq_some_iff.mp word
    refine ⟨List.append_assoc _ _ _, ?_⟩
    cases tail with
    | nil =>
      intro character member
      obtain rfl := Option.some.inj member
      decide
    | cons => exact apart

private theorem declaration?_append_newline (read : declaration? text = some (paths, left)) :
    declaration? (text ++ '\n' :: rest) = some (paths, left ++ '\n' :: rest) := by
  obtain ⟨behind, -, word, reads⟩ := exists_of_declaration? read
  rw [declaration?, afterWord?_append_newline, word]
  exact readDeclaration?_eq_some_iff.mpr (reads.append _)

/-- What is read at a word only with the next line: a declaration of that line, one that is not
finished, or one that has its path there. -/
theorem declaration?_next_line (none : declaration? text = none)
    (read : declaration? (text ++ '\n' :: rest) = some (paths, left)) :
    ∃ behind, afterWord? text = some behind ∧
      (Unfinished behind ∨ Reads rest paths left ∧
        (Blank behind ∨ ∃ quote ∈ (Text.trimStart rest).head?, isQuote quote = true)) := by
  obtain ⟨longer, word, inner⟩ := Option.bind_eq_some_iff.mp read
  rw [afterWord?_append_newline] at word
  obtain ⟨behind, found, rfl⟩ := Option.map_eq_some_iff.mp word
  rw [declaration?, found] at none
  exact ⟨behind, found, reads_next_line (readDeclaration?_eq_some_iff.mp inner) none⟩

/-! ## Texts that are finished -/

def codeBelow : List Char :=
  "var s = \"\"\n\nfunc f() {}\n".toList

/-- Nothing more is read from a text when there is code on the lines below it. -/
def Settled (text : List Char) : Prop :=
  declaredPaths false (text ++ '\n' :: codeBelow) = declaredPaths false text

instance (text : List Char) : Decidable (Settled text) :=
  inferInstanceAs (Decidable (_ = _))

/-- What the word on the line above would make of a text is what the text declares itself. -/
def Fresh (text : List Char) : Prop :=
  ∀ result, readDeclaration? text = some result → declaration? (Text.trimStart text) = some result

theorem readDeclaration?_codeBelow : readDeclaration? codeBelow = none := by
  decide

theorem declaredPaths_codeBelow : declaredPaths false codeBelow = [] := by
  decide +kernel

/-- What is not finished takes more paths from the code below than it has quotes for. -/
theorem Unfinished.exists_reads (unfinished : Unfinished text) :
    ∃ paths rest, Reads (text ++ '\n' :: codeBelow) paths rest ∧
      text.countP isQuote < 2 * paths.length := by
  cases unfinished with
  | @path gap label path opening blank labelled opens unquoted =>
      have longer : Unquoted (path ++ "\nvar s = ".toList) :=
        List.forall_mem_append.mpr ⟨unquoted, show Unquoted "\nvar s = ".toList by decide⟩
      have closed : '\n' :: codeBelow =
          "\nvar s = ".toList ++ '"' :: "\"\n\nfunc f() {}\n".toList := by decide
      refine ⟨[path ++ "\nvar s = ".toList], "\"\n\nfunc f() {}\n".toList, ?_, ?_⟩
      · have reads : Reads _ _ "\"\n\nfunc f() {}\n".toList :=
          .path blank labelled opens longer (show isQuote '"' = true from rfl)
        rw [closed]
        simpa only [List.append_assoc, List.cons_append] using reads
      · rw [List.countP_append, List.countP_append, List.countP_cons_of_pos opens,
          countP_eq_zero_of_unquoted unquoted, countP_eq_zero_of_unquoted labelled.unquoted,
          countP_eq_zero_of_unquoted (unquoted_of_blank blank), List.length_singleton]
        decide
  | @block gap body blank inside =>
      have longer : ')' ∉ body ++ "\nvar s = \"\"\n\nfunc f(".toList := by
        rw [List.mem_append]
        exact fun member => member.elim inside (by decide)
      have closed : '\n' :: codeBelow =
          "\nvar s = \"\"\n\nfunc f(".toList ++ ')' :: " {}\n".toList := by decide
      refine ⟨blockPaths (body ++ "\nvar s = \"\"\n\nfunc f(".toList), " {}\n".toList, ?_, ?_⟩
      · have reads : Reads _ _ " {}\n".toList := .block blank longer
        rw [closed]
        simpa only [List.append_assoc, List.cons_append] using reads
      · have quotes : "\nvar s = \"\"\n\nfunc f(".toList.countP isQuote = 2 := by decide
        have opening : isQuote '(' ≠ true := by decide
        rw [length_blockPaths, List.countP_append, List.countP_append,
          List.countP_cons_of_neg opening, quotes,
          countP_eq_zero_of_unquoted (unquoted_of_blank blank)]
        omega

private theorem not_unfinished {behind : List Char} (word : afterWord? text = some behind)
    (settled : (declaredPaths false (text ++ '\n' :: codeBelow)).length ≤
      (declaredPaths false text).length) : ¬ Unfinished behind := by
  intro unfinished
  obtain ⟨paths, left, reads, fewer⟩ := unfinished.exists_reads
  have read : declaration? (text ++ '\n' :: codeBelow) = some (paths, left) := by
    rw [declaration?, afterWord?_append_newline, word]
    exact readDeclaration?_eq_some_iff.mpr reads
  rw [declaredPaths_of_some read, List.length_append] at settled
  have most := length_declaredPaths_le false text
  rw [quotes_of_afterWord? word] at most
  omega

theorem Fresh.declared (fresh : Fresh rest) (reads : Reads rest paths left) :
    declaration? (Text.trimStart rest) = some (paths, left) :=
  fresh _ (readDeclaration?_eq_some_iff.mpr reads)

private theorem Fresh.not_isQuote (fresh : Fresh rest) (reads : Reads rest paths left)
    {quote : Char}
    (starts : quote ∈ (Text.trimStart rest).head?) : isQuote quote = false := by
  obtain ⟨behind, spelled, -⟩ := exists_of_declaration? (fresh.declared reads)
  rw [spelled] at starts
  obtain rfl := Option.some.inj starts
  decide

private theorem Fresh.declaredPaths_eq (fresh : Fresh rest) (reads : Reads rest paths left) :
    declaredPaths false rest = paths ++ declaredPaths false left := by
  rw [← declaredPaths_trimStart, declaredPaths_of_some (fresh.declared reads)]

theorem fresh_codeBelow : Fresh codeBelow := by
  intro result read
  exact nomatch readDeclaration?_codeBelow.symm.trans read

/-- Where nothing is read at the end of a settled text, the next line is read on its own. -/
theorem blank_of_next_line (fresh : Fresh rest) (none : declaration? text = none)
    (settled : (declaredPaths false (text ++ '\n' :: codeBelow)).length ≤
      (declaredPaths false text).length)
    (read : declaration? (text ++ '\n' :: rest) = some (paths, left)) :
    ∃ behind, afterWord? text = some behind ∧ Blank behind ∧ Reads rest paths left := by
  obtain ⟨behind, word, unfinished | ⟨reads, blank | ⟨quote, starts, isQuote⟩⟩⟩ :=
    declaration?_next_line none read
  · exact absurd unfinished (not_unfinished word settled)
  · exact ⟨behind, word, blank, reads⟩
  · exact absurd ((fresh.not_isQuote reads starts).symm.trans isQuote) Bool.false_ne_true

private theorem declaration?_codeBelow (none : declaration? text = none)
    (settled : (declaredPaths false (text ++ '\n' :: codeBelow)).length ≤
      (declaredPaths false text).length) : declaration? (text ++ '\n' :: codeBelow) = .none := by
  by_contra read
  obtain ⟨⟨paths, left⟩, read⟩ := Option.ne_none_iff_exists'.mp read
  obtain ⟨-, -, -, reads⟩ := blank_of_next_line fresh_codeBelow none settled read
  rw [← readDeclaration?_eq_some_iff, readDeclaration?_codeBelow] at reads
  exact nomatch reads

/-- A text that takes no more paths from the code below is read apart from the lines below it. -/
theorem declaredPaths_append_newline (fresh : Fresh rest)
    (settled : (declaredPaths flag (text ++ '\n' :: codeBelow)).length ≤
      (declaredPaths flag text).length) :
    declaredPaths flag (text ++ '\n' :: rest) =
      declaredPaths flag text ++ declaredPaths false rest := by
  induction flag, text using declaredPaths.induct with
  | case1 flag =>
      rw [declaredPaths_nil, List.nil_append, List.nil_append]
      refine declaredPaths_of_unread ?_
      cases flag <;> rfl
  | case2 flag first text unread ih =>
      have step {rest : List Char} (unread : (if flag then none
          else declaration? (first :: (text ++ '\n' :: rest))) = none) :
          declaredPaths flag (first :: text ++ '\n' :: rest) =
            declaredPaths (Text.isWord first) (text ++ '\n' :: rest) :=
        declaredPaths_of_unread unread
      cases flag with
      | true =>
          rw [step rfl, declaredPaths_of_word] at settled
          rw [step rfl, declaredPaths_of_word, ih settled]
      | false =>
          have none : declaration? (first :: text) = none := unread
          cases read : declaration? (first :: text ++ '\n' :: rest) with
          | none =>
              rw [step (declaration?_codeBelow none settled), declaredPaths_of_none none] at settled
              rw [step read, declaredPaths_of_none none, ih settled]
          | some result =>
              obtain ⟨paths, left⟩ := result
              obtain ⟨behind, word, blank, reads⟩ := blank_of_next_line fresh none settled read
              have unquoted := unquoted_of_afterWord? word (unquoted_of_blank blank)
              rw [declaredPaths_of_some read, declaredPaths_of_unquoted unquoted, List.nil_append,
                fresh.declaredPaths_eq reads]
  | case3 flag first text paths left read ih =>
      cases flag with
      | true => cases read
      | false =>
          have longer {rest : List Char} : declaredPaths false (first :: text ++ '\n' :: rest) =
              paths ++ declaredPaths false (left ++ '\n' :: rest) :=
            declaredPaths_of_some (declaration?_append_newline read)
          rw [longer, declaredPaths_of_some read, List.length_append, List.length_append] at settled
          rw [longer, declaredPaths_of_some read, ih (by omega), List.append_assoc]

theorem Settled.declaredPaths_append (settled : Settled text) (fresh : Fresh rest) :
    declaredPaths false (text ++ '\n' :: rest) =
      declaredPaths false text ++ declaredPaths false rest :=
  declaredPaths_append_newline fresh (le_of_eq (congrArg List.length settled))

/-! ## Texts that are read on their own -/

theorem Fresh.append {gap : List Char} (fresh : Fresh rest) (blank : Blank gap) :
    Fresh (gap ++ rest) := by
  intro result read
  rw [readDeclaration?_append_of_blank blank] at read
  rw [Text.trimStart_append blank]
  exact fresh result read

theorem fresh_of_none (none : readDeclaration? rest = none) : Fresh rest := by
  intro result read
  exact nomatch none.symm.trans read

theorem fresh_of_slash : Fresh ('/' :: rest) :=
  fresh_of_none rfl

/-- When the word is the name in front of a path, nothing but white space stands between them. -/
theorem blank_of_label {behind label quoted : List Char} {opening : Char}
    (apart : ∀ character ∈ behind.head?, Text.isWord character = false) (labelled : Label label)
    (opens : isQuote opening = true)
    (same : "import".toList ++ behind = label ++ opening :: quoted) :
    ∃ gap, Blank gap ∧ behind = gap ++ opening :: quoted := by
  cases labelled with
  | none =>
      obtain ⟨rfl, -⟩ := List.cons_eq_cons.mp same
      exact absurd opens (by decide)
  | @name name gap isName blank filled =>
      rw [List.append_assoc] at same
      rcases List.append_eq_append_iff.mp same with ⟨more, named, rfl⟩ | ⟨more, spelled, below⟩
      · cases more with
        | nil => exact ⟨gap, blank, rfl⟩
        | cons next more =>
            obtain ⟨first, others, rfl, -, words⟩ := isName
            obtain ⟨-, rfl⟩ := List.cons_eq_cons.mp named
            have word := Text.isWord_of_isAsciiWord (List.all_eq_true.mp words next (by simp))
            exact absurd ((apart next rfl).symm.trans word) Bool.false_ne_true
      · cases more with
        | nil => exact ⟨gap, blank, below.symm⟩
        | cons next more =>
            obtain ⟨space, gap, rfl⟩ := List.exists_cons_of_ne_nil filled
            obtain ⟨rfl, -⟩ := List.cons_eq_cons.mp below
            have words : "import".toList.all Text.isWord = true := by decide
            have word := List.all_eq_true.mp words space (by simp [spelled])
            have solid := Text.isWord_of_isWhiteSpace (blank space List.mem_cons_self)
            exact absurd (solid.symm.trans word) Bool.false_ne_true

/-- The word can be read as a name, but then its own path is the one behind the name. -/
theorem reads_of_word {behind : List Char}
    (apart : ∀ character ∈ behind.head?, Text.isWord character = false)
    (reads : Reads ("import".toList ++ behind) paths left) : Reads behind paths left := by
  have solid {gap rest : List Char} (blank : Blank gap)
      (same : "import".toList ++ behind = gap ++ rest) : gap = [] := by
    cases gap with
    | nil => rfl
    | cons space gap =>
        obtain ⟨rfl, -⟩ := List.cons_eq_cons.mp same
        exact absurd (blank 'i' List.mem_cons_self) (by decide)
  generalize same : "import".toList ++ behind = whole at reads
  cases reads with
  | path blank labelled opens unquoted closes =>
      obtain rfl := solid blank same
      obtain ⟨gap, between, rfl⟩ := blank_of_label apart labelled opens same
      exact .path between .none opens unquoted closes
  | block blank inside =>
      obtain rfl := solid blank same
      exact absurd (List.cons_eq_cons.mp same).1 (by decide)

theorem fresh_of_declaration? {result : List (List Char) × List Char}
    (read : declaration? rest = some result) : Fresh rest := by
  obtain ⟨behind, spelled, word, -⟩ := exists_of_declaration? read
  have apart := (afterWord?_eq_some_iff.mp word).2
  intro result joined
  have solid : Text.trimStart rest = rest := by
    rw [spelled]
    exact Text.trimStart_cons (by decide) _
  rw [solid, declaration?, word]
  rw [spelled] at joined
  have reads := reads_of_word apart (readDeclaration?_eq_some_iff.mp joined)
  exact readDeclaration?_eq_some_iff.mpr reads

end SymbolCache.Imports
