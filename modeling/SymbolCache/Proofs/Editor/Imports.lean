import Mathlib.Algebra.Ring.Parity
import Mathlib.Data.List.Basic
import Mathlib.Data.List.Infix
import Mathlib.Data.List.TakeWhile
import SymbolCache.Editor.Imports
import SymbolCache.Proofs.Text.Parts
import SymbolCache.Proofs.Text.Trimming

/-!
# Import declarations

What is read as an import declaration, what is read from a block, and what is passed over.
-/

set_option autoImplicit false

namespace SymbolCache

namespace Text

theorem isWord_of_isAsciiWord {character : Char} (word : isAsciiWord character = true) :
    isWord character = true := by
  have ascii : isAscii character = true := by
    revert word
    simp only [isAsciiWord, isAsciiAlphanumeric, isAsciiLetter, isAsciiUpper, isAsciiLower,
      isAsciiDigit, isAscii, Bool.or_eq_true, Bool.and_eq_true, decide_eq_true_eq, beq_iff_eq]
    rintro (h | rfl)
    · simp at h
      omega
    · decide
  rw [isWord, if_pos ascii, word]

end Text

namespace Imports

open Text (Blank)

/-! ## The word -/

section

variable {text rest left : List Char} {paths : List (List Char)} {flag : Bool}

theorem any_isWord_eq_false_iff {next : Option Char} :
    next.any Text.isWord = false ↔ ∀ character ∈ next, Text.isWord character = false := by
  cases next <;> simp

theorem afterWord?_eq_some_iff :
    afterWord? text = some rest ↔
      text = "import".toList ++ rest ∧
        ∀ character ∈ rest.head?, Text.isWord character = false := by
  rw [afterWord?, Option.filter_eq_some_iff, Text.dropPrefix?_eq_some_iff, Bool.not_eq_true',
    any_isWord_eq_false_iff]

/-- The word `import` is in a text, with no character of a word next to it. -/
def Mentions (text : List Char) : Prop :=
  ∃ before after, text = before ++ ("import".toList ++ after) ∧
    (∀ character ∈ before.getLast?, Text.isWord character = false) ∧
    ∀ character ∈ after.head?, Text.isWord character = false

private theorem mentions_iff :
    Mentions text ↔ (text.inits.any fun before =>
      !before.getLast?.any Text.isWord && (afterWord? (text.drop before.length)).isSome) =
        true := by
  simp only [List.any_eq_true, Bool.and_eq_true, Bool.not_eq_true', any_isWord_eq_false_iff,
    List.mem_inits, Option.isSome_iff_exists, afterWord?_eq_some_iff]
  constructor
  · rintro ⟨before, after, rfl, ended, apart⟩
    exact ⟨before, List.prefix_append _ _, ended, after, List.drop_left, apart⟩
  · rintro ⟨before, ⟨rest, rfl⟩, ended, after, same, apart⟩
    rw [List.drop_left] at same
    exact ⟨before, after, by rw [same], ended, apart⟩

instance (text : List Char) : Decidable (Mentions text) :=
  decidable_of_iff _ mentions_iff.symm

/-! ## One declaration after another -/

theorem declaredPaths_nil (flag : Bool) : declaredPaths flag [] = [] := by
  rw [declaredPaths]

theorem declaredPaths_of_word (first : Char) (rest : List Char) :
    declaredPaths true (first :: rest) = declaredPaths (Text.isWord first) rest := by
  rw [declaredPaths]
  rfl

theorem declaredPaths_of_none {first : Char} (none : declaration? (first :: rest) = none)
    (flag : Bool) :
    declaredPaths flag (first :: rest) = declaredPaths (Text.isWord first) rest := by
  cases flag with
  | true => exact declaredPaths_of_word first rest
  | false =>
      rw [declaredPaths]
      split
      · rfl
      · simp_all

theorem declaredPaths_of_unread {first : Char}
    (unread : (if flag then none else declaration? (first :: rest)) = none) :
    declaredPaths flag (first :: rest) = declaredPaths (Text.isWord first) rest := by
  cases flag with
  | true => exact declaredPaths_of_word first rest
  | false => exact declaredPaths_of_none unread false

theorem declaredPaths_of_some (read : declaration? text = some (paths, rest)) :
    declaredPaths false text = paths ++ declaredPaths false rest := by
  cases text with
  | nil => exact nomatch read
  | cons first text =>
      rw [declaredPaths]
      split
      · simp_all
      · simp_all

/-- Nothing is read where no word `import` can be read, with what follows taken into account. -/
theorem declaredPaths_append (flag : Bool) {text rest : List Char}
    (none : ∀ before suffix, text = before ++ suffix → suffix ≠ [] →
      (before.getLast?.map Text.isWord).getD flag = false → afterWord? (suffix ++ rest) = none) :
    declaredPaths flag (text ++ rest) =
      declaredPaths ((text.getLast?.map Text.isWord).getD flag) rest := by
  induction text generalizing flag with
  | nil => rfl
  | cons first text ih =>
      have step : declaredPaths flag (first :: (text ++ rest)) =
          declaredPaths (Text.isWord first) (text ++ rest) := by
        cases flag with
        | true => exact declaredPaths_of_word first _
        | false =>
            refine declaredPaths_of_none ?_ false
            rw [declaration?, ← List.cons_append, none [] (first :: text) rfl (by simp) rfl]
            rfl
      rw [List.cons_append, step, ih]
      · simp [List.getLast?_cons]
      · intro before suffix parts filled boundary
        refine none (first :: before) suffix (by rw [parts, List.cons_append]) filled ?_
        rw [← boundary, List.getLast?_cons]
        cases before.getLast? <;> rfl

/-- Every character of the word is one of a word, so that a text which ends otherwise does not end
within it. -/
theorem isWord_of_getLast? {suffix : List Char} (within : suffix <+: "import".toList)
    {character : Char} (last : character ∈ suffix.getLast?) : Text.isWord character = true := by
  have words : "import".toList.all Text.isWord = true := by decide
  exact List.all_eq_true.mp words character (within.subset (List.mem_of_getLast? last))

private theorem afterWord?_eq_none_of_not_mentions (absent : ¬ Mentions text)
    (ends : rest ≠ [] → ∀ character ∈ text.getLast?, Text.isWord character = false)
    {before suffix : List Char} (parts : text = before ++ suffix) (filled : suffix ≠ [])
    (boundary : ∀ character ∈ before.getLast?, Text.isWord character = false) :
    afterWord? (suffix ++ rest) = none := by
  by_contra found
  obtain ⟨after, read⟩ := Option.ne_none_iff_exists'.mp found
  obtain ⟨spelled, apart⟩ := afterWord?_eq_some_iff.mp read
  by_cases more : rest = []
  · rw [more, List.append_nil] at spelled
    exact absent ⟨before, after, by rw [parts, spelled], boundary, apart⟩
  · -- The last character of the text is none of a word, so the word ends before it.
    have outside : ¬ suffix <+: "import".toList := by
      intro within
      obtain ⟨last, isLast⟩ :=
        Option.ne_none_iff_exists'.mp (mt List.getLast?_eq_none_iff.mp filled)
      have ended := ends more last (by rwa [parts, List.getLast?_append_of_ne_nil _ filled])
      exact Bool.false_ne_true (ended.symm.trans (isWord_of_getLast? within isLast))
    rcases List.append_eq_append_iff.mp spelled with ⟨tail, within, -⟩ | ⟨tail, beyond, same⟩
    · exact outside (within ▸ List.prefix_append suffix tail)
    · cases tail with
      | nil => exact outside (beyond ▸ (List.append_nil _).symm ▸ List.prefix_rfl)
      | cons next tail =>
          refine absent ⟨before, next :: tail, by rw [parts, beyond], boundary, ?_⟩
          rw [same] at apart
          exact apart

/-- A text that does not mention the word, and does not end within one, is passed over. -/
theorem declaredPaths_append_of_not_mentions (absent : ¬ Mentions text)
    (ends : rest ≠ [] → ∀ character ∈ text.getLast?, Text.isWord character = false) :
    declaredPaths false (text ++ rest) = declaredPaths false rest := by
  rw [declaredPaths_append]
  · by_cases more : rest = []
    · rw [more, declaredPaths_nil, declaredPaths_nil]
    · cases last : text.getLast? with
      | none => rfl
      | some character => exact congrArg (declaredPaths · rest) (ends more character last)
  · intro before suffix parts filled boundary
    refine afterWord?_eq_none_of_not_mentions absent ends parts filled fun character member => ?_
    rwa [Option.mem_def.mp member] at boundary

private theorem not_mentions_of_blank (blank : Blank text) : ¬ Mentions text := by
  rintro ⟨before, after, rfl, -⟩
  have solid : Text.isWhiteSpace 'i' = false := by decide
  exact blank.not_mem solid (by simp)

/-- White space in front of a document is passed over. -/
theorem declaredPaths_append_of_blank (blank : Blank text) (rest : List Char) :
    declaredPaths false (text ++ rest) = declaredPaths false rest :=
  declaredPaths_append_of_not_mentions (not_mentions_of_blank blank) fun _ character member =>
    Text.isWord_of_isWhiteSpace (blank character (List.mem_of_getLast? member))

theorem declaredPaths_trimStart (text : List Char) :
    declaredPaths false (Text.trimStart text) = declaredPaths false text := by
  have blank : Blank (text.takeWhile Text.isWhiteSpace) := fun _ => List.mem_takeWhile_imp
  rw [← declaredPaths_append_of_blank blank (Text.trimStart text), Text.trimStart,
    List.takeWhile_append_dropWhile]

/-! ## What a declaration is read from -/

def IsName (name : List Char) : Prop :=
  ∃ first others, name = first :: others ∧
    (Text.isAsciiLetter first || first == '_' || first == '.') = true ∧
    others.all Text.isAsciiWord = true

/-- What stands right before a path: nothing, or a name with white space behind it. -/
inductive Label : List Char → Prop where
  | none : Label []
  | name {name gap : List Char} (isName : IsName name) (blank : Blank gap) (filled : gap ≠ []) :
      Label (name ++ gap)

def Unquoted (text : List Char) : Prop :=
  ∀ character ∈ text, isQuote character = false

instance (text : List Char) : Decidable (Unquoted text) :=
  decidable_of_iff ((text.all fun character => !isQuote character) = true) (by simp [Unquoted])

inductive Reads : List Char → List (List Char) → List Char → Prop where
  | path {gap label path rest : List Char} {opening closing : Char} (blank : Blank gap)
      (labelled : Label label) (opens : isQuote opening = true) (unquoted : Unquoted path)
      (closes : isQuote closing = true) :
      Reads (gap ++ (label ++ opening :: (path ++ closing :: rest))) [path] rest
  | block {gap body rest : List Char} (blank : Blank gap) (inside : ')' ∉ body) :
      Reads (gap ++ '(' :: (body ++ ')' :: rest)) (blockPaths body) rest

theorem exists_of_dropWhile {passes : Char → Bool} {next : Char}
    (found : text.dropWhile passes = next :: rest) :
    text = text.takeWhile passes ++ next :: rest ∧
      (∀ character ∈ text.takeWhile passes, passes character = true) ∧ passes next = false := by
  refine ⟨?_, fun character => List.mem_takeWhile_imp, ?_⟩
  · rw [← found, List.takeWhile_append_dropWhile]
  · have stops := List.head?_dropWhile_not passes text
    rwa [found] at stops

private theorem cut_append {passes : Char → Bool} {before : List Char} {next : Char}
    (all : ∀ character ∈ before, passes character = true) (stops : passes next = false)
    (rest : List Char) :
    (before ++ next :: rest).dropWhile passes = next :: rest ∧
      (before ++ next :: rest).takeWhile passes = before := by
  have stopped : ¬ passes next = true := by simp [stops]
  rw [List.dropWhile_append_of_pos all, List.takeWhile_append_of_pos all,
    List.dropWhile_cons_of_neg stopped, List.takeWhile_cons_of_neg stopped, List.append_nil]
  exact ⟨rfl, rfl⟩

private theorem readToQuote?_eq_some_iff {path : List Char} :
    readToQuote? text = some (path, rest) ↔
      ∃ closing, isQuote closing = true ∧ Unquoted path ∧ text = path ++ closing :: rest := by
  unfold readToQuote?
  constructor
  · intro read
    split at read
    · cases read
    · rename_i closing after found
      cases read
      obtain ⟨parts, unquoted, closes⟩ := exists_of_dropWhile found
      refine ⟨closing, by simpa using closes, fun character member => ?_, parts⟩
      simpa using unquoted character member
  · rintro ⟨closing, closes, unquoted, rfl⟩
    have passed : ∀ character ∈ path, (!isQuote character) = true := fun character member => by
      rw [unquoted character member, Bool.not_false]
    have stopped : (!isQuote closing) = false := by rw [closes, Bool.not_true]
    obtain ⟨after, before⟩ := cut_append passed stopped rest
    rw [after, before]

theorem isWhiteSpace_of_isQuote {character : Char} (quote : isQuote character = true) :
    Text.isWhiteSpace character = false := by
  rw [isQuote, Bool.or_eq_true, beq_iff_eq, beq_iff_eq] at quote
  rcases quote with rfl | rfl <;> decide

theorem isWord_of_isQuote {character : Char} (quote : isQuote character = true) :
    Text.isWord character = false := by
  rw [isQuote, Bool.or_eq_true, beq_iff_eq, beq_iff_eq] at quote
  rcases quote with rfl | rfl <;> decide

private theorem skipName_of_isQuote {quote : Char} (isQuote : isQuote quote = true) :
    skipName (quote :: rest) = quote :: rest := by
  rw [Imports.isQuote, Bool.or_eq_true, beq_iff_eq, beq_iff_eq] at isQuote
  rcases isQuote with rfl | rfl <;> rfl

theorem skipName_append {name gap : List Char} (isName : IsName name) (blank : Blank gap)
    (filled : gap ≠ []) (rest : List Char) :
    skipName (name ++ (gap ++ rest)) = Text.trimStart rest := by
  obtain ⟨first, others, rfl, starts, words⟩ := isName
  obtain ⟨space, gap, rfl⟩ := List.exists_cons_of_ne_nil filled
  have isSpace : Text.isWhiteSpace space = true := blank space List.mem_cons_self
  have unworded : ¬ Text.isAsciiWord space = true := by
    intro word
    have isWord := Text.isWord_of_isAsciiWord word
    exact Bool.false_ne_true ((Text.isWord_of_isWhiteSpace isSpace).symm.trans isWord)
  rw [List.cons_append, skipName, if_pos starts,
    List.dropWhile_append_of_pos (List.all_eq_true.mp words), List.cons_append,
    List.dropWhile_cons_of_neg unworded]
  simp only [List.head?_cons, Option.any_some, isSpace, if_true]
  rw [← List.cons_append, Text.trimStart_append blank]

private theorem exists_label (text : List Char) :
    ∃ label, Label label ∧ text = label ++ skipName text := by
  unfold skipName
  split
  · exact ⟨[], .none, rfl⟩
  · rename_i first others
    dsimp only
    split
    case isFalse => exact ⟨[], .none, rfl⟩
    case isTrue starts =>
      split
      case isFalse => exact ⟨[], .none, rfl⟩
      case isTrue spaced =>
        have isName : IsName (first :: others.takeWhile Text.isAsciiWord) :=
          ⟨first, _, rfl, starts, List.all_takeWhile⟩
        have blank : Blank ((others.dropWhile Text.isAsciiWord).takeWhile Text.isWhiteSpace) :=
          fun character => List.mem_takeWhile_imp
        refine ⟨_, .name isName blank ?_, ?_⟩
        · cases left : others.dropWhile Text.isAsciiWord with
          | nil => simp [left] at spaced
          | cons space others =>
            simp [left] at spaced
            simp [spaced]
        · rw [List.append_assoc, Text.trimStart, List.takeWhile_append_dropWhile, List.cons_append,
            List.takeWhile_append_dropWhile]

private theorem readDeclaration?_of_block {body : List Char}
    (opens : Text.trimStart text = '(' :: body) :
    readDeclaration? text =
      match body.dropWhile (· != ')') with
      | [] => none
      | _ :: rest => some (blockPaths (body.takeWhile (· != ')')), rest) := by
  rw [readDeclaration?, opens]
  rfl

private theorem readDeclaration?_of_path (other : (Text.trimStart text).head? ≠ some '(') :
    readDeclaration? text =
      match skipName (Text.trimStart text) with
      | [] => none
      | quote :: path =>
        if isQuote quote then (readToQuote? path).map fun (path, rest) => ([path], rest)
        else none := by
  unfold readDeclaration?
  split
  · rename_i body opens
    exact absurd (congrArg List.head? opens) other
  · rfl

theorem readDeclaration?_append_of_blank {gap : List Char} (blank : Blank gap) :
    readDeclaration? (gap ++ rest) = readDeclaration? rest := by
  rw [readDeclaration?, Text.trimStart_append blank, readDeclaration?]

private theorem solid_of_starts {first : Char}
    (starts : (Text.isAsciiLetter first || first == '_' || first == '.') = true) :
    Text.isWhiteSpace first = false ∧ first ≠ '(' := by
  constructor
  · simp only [Bool.or_eq_true, beq_iff_eq] at starts
    rcases starts with (letter | rfl) | rfl
    · rw [Bool.eq_false_iff]
      intro blank
      have word := Text.isWord_of_isAsciiWord ((Text.isAsciiWord_iff first).mpr (.inl letter))
      exact Bool.false_ne_true ((Text.isWord_of_isWhiteSpace blank).symm.trans word)
    · decide
    · decide
  · rintro rfl
    exact absurd starts (by decide)

section

variable {label : List Char} {quote : Char} (labelled : Label label)
  (isQuote : isQuote quote = true) (rest : List Char)

include labelled isQuote

theorem Label.skipName_append : skipName (label ++ quote :: rest) = quote :: rest := by
  cases labelled with
  | none => exact skipName_of_isQuote isQuote
  | name isName blank filled =>
      rw [List.append_assoc, Imports.skipName_append isName blank filled,
        Text.trimStart_cons (isWhiteSpace_of_isQuote isQuote)]

theorem Label.solid_append :
    ∀ character ∈ (label ++ quote :: rest).head?,
      Text.isWhiteSpace character = false ∧ character ≠ '(' := by
  intro character member
  cases labelled with
  | none =>
      obtain rfl := Option.some.inj member
      refine ⟨isWhiteSpace_of_isQuote isQuote, ?_⟩
      rintro rfl
      exact absurd isQuote (by decide)
  | name isName blank filled =>
      obtain ⟨first, others, rfl, starts, -⟩ := isName
      obtain rfl := Option.some.inj member
      exact solid_of_starts starts

end

private theorem exists_gap (text : List Char) :
    ∃ gap, Blank gap ∧ text = gap ++ Text.trimStart text :=
  ⟨text.takeWhile Text.isWhiteSpace, fun _ => List.mem_takeWhile_imp,
    List.takeWhile_append_dropWhile.symm⟩

private theorem reads_of_block {body : List Char} (opens : Text.trimStart text = '(' :: body)
    (read : readDeclaration? text = some (paths, rest)) : Reads text paths rest := by
  obtain ⟨gap, blank, parts⟩ := exists_gap text
  rw [readDeclaration?_of_block opens] at read
  split at read
  · cases read
  · rename_i close after found
    cases read
    obtain ⟨inside, all, closes⟩ := exists_of_dropWhile found
    obtain rfl : close = ')' := by simpa using closes
    have shape : text = gap ++ '(' :: (body.takeWhile (· != ')') ++ ')' :: rest) := by
      rw [← inside, ← opens]
      exact parts
    rw [shape]
    refine .block blank fun member => ?_
    simpa using all ')' member

private theorem reads_of_path (other : (Text.trimStart text).head? ≠ some '(')
    (read : readDeclaration? text = some (paths, rest)) : Reads text paths rest := by
  obtain ⟨gap, blank, parts⟩ := exists_gap text
  obtain ⟨label, labelled, named⟩ := exists_label (Text.trimStart text)
  rw [readDeclaration?_of_path other] at read
  split at read
  · cases read
  · rename_i quote path found
    split at read
    case isFalse => cases read
    case isTrue isQuote =>
      obtain ⟨⟨first, after⟩, inner, same⟩ := Option.map_eq_some_iff.mp read
      cases same
      obtain ⟨closing, closes, unquoted, rfl⟩ := readToQuote?_eq_some_iff.mp inner
      rw [parts, named, found]
      exact .path blank labelled isQuote unquoted closes

private theorem readDeclaration?_path {gap label path : List Char} {opening closing : Char}
    (blank : Blank gap) (labelled : Label label) (opens : isQuote opening = true)
    (unquoted : Unquoted path) (closes : isQuote closing = true) (rest : List Char) :
    readDeclaration? (gap ++ (label ++ opening :: (path ++ closing :: rest))) =
      some ([path], rest) := by
  have solid := labelled.solid_append opens (path ++ closing :: rest)
  have trimmed : Text.trimStart (gap ++ (label ++ opening :: (path ++ closing :: rest))) =
      label ++ opening :: (path ++ closing :: rest) := by
    rw [Text.trimStart_append blank]
    exact Text.trimStart_of_head fun character member => (solid character member).1
  have other : (Text.trimStart (gap ++ (label ++ opening :: (path ++ closing :: rest)))).head? ≠
      some '(' := by
    rw [trimmed]
    exact fun member => (solid _ member).2 rfl
  have inner : readToQuote? (path ++ closing :: rest) = some (path, rest) :=
    readToQuote?_eq_some_iff.mpr ⟨closing, closes, unquoted, rfl⟩
  rw [readDeclaration?_of_path other, trimmed, labelled.skipName_append opens]
  simp only [opens, if_true, inner, Option.map_some]

private theorem readDeclaration?_block {gap body : List Char} (blank : Blank gap)
    (inside : ')' ∉ body)
    (rest : List Char) :
    readDeclaration? (gap ++ '(' :: (body ++ ')' :: rest)) = some (blockPaths body, rest) := by
  have trimmed : Text.trimStart (gap ++ '(' :: (body ++ ')' :: rest)) =
      '(' :: (body ++ ')' :: rest) := by
    rw [Text.trimStart_append blank, Text.trimStart_cons (by decide)]
  have passed : ∀ character ∈ body, (character != ')') = true := fun character member =>
    bne_iff_ne.mpr (ne_of_mem_of_not_mem member inside)
  obtain ⟨after, before⟩ := cut_append passed (bne_self_eq_false ')') rest
  rw [readDeclaration?_of_block trimmed, after, before]

theorem readDeclaration?_eq_some_iff :
    readDeclaration? text = some (paths, rest) ↔ Reads text paths rest := by
  constructor
  · intro read
    by_cases opens : (Text.trimStart text).head? = some '('
    · obtain ⟨body, opens⟩ := List.head?_eq_some_iff.mp opens
      exact reads_of_block opens read
    · exact reads_of_path opens read
  · intro reads
    cases reads with
    | path blank labelled opens unquoted closes =>
        exact readDeclaration?_path blank labelled opens unquoted closes rest
    | block blank inside => exact readDeclaration?_block blank inside rest

/-! ## Blocks -/

private theorem quotedPieces_cons (first other : List Char) (pieces : List (List Char)) :
    quotedPieces (first :: pieces) = quotedPieces (other :: pieces) := by
  match pieces with
  | [] => rfl
  | [path] => rfl
  | path :: next :: pieces => rfl

theorem blockPaths_of_unquoted (unquoted : Unquoted text) : blockPaths text = [] := by
  rw [blockPaths, Text.splitWhere_of_none unquoted]
  rfl

/-- Text without quotes in front of a block is passed over. -/
theorem blockPaths_append_of_unquoted (unquoted : Unquoted text) (rest : List Char) :
    blockPaths (text ++ rest) = blockPaths rest := by
  induction text with
  | nil => rfl
  | cons first text ih =>
      obtain ⟨plain, others⟩ := List.forall_mem_cons.mp unquoted
      rw [← ih others, blockPaths, blockPaths, List.cons_append, Text.splitWhere]
      split
      · rename_i none
        exact absurd none (Text.splitWhere_ne_nil isQuote _)
      · rename_i piece pieces split
        rw [if_neg (by simp [plain]), split]
        exact quotedPieces_cons _ _ _

theorem blockPaths_of_quoted {path : List Char} {opening closing : Char}
    (opens : isQuote opening = true) (unquoted : Unquoted path) (closes : isQuote closing = true)
    (rest : List Char) :
    blockPaths (opening :: (path ++ closing :: rest)) = path :: blockPaths rest := by
  obtain ⟨piece, pieces, split⟩ := List.exists_cons_of_ne_nil (Text.splitWhere_ne_nil isQuote rest)
  have cut := Text.splitWhere_append opens [] (path ++ closing :: rest)
  rw [Text.splitWhere_append closes, Text.splitWhere_of_none unquoted, split] at cut
  rw [blockPaths, blockPaths, ← List.nil_append (opening :: _), cut, split]
  rfl

private theorem blockPaths_of_opened {quote : Char} (opens : isQuote quote = true)
    (unquoted : Unquoted text) : blockPaths (quote :: text) = [] := by
  have cut := Text.splitWhere_append opens [] text
  rw [Text.splitWhere_of_none unquoted] at cut
  rw [blockPaths, ← List.nil_append (quote :: _), cut]
  rfl

/-- A text has no quotes, or one, or it goes on behind the second. -/
theorem quotes_induction {motive : List Char → Prop}
    (plain : ∀ text, Unquoted text → motive text)
    (single : ∀ before quote path, Unquoted before → isQuote quote = true → Unquoted path →
      motive (before ++ quote :: path))
    (pair : ∀ before opening path closing rest, Unquoted before → isQuote opening = true →
      Unquoted path → isQuote closing = true → motive rest →
        motive (before ++ opening :: (path ++ closing :: rest))) (text : List Char) :
    motive text := by
  -- The text is cut at its first quote, and at the first one behind that.
  have cut : ∀ text : List Char, Unquoted text ∨ ∃ before quote rest, Unquoted before ∧
      isQuote quote = true ∧ text = before ++ quote :: rest := by
    intro text
    cases found : text.dropWhile fun character => !isQuote character with
    | nil =>
        rw [List.dropWhile_eq_nil_iff] at found
        exact .inl fun character member => by simpa using found character member
    | cons quote rest =>
        obtain ⟨parts, unquoted, closes⟩ := exists_of_dropWhile found
        refine .inr ⟨_, quote, rest, fun character member => ?_, by simpa using closes, parts⟩
        simpa using unquoted character member
  induction length : text.length using Nat.strong_induction_on generalizing text with
  | h bound ih =>
      rcases cut text with unquoted | ⟨before, opening, behind, unquoted, opens, rfl⟩
      · exact plain text unquoted
      · rcases cut behind with last | ⟨path, closing, rest, inside, closes, rfl⟩
        · exact single before opening behind unquoted opens last
        · refine pair before opening path closing rest unquoted opens inside closes
            (ih rest.length ?_ rest rfl)
          rw [← length]
          simp
          omega

theorem countP_eq_zero_of_unquoted (unquoted : Unquoted text) : text.countP isQuote = 0 := by
  rw [List.countP_eq_zero]
  intro character member
  simp [unquoted character member]

/-- Each path of a block takes two quotes. -/
theorem length_blockPaths (text : List Char) :
    (blockPaths text).length = text.countP isQuote / 2 := by
  induction text using quotes_induction with
  | plain text unquoted =>
      rw [blockPaths_of_unquoted unquoted, countP_eq_zero_of_unquoted unquoted]
      rfl
  | single before quote path unquoted isQuote inside =>
      rw [blockPaths_append_of_unquoted unquoted, blockPaths_of_opened isQuote inside,
        List.countP_append, List.countP_cons_of_pos isQuote, countP_eq_zero_of_unquoted unquoted,
        countP_eq_zero_of_unquoted inside]
      rfl
  | pair before opening path closing rest unquoted opens inside closes ih =>
      rw [blockPaths_append_of_unquoted unquoted, blockPaths_of_quoted opens inside closes,
        List.length_cons, ih, List.countP_append, List.countP_cons_of_pos opens, List.countP_append,
        List.countP_cons_of_pos closes, countP_eq_zero_of_unquoted unquoted,
        countP_eq_zero_of_unquoted inside]
      omega

/-- Behind an even number of quotes a block is read as if nothing came before. -/
theorem blockPaths_append (even : Even (text.countP isQuote)) (rest : List Char) :
    blockPaths (text ++ rest) = blockPaths text ++ blockPaths rest := by
  induction text using quotes_induction with
  | plain text unquoted =>
      rw [blockPaths_append_of_unquoted unquoted, blockPaths_of_unquoted unquoted, List.nil_append]
  | single before quote path unquoted isQuote inside =>
      rw [List.countP_append, List.countP_cons_of_pos isQuote, countP_eq_zero_of_unquoted unquoted,
        countP_eq_zero_of_unquoted inside] at even
      exact absurd even (by decide)
  | pair before opening path closing behind unquoted opens inside closes ih =>
      rw [List.countP_append, List.countP_cons_of_pos opens, List.countP_append,
        List.countP_cons_of_pos closes, countP_eq_zero_of_unquoted unquoted,
        countP_eq_zero_of_unquoted inside] at even
      have fewer : Even (behind.countP isQuote) := by
        rw [Nat.even_iff] at even ⊢
        omega
      rw [List.append_assoc, List.cons_append, List.append_assoc, List.cons_append,
        blockPaths_append_of_unquoted unquoted, blockPaths_append_of_unquoted unquoted,
        blockPaths_of_quoted opens inside closes, blockPaths_of_quoted opens inside closes,
        ih fewer, List.cons_append]

theorem unquoted_of_blank (blank : Blank text) : Unquoted text := by
  intro character member
  rw [Bool.eq_false_iff]
  intro quote
  exact Bool.false_ne_true ((isWhiteSpace_of_isQuote quote).symm.trans (blank character member))

theorem Label.unquoted {label : List Char} (labelled : Label label) : Unquoted label := by
  cases labelled with
  | none => exact List.forall_mem_nil _
  | name isName blank filled =>
      obtain ⟨first, others, rfl, starts, words⟩ := isName
      refine List.forall_mem_append.mpr ⟨List.forall_mem_cons.mpr ⟨?_, ?_⟩, unquoted_of_blank blank⟩
      · rw [Bool.eq_false_iff]
        intro quote
        rw [isQuote, Bool.or_eq_true, beq_iff_eq, beq_iff_eq] at quote
        rcases quote with rfl | rfl <;> exact absurd starts (by decide)
      · intro character member
        have word := Text.isWord_of_isAsciiWord (List.all_eq_true.mp words character member)
        rw [Bool.eq_false_iff]
        exact fun quote => Bool.false_ne_true ((isWord_of_isQuote quote).symm.trans word)

/-! ## The number of quotes -/

/-- Each path takes two quotes. -/
theorem Reads.length_le (reads : Reads text paths rest) :
    2 * paths.length + rest.countP isQuote ≤ text.countP isQuote := by
  cases reads with
  | path blank labelled opens unquoted closes =>
      simp only [List.countP_append, List.countP_cons_of_pos opens, List.countP_cons_of_pos closes,
        List.length_singleton]
      omega
  | block blank inside =>
      have close : isQuote '(' ≠ true ∧ isQuote ')' ≠ true := by decide
      simp only [List.countP_append, List.countP_cons_of_neg close.1,
        List.countP_cons_of_neg close.2, length_blockPaths]
      omega

theorem exists_of_declaration? (read : declaration? text = some (paths, rest)) :
    ∃ behind, text = "import".toList ++ behind ∧ afterWord? text = some behind ∧
      Reads behind paths rest := by
  obtain ⟨behind, word, inner⟩ := Option.bind_eq_some_iff.mp read
  exact ⟨behind, (afterWord?_eq_some_iff.mp word).1, word, readDeclaration?_eq_some_iff.mp inner⟩

theorem length_declaredPaths_le (flag : Bool) (text : List Char) :
    2 * (declaredPaths flag text).length ≤ text.countP isQuote := by
  induction flag, text using declaredPaths.induct with
  | case1 flag =>
      rw [declaredPaths_nil]
      exact Nat.zero_le _
  | case2 flag first text unread ih =>
      rw [declaredPaths_of_unread unread]
      exact ih.trans (List.sublist_cons_self first text).countP_le
  | case3 flag first text paths rest read ih =>
      cases flag with
      | true => exact nomatch read
      | false =>
          obtain ⟨behind, spelled, -, reads⟩ := exists_of_declaration? read
          have counted := reads.length_le
          rw [declaredPaths_of_some read, List.length_append, spelled, List.countP_append]
          omega

theorem declaredPaths_of_unquoted (unquoted : Unquoted text) : declaredPaths flag text = [] := by
  have most := length_declaredPaths_le flag text
  rw [countP_eq_zero_of_unquoted unquoted] at most
  exact List.eq_nil_of_length_eq_zero (by omega)

theorem unquoted_of_afterWord? {behind : List Char} (word : afterWord? text = some behind)
    (unquoted : Unquoted behind) : Unquoted text := by
  rw [(afterWord?_eq_some_iff.mp word).1]
  exact List.forall_mem_append.mpr ⟨show Unquoted "import".toList by decide, unquoted⟩

theorem quotes_of_afterWord? {behind : List Char} (word : afterWord? text = some behind) :
    text.countP isQuote = behind.countP isQuote := by
  have unquoted : "import".toList.countP isQuote = 0 := by decide
  rw [(afterWord?_eq_some_iff.mp word).1, List.countP_append, unquoted, Nat.zero_add]

end

end Imports

end SymbolCache
