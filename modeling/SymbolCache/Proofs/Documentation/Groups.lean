import Mathlib.Data.List.Induction
import SymbolCache.Proofs.Documentation.RoundTrip

/-!
# Lines of groups

In a written group the depth of a line tells what the line is: the parenthesis that ends the group
is not indented, a member is indented by a tab, and what is indented further belongs to the value of
a member. The reader does not see the depth of a line. It takes a nested parenthesis for the end of
the group, so that the members after it are passed over, and nested lines for members.
-/

set_option autoImplicit false

namespace SymbolCache.Documentation

/-! ## Layouts -/

/-- What a line in a group is. -/
inductive Place where
  | closing
  | member
  | nested

abbrev Layout := List Char → Place

def IsMemberLine (line : List Char) : Prop :=
  line.head? = some '\t' ∧ line.tail.head?.any Text.isWhiteSpace = false

instance (line : List Char) : Decidable (IsMemberLine line) :=
  inferInstanceAs (Decidable (_ ∧ _))

namespace Layout

variable {line : List Char}

def ofReader : Layout := fun line =>
  if Text.trim line = [')'] then .closing
  else if line.head? = some '\t' then .member
  else .nested

theorem ofReader_closing (closes : Text.trim line = [')']) : ofReader line = .closing :=
  if_pos closes

theorem ofReader_member (stays : Text.trim line ≠ [')']) (tab : line.head? = some '\t') :
    ofReader line = .member := by
  rw [ofReader, if_neg stays, if_pos tab]

theorem ofReader_nested (stays : Text.trim line ≠ [')']) (noTab : line.head? ≠ some '\t') :
    ofReader line = .nested := by
  rw [ofReader, if_neg stays, if_neg noTab]

def byDepth : Layout := fun line =>
  if Text.trimEnd line = [')'] then .closing
  else if IsMemberLine line then .member
  else .nested

theorem byDepth_eq_closing_iff : byDepth line = .closing ↔ Text.trimEnd line = [')'] := by
  rw [byDepth]
  split
  case isTrue closes => simp [closes]
  case isFalse stays => split <;> simp [stays]

private theorem byDepth_member (stays : Text.trimEnd line ≠ [')']) (isMember : IsMemberLine line) :
    byDepth line = .member := by
  rw [byDepth, if_neg stays, if_pos isMember]

theorem byDepth_nested (stays : Text.trimEnd line ≠ [')']) (notMember : ¬ IsMemberLine line) :
    byDepth line = .nested := by
  rw [byDepth, if_neg stays, if_neg notMember]

end Layout

open Layout

/-! ## Steps -/

/-- What a line in a group declares, and the group that the line after it is in, if in any. -/
def Place.step (kind : SymbolKind) (line : List Char) :
    Place → List Declaration × Option SymbolKind
  | .closing => ([], none)
  | .member => (readValues kind (Text.trim line), some kind)
  | .nested => ([], some kind)

private theorem Place.step_stays {place : Place} {kind : SymbolKind} {line : List Char}
    (stays : place ≠ .closing) : (place.step kind line).2 = some kind := by
  cases place with
  | closing => exact absurd rfl stays
  | member => rfl
  | nested => rfl

def step (layout : Layout) : Option SymbolKind → List Char → List Declaration × Option SymbolKind
  | some kind, line => (layout line).step kind line
  | none, line =>
    match readLine line with
    | .opensGroup kind => ([], some kind)
    | .declares declarations => (declarations, none)

def steps (layout : Layout) :
    Option SymbolKind → List (List Char) → List (List Declaration × Option SymbolKind)
  | _, [] => []
  | group, line :: lines =>
    step layout group line :: steps layout (step layout group line).2 lines

def groupAfter (layout : Layout) (group : Option SymbolKind) (lines : List (List Char)) :
    Option SymbolKind :=
  lines.foldl (fun group line => (step layout group line).2) group

def declared (layout : Layout) (lines : List (List Char)) : List Declaration :=
  (steps layout none lines).flatMap Prod.fst

private theorem readLines_some (kind : SymbolKind) (line : List Char) (lines : List (List Char)) :
    readLines (some kind) (line :: lines) =
      (step ofReader (some kind) line).1 ++ readLines (step ofReader (some kind) line).2 lines := by
  rw [readLines, readMember, closesGroup, step]
  by_cases closes : Text.trim line = [')']
  · rw [ofReader_closing closes, if_pos (decide_eq_true closes), Place.step, List.nil_append]
  · rw [if_neg (by simpa using closes)]
    by_cases tab : line.head? = some '\t'
    · rw [ofReader_member closes tab, if_pos tab, Place.step]
    · rw [ofReader_nested closes tab, if_neg tab, Place.step]

theorem readLines_eq_steps (group : Option SymbolKind) (lines : List (List Char)) :
    readLines group lines = (steps ofReader group lines).flatMap Prod.fst := by
  induction lines generalizing group with
  | nil => cases group <;> rfl
  | cons line lines ih =>
      rw [steps, List.flatMap_cons, ← ih]
      cases group with
      | some kind => exact readLines_some kind line lines
      | none =>
          rw [readLines, step]
          cases readLine line <;> rfl

private theorem declarations_eq_declared (text : String) :
    declarations text = declared ofReader (Text.lines text.toList) :=
  readLines_eq_steps none _

/-- Two layouts give the same steps if each line makes the same step in the group that it is in by
one of them. -/
theorem steps_eq_iff {first second : Layout} (group : Option SymbolKind)
    (lines : List (List Char)) :
    steps first group lines = steps second group lines ↔
      ∀ before line after, lines = before ++ line :: after →
        step first (groupAfter second group before) line =
          step second (groupAfter second group before) line := by
  induction lines generalizing group with
  | nil => simp [steps]
  | cons line lines ih =>
      rw [steps, steps, List.cons.injEq]
      constructor
      · rintro ⟨head, tail⟩ before other after parts
        rw [head] at tail
        cases before with
        | nil =>
            obtain ⟨rfl, -⟩ := List.cons.inj parts
            exact head
        | cons first before =>
            obtain ⟨rfl, rest⟩ := List.cons.inj parts
            exact (ih _).mp tail before other after rest
      · intro same
        have head : step first group line = step second group line := same [] line lines rfl
        refine ⟨head, ?_⟩
        rw [head]
        exact (ih _).mpr fun before other after parts =>
          same (line :: before) other after (congrArg (line :: ·) parts)

/-! ## Lines at another depth -/

variable {line : List Char}

private theorem trim_of_trimEnd (closes : Text.trimEnd line = [')']) : Text.trim line = [')'] := by
  obtain ⟨gap, blank, parts⟩ := Text.exists_trimEnd_append line
  rw [parts, closes, Text.trim_append _ blank]
  rfl

/-- A line in a group whose depth does not tell what the reader takes it for: an indented
parenthesis, or values that are indented by more than a tab. -/
def Misread (kind : SymbolKind) (line : List Char) : Prop :=
  Text.trim line = [')'] ∧ Text.trimEnd line ≠ [')'] ∨
    line.head? = some '\t' ∧ ¬ IsMemberLine line ∧ readValues kind (Text.trim line) ≠ []

private theorem step_eq_iff (kind : SymbolKind) (line : List Char) :
    step ofReader (some kind) line = step byDepth (some kind) line ↔ ¬ Misread kind line := by
  have noValues : readValues kind [')'] = [] := rfl
  rw [step, step, Misread]
  by_cases closes : Text.trim line = [')']
  · rw [ofReader_closing closes]
    by_cases unindented : Text.trimEnd line = [')']
    · rw [byDepth_eq_closing_iff.mpr unindented]
      simp [closes, unindented, noValues]
    · have stays : ((byDepth line).step kind line).2 = some kind :=
        Place.step_stays fun same => unindented (byDepth_eq_closing_iff.mp same)
      have differs : Place.closing.step kind line ≠ (byDepth line).step kind line := by
        intro same
        rw [← same] at stays
        exact Option.some_ne_none kind stays.symm
      simp [closes, unindented, differs]
  · have stays : Text.trimEnd line ≠ [')'] := fun ends => closes (trim_of_trimEnd ends)
    by_cases tab : line.head? = some '\t'
    · rw [ofReader_member closes tab]
      by_cases isMember : IsMemberLine line
      · rw [byDepth_member stays isMember]
        simp [closes, isMember]
      · rw [byDepth_nested stays isMember]
        simp [closes, tab, isMember, Place.step]
    · have notMember : ¬ IsMemberLine line := fun isMember => tab isMember.1
      rw [ofReader_nested closes tab, byDepth_nested stays notMember]
      simp [closes, tab]

/-- A line without its depth: a parenthesis is not indented, and what starts with a tab is indented
by no more than that. -/
def level (line : List Char) : List Char :=
  if Text.trim line = [')'] then [')']
  else if line.head? = some '\t' then '\t' :: Text.trim line
  else line

private theorem isProse_of_closes (closes : Text.trim line = [')']) : IsProse line := by
  cases line with
  | nil => exact absurd closes (by decide)
  | cons first rest =>
      cases white : Text.isWhiteSpace first with
      | true => exact .inl ⟨first, rfl, white⟩
      | false =>
          have starts := Text.trim_append_cons [] white rest
          rw [List.nil_append, closes] at starts
          obtain ⟨rfl, -⟩ := List.cons.inj starts
          exact isProse_cons (by decide) rest

private theorem isProse_of_tab (tab : line.head? = some '\t') : IsProse line :=
  .inl ⟨'\t', tab, by decide⟩

private theorem readLine_level (line : List Char) : readLine (level line) = readLine line := by
  rw [level]
  split
  case isTrue closes => exact (isProse_of_closes closes).readLine_eq.symm
  case isFalse =>
    split
    case isTrue tab =>
      rw [(isProse_of_tab tab).readLine_eq]
      exact (isProse_of_tab List.head?_cons).readLine_eq
    case isFalse => rfl

private theorem trim_tab (line : List Char) :
    Text.trim ('\t' :: Text.trim line) = Text.trim line := by
  have tab : Text.Blank ['\t'] := by decide
  rw [Text.trim, ← List.singleton_append, Text.trimStart_append tab]
  exact Text.trim_of_ends (Text.trimmed_trim line)

private theorem trim_level (line : List Char) : Text.trim (level line) = Text.trim line := by
  rw [level]
  split
  case isTrue closes => rw [closes]; rfl
  case isFalse =>
    split
    case isTrue => exact trim_tab line
    case isFalse => rfl

private theorem isMemberLine_tab (line : List Char) : IsMemberLine ('\t' :: Text.trim line) := by
  refine ⟨rfl, ?_⟩
  have solid := (Text.trimmed_trim line).1
  rw [List.tail_cons]
  cases starts : (Text.trim line).head? with
  | none => rfl
  | some first => exact solid first starts

private theorem byDepth_level (line : List Char) : byDepth (level line) = ofReader line := by
  by_cases closes : Text.trim line = [')']
  · rw [ofReader_closing closes, level, if_pos closes]
    exact byDepth_eq_closing_iff.mpr rfl
  · have stays : Text.trimEnd (level line) ≠ [')'] := fun ends =>
      closes ((trim_level line).symm.trans (trim_of_trimEnd ends))
    by_cases tab : line.head? = some '\t'
    · rw [ofReader_member closes tab]
      refine byDepth_member stays ?_
      rw [level, if_neg closes, if_pos tab]
      exact isMemberLine_tab line
    · rw [ofReader_nested closes tab]
      refine byDepth_nested stays fun isMember => tab ?_
      rw [level, if_neg closes, if_neg tab] at isMember
      exact isMember.1

private theorem step_level (group : Option SymbolKind) (line : List Char) :
    step byDepth group (level line) = step ofReader group line := by
  cases group with
  | none => rw [step, step, readLine_level]
  | some kind =>
      rw [step, step, byDepth_level]
      cases ofReader line with
      | closing => rfl
      | nested => rfl
      | member => rw [Place.step, Place.step, trim_level]

private theorem steps_level (group : Option SymbolKind) (lines : List (List Char)) :
    steps byDepth group (lines.map level) = steps ofReader group lines := by
  induction lines generalizing group with
  | nil => rfl
  | cons line lines ih => rw [List.map_cons, steps, steps, step_level, ih]

/-! ## Documents -/

def NoneMisread (lines : List (List Char)) : Prop :=
  ∀ before line after kind, lines = before ++ line :: after →
    groupAfter byDepth none before = some kind → ¬ Misread kind line

private theorem steps_eq_iff_noneMisread (lines : List (List Char)) :
    steps ofReader none lines = steps byDepth none lines ↔ NoneMisread lines := by
  rw [steps_eq_iff]
  constructor
  · intro same before line after kind parts inside
    have step := same before line after parts
    rw [inside] at step
    exact (step_eq_iff kind line).mp step
  · intro noneMisread before line after parts
    cases inside : groupAfter byDepth none before with
    | none => rfl
    | some kind =>
        exact (step_eq_iff kind line).mpr (noneMisread before line after kind parts inside)

/-- A document is read as if the lines of its groups had no depth. So each line declares what it
should, and the next line is in the group that it should be in, exactly if no line is misread; and
then the declarations are those of the written groups. -/
theorem declarations_by_depth (text : String) :
    declarations text = declared byDepth ((Text.lines text.toList).map level) ∧
      (steps ofReader none (Text.lines text.toList) = steps byDepth none (Text.lines text.toList) ↔
        NoneMisread (Text.lines text.toList)) ∧
      (NoneMisread (Text.lines text.toList) →
        declarations text = declared byDepth (Text.lines text.toList)) := by
  refine ⟨?_, steps_eq_iff_noneMisread _, fun noneMisread => ?_⟩
  · rw [declarations_eq_declared, declared, declared, steps_level]
  · rw [declarations_eq_declared, declared, declared, (steps_eq_iff_noneMisread _).mpr noneMisread]

def nestedList : String :=
  "var (\n\tNames = []string\x7b\n\t\t\"a\",\n\t\x7d\n\tAfter = 1\n)\n"

theorem declarations_by_depth_example :
    NoneMisread (Text.lines nestedList.toList) ∧
      declarations nestedList = [⟨"Names", .var, none⟩, ⟨"After", .var, none⟩] := by
  obtain ⟨-, agree, same⟩ := declarations_by_depth nestedList
  have noneMisread := agree.mp (by decide +kernel)
  exact ⟨noneMisread, (same noneMisread).trans (by decide +kernel)⟩

/-- A group with a call over several lines in it: its argument is declared, and the member after the
call is not. -/
theorem declarations_of_nested_call :
    declarations "var (\n\tTable = build(\n\t\tInner,\n\t)\n\tAfter = 1\n)\n" =
        [⟨"Table", .var, none⟩, ⟨"Inner", .var, none⟩] ∧
      declared byDepth (Text.lines
        "var (\n\tTable = build(\n\t\tInner,\n\t)\n\tAfter = 1\n)\n".toList) =
          [⟨"Table", .var, none⟩, ⟨"After", .var, none⟩] := by
  constructor
  · decide +kernel
  · decide +kernel

end SymbolCache.Documentation
