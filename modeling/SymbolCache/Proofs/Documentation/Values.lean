import SymbolCache.Proofs.Documentation.Declarations

/-!
# Constants and variables

Values that are declared together are read as their names with their type, whatever their values
and the comment behind them are.
-/

set_option autoImplicit false

namespace SymbolCache.Documentation

open Text (Blank Trimmed)

/-! ## Cutting before a mark -/

section Marks

variable {mark text before gap : List Char}

/-- A mark does not reach across a character that it lacks. -/
theorem isPrefix_append_cons {separator : Char} (absent : separator ∉ mark) {rest : List Char} :
    mark <+: text ++ separator :: rest ↔ mark <+: text := by
  refine ⟨fun starts => ?_, fun starts => starts.trans (List.prefix_append ..)⟩
  induction mark generalizing text with
  | nil => exact List.nil_prefix
  | cons first mark ih =>
      obtain ⟨different, absent⟩ := List.ne_and_not_mem_of_not_mem_cons absent
      cases text with
      | nil => exact absurd (List.cons_prefix_cons.mp starts).1.symm different
      | cons character text =>
          rw [List.cons_append, List.cons_prefix_cons] at starts
          obtain ⟨rfl, starts⟩ := starts
          exact List.cons_prefix_cons.mpr ⟨rfl, ih absent starts⟩

private theorem isSuffix_append_cons {separator : Char} (absent : separator ∉ mark)
    (before : List Char) :
    mark <:+ before ++ separator :: text ↔ mark <:+ text := by
  have reversed : (before ++ separator :: text).reverse =
      text.reverse ++ separator :: before.reverse := by simp
  rw [← List.reverse_prefix, reversed, isPrefix_append_cons (by simpa using absent),
    List.reverse_prefix]

theorem cutBefore_cons {character : Char} (absent : ¬ mark <+: character :: text) :
    cutBefore mark (character :: text) = character :: cutBefore mark text :=
  if_neg fun starts => absent (List.isPrefixOf_iff_prefix.mp starts)

theorem cutBefore_of_isPrefix (starts : mark <+: text) : cutBefore mark text = [] := by
  cases text with
  | nil => rfl
  | cons character text => exact if_pos (List.isPrefixOf_iff_prefix.mpr starts)

private theorem cutBefore_of_free (free : ¬ mark <:+: text) : cutBefore mark text = text := by
  induction text with
  | nil => rfl
  | cons character text ih =>
      rw [cutBefore_cons fun starts => free starts.isInfix,
        ih fun inside => free (List.infix_cons inside)]

private theorem cutBefore_of_apart (free : ¬ mark <:+: before) {rest : List Char}
    (apart : ∀ character ∈ rest.head?, character ∉ mark) :
    cutBefore mark (before ++ rest) = before ++ cutBefore mark rest := by
  cases rest with
  | nil => rw [List.append_nil, cutBefore_of_free free]; exact (List.append_nil before).symm
  | cons separator rest =>
      induction before with
      | nil => rfl
      | cons character before ih =>
          have later : ¬ mark <+: character :: (before ++ separator :: rest) := fun starts =>
            free ((isPrefix_append_cons (apart separator rfl)).mp starts).isInfix
          rw [List.cons_append, cutBefore_cons later, ih fun inside =>
            free (List.infix_cons inside), List.cons_append]

theorem cutBefore_append {first : Char} (absent : first ∉ before) (mark rest : List Char) :
    cutBefore (first :: mark) (before ++ rest) = before ++ cutBefore (first :: mark) rest := by
  induction before with
  | nil => rfl
  | cons character before ih =>
      obtain ⟨different, absent⟩ := List.ne_and_not_mem_of_not_mem_cons absent
      have later : ¬ first :: mark <+: character :: (before ++ rest) := fun starts =>
        different (List.cons_prefix_cons.mp starts).1
      rw [List.cons_append, cutBefore_cons later, ih absent, List.cons_append]

/-- White space at the end of a text leaves at most white space at the end of what is cut. -/
theorem exists_cutBefore_append (filled : mark ≠ [])
    (solid : ∀ character ∈ mark, Text.isWhiteSpace character = false) (text : List Char)
    (blank : Blank gap) :
    ∃ gap', Blank gap' ∧ cutBefore mark (text ++ gap) = cutBefore mark text ++ gap' := by
  induction text with
  | nil =>
      refine ⟨gap, blank, cutBefore_of_free fun inside => ?_⟩
      obtain ⟨first, member⟩ := List.exists_mem_of_ne_nil mark filled
      exact blank.not_mem (solid first member) (inside.subset member)
  | cons character text ih =>
      obtain ⟨gap', blank', cut⟩ := ih
      have same : mark <+: (character :: text) ++ gap ↔ mark <+: character :: text := by
        cases gap with
        | nil => rw [List.append_nil]
        | cons white gap =>
            refine isPrefix_append_cons fun member => ?_
            exact blank.not_mem (solid white member) List.mem_cons_self
      by_cases starts : mark <+: character :: text
      · refine ⟨[], List.forall_mem_nil _, ?_⟩
        rw [cutBefore_of_isPrefix starts, cutBefore_of_isPrefix (same.mpr starts)]
        rfl
      · have later : ¬ mark <+: character :: (text ++ gap) := fun longer =>
          starts (same.mp longer)
        refine ⟨gap', blank', ?_⟩
        rw [List.cons_append, cutBefore_cons later, cutBefore_cons starts, cut, List.cons_append]

/-- An elision stays behind an equals sign. -/
theorem exists_dropElision_append (before after : List Char) :
    ∃ left, dropElision (before ++ '=' :: after) = before ++ '=' :: left := by
  by_cases elided : ['.', '.', '.'] <:+ after
  · obtain ⟨front, rfl⟩ := elided
    have cut : Text.dropSuffix? ['.', '.', '.'] (before ++ '=' :: (front ++ ['.', '.', '.'])) =
        some (before ++ '=' :: front) := Text.dropSuffix?_eq_some_iff.mpr (by simp)
    refine ⟨Text.trimEnd front, ?_⟩
    rw [dropElision, cut]
    exact Text.trimEnd_append_cons before (by decide) front
  · exact ⟨after, dropElision_eq fun ends =>
      elided ((isSuffix_append_cons (by decide) before).mp ends)⟩

end Marks

/-! ## Names of values -/

section Names

variable {name : List Char} {names : List (List Char)}

def separator : List Char := [',', ' ']

theorem exists_cons_of_names (filled : names ≠ []) (areNames : ∀ name ∈ names, IsName name) :
    ∃ first rest, separator.intercalate names = first :: rest ∧
      isIdentifierCharacter first = true := by
  obtain ⟨name, others, rfl⟩ := List.exists_cons_of_ne_nil filled
  obtain ⟨first, rest, rfl, identifier⟩ := (areNames name List.mem_cons_self).exists_cons
  cases others with
  | nil => exact ⟨first, rest, List.intercalate_singleton, identifier⟩
  | cons next others => exact ⟨first, _, List.intercalate_cons_cons, identifier⟩

private theorem getLast?_names (filled : names ≠ []) (areNames : ∀ name ∈ names, IsName name) :
    ∀ character ∈ (separator.intercalate names).getLast?,
      isIdentifierCharacter character = true := by
  induction names with
  | nil => exact absurd rfl filled
  | cons name names ih =>
      obtain ⟨isName, others⟩ := List.forall_mem_cons.mp areNames
      cases names with
      | nil =>
          rw [List.intercalate_singleton]
          exact fun character last => isName.2 character (List.mem_of_getLast? last)
      | cons next names =>
          obtain ⟨first, rest, starts, _⟩ := exists_cons_of_names (List.cons_ne_nil _ _) others
          rw [List.intercalate_cons_cons, List.getLast?_append_of_ne_nil]
          · exact ih (List.cons_ne_nil _ _) others
          · rw [starts]
            exact List.cons_ne_nil _ _

/-- Apart from names there are only commas and blanks. -/
theorem not_mem_names {character : Char} (other : isIdentifierCharacter character = false)
    (notSeparator : character ∉ separator) (areNames : ∀ name ∈ names, IsName name) :
    character ∉ separator.intercalate names := by
  induction names with
  | nil => exact List.not_mem_nil
  | cons name names ih =>
      obtain ⟨isName, others⟩ := List.forall_mem_cons.mp areNames
      cases names with
      | nil =>
          rw [List.intercalate_singleton]
          exact isName.not_mem other
      | cons next names =>
          rw [List.intercalate_cons_cons, List.append_assoc]
          simp only [List.mem_append, not_or]
          exact ⟨isName.not_mem other, notSeparator, ih others⟩

private theorem length_le_names (areNames : ∀ name ∈ names, IsName name) :
    names.length ≤ (separator.intercalate names).length := by
  induction names with
  | nil => exact Nat.le_refl _
  | cons name names ih =>
      obtain ⟨isName, others⟩ := List.forall_mem_cons.mp areNames
      have filled := List.length_pos_iff.mpr isName.1
      cases names with
      | nil =>
          rw [List.intercalate_singleton]
          exact filled
      | cons next names =>
          have shorter := ih others
          rw [List.intercalate_cons_cons, List.length_append, List.length_append]
          simp only [List.length_cons] at shorter ⊢
          omega

private theorem readNames_last (isName : IsName name) {rest : List Char}
    (ends : ∀ character ∈ rest.head?, isIdentifierCharacter character = false)
    (noComma : (Text.trimStart rest).head? ≠ some ',') (fuel : Nat) :
    readNames (fuel + 1) (name ++ rest) = ([name], Text.trimStart rest) := by
  have span := isName.spanIdentifier_append ends
  obtain ⟨first, letters, rfl, _⟩ := isName.exists_cons
  rw [readNames, span]
  dsimp only
  split
  · next starts => exact absurd (congrArg List.head? starts) noComma
  · rfl

private theorem readNames_comma (isName : IsName name) {rest left : List Char} {fuel : Nat}
    (reads : readNames fuel (Text.trimStart rest) = (names, left)) :
    readNames (fuel + 1) (name ++ separator ++ rest) = (name :: names, left) := by
  have span : spanIdentifier (name ++ (separator ++ rest)) = (name, separator ++ rest) := by
    apply isName.spanIdentifier_append
    rintro character ⟨⟩
    decide
  have comma : Text.trimStart (separator ++ rest) = ',' :: ([' '] ++ rest) :=
    Text.trimStart_cons (by decide) _
  have blank : Text.trimStart ([' '] ++ rest) = Text.trimStart rest :=
    Text.trimStart_append (by decide) rest
  obtain ⟨first, letters, rfl, _⟩ := isName.exists_cons
  rw [List.append_assoc, readNames, span]
  dsimp only
  rw [comma]
  simp only [blank, reads]

/-- Names are read up to the last one and the white space behind it. -/
theorem readNames_names (filled : names ≠ []) (areNames : ∀ name ∈ names, IsName name)
    {rest : List Char} (ends : ∀ character ∈ rest.head?, isIdentifierCharacter character = false)
    (noComma : (Text.trimStart rest).head? ≠ some ',') {fuel : Nat}
    (enough : names.length ≤ fuel) :
    readNames fuel (separator.intercalate names ++ rest) = (names, Text.trimStart rest) := by
  induction names generalizing fuel with
  | nil => exact absurd rfl filled
  | cons name names ih =>
      obtain ⟨isName, others⟩ := List.forall_mem_cons.mp areNames
      obtain ⟨fuel, rfl⟩ : ∃ smaller, fuel = smaller + 1 :=
        Nat.exists_eq_succ_of_ne_zero (Nat.ne_zero_of_lt enough)
      cases names with
      | nil =>
          rw [List.intercalate_singleton]
          exact readNames_last isName ends noComma fuel
      | cons next names =>
          have nextFilled := List.cons_ne_nil next names
          obtain ⟨first, letters, starts, identifier⟩ := exists_cons_of_names nextFilled others
          have solid : Text.trimStart (separator.intercalate (next :: names) ++ rest) =
              separator.intercalate (next :: names) ++ rest := by
            rw [starts]
            exact Text.trimStart_cons (isWhiteSpace_of_identifier identifier) _
          have reads := ih nextFilled others (Nat.le_of_succ_le_succ enough)
          rw [← solid] at reads
          rw [List.intercalate_cons_cons, List.append_assoc]
          exact readNames_comma isName reads

end Names

/-! ## Values -/

namespace Values

variable {values : Values}

def left (values : Values) : List Char :=
  separator.intercalate values.names ++ written [] values.type

def right (values : Values) : List Char :=
  written ['='] values.value ++ written ['/', '/'] values.comment

theorem line_eq (values : Values) : values.line = values.left ++ values.right :=
  (List.append_assoc ..).symm

/-- The type of some values follows their names after a blank, if it is there. -/
theorem Fits.left_cases (fits : values.Fits) :
    values.type = none ∧ values.left = separator.intercalate values.names ∨
      ∃ leading white text, Blank (leading ++ [white]) ∧ IsValueType text ∧
        values.type = some ⟨leading ++ [white], text⟩ ∧
        values.left = separator.intercalate values.names ++ leading ++ white :: text := by
  rw [left]
  cases type : values.type with
  | none => exact .inl ⟨rfl, List.append_nil _⟩
  | some part =>
      obtain ⟨⟨filled, blank⟩, isType⟩ := fits.type part type
      obtain ⟨gap, text⟩ := part
      obtain ⟨leading, white, rfl⟩ : ∃ leading white, gap = leading ++ [white] :=
        ⟨gap.dropLast, gap.getLast filled, (List.dropLast_append_getLast filled).symm⟩
      exact .inr ⟨leading, white, text, blank, isType, rfl, by simp [written]⟩

theorem Fits.not_mem_names (fits : values.Fits) {character : Char}
    (other : isIdentifierCharacter character = false) (notSeparator : character ∉ separator) :
    character ∉ separator.intercalate values.names :=
  Documentation.not_mem_names other notSeparator fits.names

theorem Fits.no_value (fits : values.Fits) : '=' ∉ values.left := by
  have names : '=' ∉ separator.intercalate values.names :=
    fits.not_mem_names (by decide) (by decide)
  rcases fits.left_cases with ⟨_, left⟩ | ⟨leading, white, text, blank, isType, _, left⟩
  · rwa [left]
  · have gap : '=' ∉ leading ++ [white] := blank.not_mem (by decide)
    rw [left]
    simp only [List.mem_append, List.mem_cons, not_or, List.not_mem_nil] at gap ⊢
    exact ⟨⟨names, gap.1⟩, gap.2.1, isType.no_value⟩

theorem Fits.no_elision (fits : values.Fits) : ¬ ['.', '.', '.'] <:+ values.left := by
  have names : '.' ∉ separator.intercalate values.names :=
    fits.not_mem_names (by decide) (by decide)
  rcases fits.left_cases with ⟨_, left⟩ | ⟨leading, white, text, blank, isType, _, left⟩
  · rw [left]
    exact fun ends => names (ends.subset List.mem_cons_self)
  · have solid : white ∉ ['.', '.', '.'] := by
      intro member
      obtain rfl : white = '.' := by simpa using member
      exact blank.not_mem (by decide) (List.mem_append_right leading List.mem_cons_self)
    rw [left, isSuffix_append_cons solid]
    exact isType.no_elision

private theorem Fits.cutBefore_left (fits : values.Fits) {rest : List Char}
    (apart : ∀ character ∈ rest.head?, Text.isWhiteSpace character = true) :
    cutBefore ['/', '/'] (values.left ++ rest) = values.left ++ cutBefore ['/', '/'] rest := by
  have names : '/' ∉ separator.intercalate values.names :=
    fits.not_mem_names (by decide) (by decide)
  rcases fits.left_cases with ⟨_, left⟩ | ⟨leading, white, text, blank, isType, _, left⟩
  · rw [left, cutBefore_append names]
  · have gap : '/' ∉ separator.intercalate values.names ++ (leading ++ [white]) := fun member =>
      (List.mem_append.mp member).elim names (blank.not_mem (by decide))
    have parts : values.left =
        separator.intercalate values.names ++ (leading ++ [white]) ++ text := by simp [left]
    have apart' : ∀ character ∈ rest.head?, character ∉ ['/', '/'] := by
      intro character head member
      have slash : character = '/' := by simpa using member
      exact absurd (apart character head) (by rw [slash]; decide)
    rw [parts, List.append_assoc, cutBefore_append gap,
      cutBefore_of_apart isType.no_comment apart', List.append_assoc _ text]

private theorem Fits.left_ne_nil (fits : values.Fits) : values.left ≠ [] := by
  obtain ⟨first, rest, starts, _⟩ := exists_cons_of_names fits.some_name fits.names
  rw [left, starts]
  exact List.cons_ne_nil _ _

theorem Fits.trimmed_left (fits : values.Fits) : Trimmed values.left := by
  obtain ⟨first, rest, starts, identifier⟩ := exists_cons_of_names fits.some_name fits.names
  constructor
  · intro character head
    rw [left, starts] at head
    obtain rfl : first = character := Option.some.inj head
    exact isWhiteSpace_of_identifier identifier
  · rcases fits.left_cases with ⟨_, left⟩ | ⟨leading, white, text, blank, isType, _, left⟩
    · rw [left]
      exact fun character last => isWhiteSpace_of_identifier
        (getLast?_names fits.some_name fits.names character last)
    · rw [left, List.append_cons, List.getLast?_append_of_ne_nil _ isType.filled]
      exact isType.trimmed.2

/-- Without its comment, what follows the names and the type is blank or a value. -/
theorem Fits.right_cases (fits : values.Fits) :
    (∀ character ∈ values.right.head?, Text.isWhiteSpace character = true) ∧
      ∃ gap, Blank gap ∧ (cutBefore ['/', '/'] values.right = gap ∨
        ∃ after, cutBefore ['/', '/'] values.right = gap ++ '=' :: after) := by
  rw [right]
  cases value : values.value with
  | some part =>
      obtain ⟨filled, blank⟩ := fits.value part value
      obtain ⟨gap, text⟩ := part
      obtain ⟨white, others, rfl⟩ := List.exists_cons_of_ne_nil filled
      have noSlash : '/' ∉ (white :: others) ++ ['='] := fun member =>
        (List.mem_append.mp member).elim (blank.not_mem (by decide)) (by decide)
      refine ⟨fun character head => ?_, white :: others, blank, .inr ⟨
        cutBefore ['/', '/'] (text ++ written ['/', '/'] values.comment), ?_⟩⟩
      · cases head
        exact blank white List.mem_cons_self
      · have parts : written ['='] (some ⟨white :: others, text⟩) ++
            written ['/', '/'] values.comment =
              (white :: others) ++ ['='] ++ (text ++ written ['/', '/'] values.comment) := by
          simp [written]
        rw [parts, cutBefore_append noSlash, ← List.append_cons]
  | none =>
      cases comment : values.comment with
      | none => exact ⟨fun character head => (Option.not_mem_none _ head).elim, [],
          List.forall_mem_nil _, .inl rfl⟩
      | some part =>
          obtain ⟨filled, blank⟩ := fits.comment part comment
          obtain ⟨gap, text⟩ := part
          obtain ⟨white, others, rfl⟩ := List.exists_cons_of_ne_nil filled
          refine ⟨fun character head => ?_, white :: others, blank, .inl ?_⟩
          · cases head
            exact blank white List.mem_cons_self
          · rw [written, List.nil_append, written, cutBefore_append (blank.not_mem (by decide)),
              cutBefore_of_isPrefix (List.prefix_append ..), List.append_nil]

/-- What is left of a line without its comment and its values. -/
theorem Fits.specification (fits : values.Fits) :
    Text.trim (cutBefore ['='] (dropElision (Text.trim (cutBefore ['/', '/'] values.line)))) =
      values.left := by
  have whole : cutBefore ['='] values.left = values.left := by
    have cut := cutBefore_append fits.no_value [] []
    simpa [cutBefore] using cut
  obtain ⟨apart, gap, blank, cut | ⟨after, cut⟩⟩ := fits.right_cases
  · rw [line_eq, fits.cutBefore_left apart, cut, Text.trim_append _ blank,
      Text.trim_of_ends fits.trimmed_left, dropElision_eq fits.no_elision, whole,
      Text.trim_of_ends fits.trimmed_left]
  · have noValue : '=' ∉ values.left ++ gap := fun member =>
      (List.mem_append.mp member).elim fits.no_value (blank.not_mem (by decide))
    have start : Text.trimStart (values.left ++ gap) = values.left ++ gap := by
      obtain ⟨first, others, starts⟩ := List.exists_cons_of_ne_nil fits.left_ne_nil
      have solid := fits.trimmed_left.1 first (by rw [starts]; rfl)
      rw [starts]
      exact Text.trimStart_cons solid _
    obtain ⟨rest, dropped⟩ := exists_dropElision_append (values.left ++ gap) (Text.trimEnd after)
    have stops : cutBefore ['='] ('=' :: rest) = [] :=
      cutBefore_of_isPrefix (List.prefix_append ['='] rest)
    rw [line_eq, fits.cutBefore_left apart, cut, ← List.append_assoc,
      Text.trim_append_cons _ (by decide), start, dropped, cutBefore_append noValue, stops,
      List.append_nil, Text.trim_append _ blank, Text.trim_of_ends fits.trimmed_left]

private theorem Fits.readNames_left (fits : values.Fits) :
    ∃ rest, readNames values.left.length values.left = (values.names, rest) ∧
      signature? (Text.trim rest) = values.type.map fun part => String.ofList part.text := by
  have enough : values.names.length ≤ values.left.length := by
    rw [left, List.length_append]
    exact Nat.le_add_right_of_le (length_le_names fits.names)
  rcases fits.left_cases with ⟨type, left⟩ | ⟨leading, white, text, blank, isType, type, left⟩
  · have reads : readNames values.left.length (separator.intercalate values.names ++ []) =
        (values.names, Text.trimStart []) :=
      readNames_names fits.some_name fits.names (by simp) (by decide) enough
    rw [List.append_nil, ← left] at reads
    exact ⟨_, reads, by rw [type]; rfl⟩
  · have bare : Text.trimStart (leading ++ [white] ++ text) = text := by
      rw [Text.trimStart_append blank, Text.trimStart_of_head isType.trimmed.1]
    have apart : ∀ character ∈ (leading ++ [white] ++ text).head?,
        isIdentifierCharacter character = false := by
      intro character head
      have member : character ∈ leading ++ [white] := by
        cases leading <;> cases head <;> simp
      exact isIdentifierCharacter_of_white (blank character member)
    have reads := readNames_names fits.some_name fits.names apart
      (by rw [bare]; exact isType.no_name) enough
    have parts : values.left =
        separator.intercalate values.names ++ (leading ++ [white] ++ text) := by simp [left]
    rw [bare, ← parts] at reads
    refine ⟨text, reads, ?_⟩
    rw [Text.trim_of_ends isType.trimmed, signature?, if_neg (by simpa using isType.filled), type]
    rfl

theorem Fits.readValues_line (fits : values.Fits) (kind : SymbolKind) :
    readValues kind values.line = values.declarations kind := by
  obtain ⟨rest, reads, signature⟩ := fits.readNames_left
  simp only [readValues, fits.specification, reads, signature]
  rfl

end Values

end SymbolCache.Documentation
