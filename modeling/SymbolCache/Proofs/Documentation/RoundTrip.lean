import SymbolCache.Proofs.Documentation.Values
import SymbolCache.Proofs.Text.Parts

/-!
# Reading back documentation

The declarations of a written document are read as they were written: their names, kinds and
signatures, in their order.
-/

set_option autoImplicit false

namespace SymbolCache.Documentation

open Text (Blank)

/-! ## White space behind values -/

private theorem readValues_append (kind : SymbolKind) (text : List Char) {gap : List Char}
    (blank : Blank gap) : readValues kind (text ++ gap) = readValues kind text := by
  have solid : ∀ character ∈ ['/', '/'], Text.isWhiteSpace character = false := by
    simp only [List.forall_mem_cons]
    exact ⟨by decide, by decide, List.forall_mem_nil _⟩
  obtain ⟨gap', blank', cut⟩ := exists_cutBefore_append (List.cons_ne_nil _ _) solid text blank
  rw [readValues, readValues, cut, Text.trim_append _ blank']

private theorem readValues_trimEnd (kind : SymbolKind) (text : List Char) :
    readValues kind (Text.trimEnd text) = readValues kind text := by
  obtain ⟨gap, blank, parts⟩ := Text.exists_trimEnd_append text
  calc readValues kind (Text.trimEnd text) = readValues kind (Text.trimEnd text ++ gap) :=
        (readValues_append kind _ blank).symm
    _ = readValues kind text := by rw [← parts]

/-! ## Carriage returns -/

theorem dropPrefix?_concat {leading : List Char} {last : Char} (absent : last ∉ leading)
    (text : List Char) :
    Text.dropPrefix? leading (text ++ [last]) =
      (Text.dropPrefix? leading text).map (· ++ [last]) := by
  induction leading generalizing text with
  | nil => rfl
  | cons expected leading ih =>
      obtain ⟨different, absent⟩ := List.ne_and_not_mem_of_not_mem_cons absent
      cases text with
      | nil => simp [Text.dropPrefix?, different.symm]
      | cons character text =>
          simp only [List.cons_append, Text.dropPrefix?, ih absent]
          split <;> rfl

theorem blank_return : Blank ['\r'] := by decide

private theorem readValueLine_concat (kind : SymbolKind) (text : List Char) :
    readValueLine kind (text ++ ['\r']) = readValueLine kind text := by
  rw [readValueLine, Text.trim_append text blank_return, readValues_append kind text blank_return]
  rfl

private theorem readLine_concat (line : List Char) : readLine (line ++ ['\r']) = readLine line := by
  cases line with
  | nil => rfl
  | cons first rest =>
      have head : (first :: rest ++ ['\r']).head? = (first :: rest).head? := rfl
      rw [readLine, readLine, head, dropPrefix?_concat (by decide), dropPrefix?_concat (by decide),
        dropPrefix?_concat (by decide), dropPrefix?_concat (by decide)]
      congr 1
      cases Text.dropPrefix? "func ".toList (first :: rest) with
      | some text => simp [readFunction, Text.trim_append text blank_return]
      | none =>
          cases Text.dropPrefix? "type ".toList (first :: rest) with
          | some text => simp [readType, Text.trim_append text blank_return]
          | none =>
              cases Text.dropPrefix? "const ".toList (first :: rest) with
              | some text => exact readValueLine_concat .const text
              | none =>
                  cases Text.dropPrefix? "var ".toList (first :: rest) with
                  | some text => exact readValueLine_concat .var text
                  | none => rfl

private theorem readMember_concat (kind : SymbolKind) (line : List Char) :
    readMember kind (line ++ ['\r']) = readMember kind line := by
  cases line with
  | nil => rfl
  | cons first rest =>
      rw [readMember, Text.trim_append _ blank_return]
      rfl

private theorem dropCarriageReturn_cases (line : List Char) :
    Text.dropCarriageReturn line = line ∨
      ∃ front, line = front ++ ['\r'] ∧ Text.dropCarriageReturn line = front := by
  by_cases ends : line.getLast? = some '\r'
  · refine .inr ⟨line.dropLast, ?_, if_pos ends⟩
    exact (List.dropLast_append_getLast? '\r' ends).symm
  · exact .inl (if_neg ends)

/-- It makes no difference whether lines end with a carriage return. -/
theorem readLines_map_dropCarriageReturn (group : Option SymbolKind) (lines : List (List Char)) :
    readLines group (lines.map Text.dropCarriageReturn) = readLines group lines := by
  induction lines generalizing group with
  | nil => rfl
  | cons line lines ih =>
      obtain kept | ⟨front, rfl, dropped⟩ := dropCarriageReturn_cases line
      · cases group <;> simp only [List.map_cons, kept, readLines, ih]
      · have closes : closesGroup (front ++ ['\r']) = closesGroup front := by
          rw [closesGroup, Text.trim_append front blank_return]
          rfl
        cases group <;>
          simp only [List.map_cons, dropped, readLines, readLine_concat, readMember_concat, closes,
            ih]

/-! ## Groups -/

theorem Values.Fits.exists_cons {values : Values} (fits : values.Fits) :
    ∃ first rest, values.line = first :: rest ∧ isIdentifierCharacter first = true := by
  obtain ⟨first, rest, starts, identifier⟩ := exists_cons_of_names fits.some_name fits.names
  refine ⟨first, rest ++ (written [] values.type ++ values.right), ?_, identifier⟩
  rw [line_eq, left, starts, List.append_assoc, List.cons_append]

theorem Values.Fits.trim_line {values : Values} (fits : values.Fits) {gap : List Char}
    (blank : Blank gap) : Text.trim (gap ++ values.line) = Text.trimEnd values.line := by
  obtain ⟨first, rest, starts, identifier⟩ := fits.exists_cons
  rw [Text.trim, Text.trimStart_append blank, starts,
    Text.trimStart_cons (isWhiteSpace_of_identifier identifier)]

private theorem Values.Fits.trimEnd_ne {values : Values} (fits : values.Fits) {bracket : Char}
    (other : isIdentifierCharacter bracket = false) : Text.trimEnd values.line ≠ [bracket] := by
  obtain ⟨first, rest, starts, identifier⟩ := fits.exists_cons
  have trimmed := Text.trimEnd_append_cons [] (isWhiteSpace_of_identifier identifier) rest
  rw [starts, show Text.trimEnd (first :: rest) = first :: Text.trimEnd rest from trimmed]
  intro same
  rw [(List.cons.inj same).1, other] at identifier
  exact Bool.false_ne_true identifier

private theorem Member.Fits.readMember_line {member : Member} (fits : member.Fits)
    (kind : SymbolKind) :
    readMember kind member.line = member.declarations kind := by
  cases member with
  | remark line =>
      rw [readMember, Member.line]
      rcases (fits : IsRemark line) with blank | ⟨indented, comment⟩
      · rw [Text.trim_eq_nil_iff.mpr blank]
        exact ite_self _
      · rw [if_pos indented, readValues, cutBefore_of_isPrefix comment]
        rfl
  | values list =>
      have fits : list.Fits := fits
      have tab : Blank ['\t'] := by decide
      have trimmed := fits.trim_line tab
      calc readMember kind ('\t' :: list.line)
        _ = readValues kind (Text.trim (['\t'] ++ list.line)) := if_pos rfl
        _ = readValues kind list.line := by rw [trimmed, readValues_trimEnd]
        _ = list.declarations kind := fits.readValues_line kind

private theorem Member.Fits.closesGroup_line {member : Member} (fits : member.Fits) :
    closesGroup member.line = false := by
  rw [closesGroup, decide_eq_false_iff_not]
  cases member with
  | remark line =>
      rcases (fits : IsRemark line) with blank | ⟨_, comment⟩
      · rw [Member.line, Text.trim_eq_nil_iff.mpr blank]
        exact (List.cons_ne_nil _ _).symm
      · intro closes
        rw [Member.line] at closes
        rw [closes] at comment
        exact absurd comment (by decide)
  | values list =>
      have tab : Blank ['\t'] := by decide
      have trimmed := Values.Fits.trim_line fits tab
      rw [Member.line, ← List.singleton_append, trimmed]
      exact Values.Fits.trimEnd_ne fits (by decide)

private theorem readLines_members {members : List Member} (fits : ∀ member ∈ members, member.Fits)
    (kind : SymbolKind) (rest : List (List Char)) :
    readLines (some kind) (members.map Member.line ++ [')'] :: rest) =
      members.flatMap (Member.declarations kind) ++ readLines none rest := by
  induction members with
  | nil => rfl
  | cons member members ih =>
      obtain ⟨first, others⟩ := List.forall_mem_cons.mp fits
      rw [List.map_cons, List.cons_append, readLines, if_neg (by simp [first.closesGroup_line]),
        first.readMember_line, ih others, List.flatMap_cons, List.append_assoc]

/-! ## Lines -/

theorem IsProse.readLine_eq {line : List Char} (prose : IsProse line) :
    readLine line = .declares [] := by
  rw [readLine]
  rcases prose with ⟨character, head, white⟩ | noKeyword
  · rw [if_pos]
    rw [Option.mem_def.mp head]
    exact white
  · have absent : ∀ keyword ∈ ["func ", "type ", "const ", "var "],
        Text.dropPrefix? keyword.toList line = none := by
      intro keyword member
      rw [Option.eq_none_iff_forall_not_mem]
      intro rest cut
      exact noKeyword keyword member ⟨rest, (Text.dropPrefix?_eq_some_iff.mp cut).symm⟩
    simp only [List.forall_mem_cons] at absent
    rw [absent.1, absent.2.1, absent.2.2.1, absent.2.2.2.1]
    exact ite_self _

private theorem Values.Fits.readLine_line {values : Values} (fits : values.Fits) {kind : SymbolKind}
    (isValue : kind = .const ∨ kind = .var) :
    readLine (kind.word.toList ++ ' ' :: values.line) = .declares (values.declarations kind) := by
  have notGroup : Text.trim values.line ≠ ['('] := by
    rw [← List.nil_append values.line, fits.trim_line (List.forall_mem_nil _)]
    exact fits.trimEnd_ne (by decide)
  have reads : readValueLine kind values.line = .declares (values.declarations kind) := by
    rw [readValueLine, if_neg notGroup, fits.readValues_line]
  rcases isValue with rfl | rfl
  · exact reads
  · exact reads

theorem readLines_of_declares {line : List Char} {list : List Declaration}
    (reads : readLine line = .declares list) (lines : List (List Char)) :
    readLines none (line :: lines) = list ++ readLines none lines := by
  rw [readLines, reads]

private theorem Item.WellFormed.readLines_lines {item : Item} (wellFormed : item.WellFormed)
    (rest : List (List Char)) :
    readLines none (item.lines ++ rest) = item.declarations ++ readLines none rest := by
  cases item with
  | prose line =>
      have prose : IsProse line := wellFormed
      exact readLines_of_declares prose.readLine_eq rest
  | function name signature =>
      obtain ⟨isName, isSignature⟩ := wellFormed
      have reads : readLine ("func ".toList ++ (name ++ signature)) =
          .declares (readFunction (name ++ signature)).toList := rfl
      rw [readFunction_function isName isSignature] at reads
      exact readLines_of_declares reads rest
  | method receiver name signature =>
      obtain ⟨balanced, isName, isSignature⟩ := wellFormed
      have reads : readLine ("func ".toList ++
          '(' :: (receiver ++ ')' :: ' ' :: (name ++ signature))) =
            .declares (readFunction
              ('(' :: (receiver ++ ')' :: ' ' :: (name ++ signature)))).toList := rfl
      rw [readFunction_method balanced isName isSignature] at reads
      exact readLines_of_declares reads rest
  | type name parameters body =>
      obtain ⟨isName, balanced, fits⟩ := wellFormed
      have reads : readLine ("type ".toList ++
          (name ++ (parameterText parameters ++ ' ' :: body.line))) =
            .declares (readType
              (name ++ (parameterText parameters ++ ' ' :: body.line))).toList := rfl
      rw [readType_type isName balanced fits] at reads
      exact readLines_of_declares reads rest
  | values kind list =>
      obtain ⟨isValue, fits⟩ := wellFormed
      exact readLines_of_declares (fits.readLine_line isValue) rest
  | group kind members =>
      obtain ⟨isValue, fits⟩ := wellFormed
      have opens : readLine (kind.word.toList ++ [' ', '(']) = .opensGroup kind := by
        rcases isValue with rfl | rfl <;> rfl
      have members := readLines_members fits kind rest
      rw [lines, List.cons_append, readLines, opens, List.append_assoc]
      exact members

/-! ## Documents -/

private theorem split_lines {lines : List (List Char)} (oneLine : ∀ line ∈ lines, '\n' ∉ line) :
    Text.split '\n' (lines.flatMap fun line => line ++ ['\n']) = lines ++ [[]] := by
  induction lines with
  | nil => rfl
  | cons line lines ih =>
      obtain ⟨first, others⟩ := List.forall_mem_cons.mp oneLine
      rw [List.flatMap_cons, ← List.append_cons, Text.split_append, Text.split_of_not_mem first,
        ih others]
      rfl

private theorem lines_document {items : List Item} (fits : ∀ item ∈ items, item.Fits) :
    Text.lines (document items).toList =
      (items.flatMap Item.lines).map Text.dropCarriageReturn := by
  have oneLine : ∀ line ∈ items.flatMap Item.lines, '\n' ∉ line := by
    intro line member
    obtain ⟨item, inside, member⟩ := List.mem_flatMap.mp member
    exact (fits item inside).2 line member
  rw [document, String.toList_ofList, Text.lines, split_lines oneLine, List.dropLast_concat,
    List.getLast?_concat]
  exact List.append_nil _

private theorem readLines_items {items : List Item} (fits : ∀ item ∈ items, item.Fits) :
    readLines none (items.flatMap Item.lines) = items.flatMap Item.declarations := by
  induction items with
  | nil => rfl
  | cons item items ih =>
      obtain ⟨first, others⟩ := List.forall_mem_cons.mp fits
      rw [List.flatMap_cons, first.1.readLines_lines, ih others, List.flatMap_cons]

/-- A written document is read as its declarations, in their order. -/
theorem declarations_document (items : List Item) (fits : ∀ item ∈ items, item.Fits) :
    declarations (document items) = items.flatMap Item.declarations := by
  rw [declarations, lines_document fits, readLines_map_dropCarriageReturn, readLines_items fits]

/-! ### A document of each form -/

def seekStart : Values where
  names := ["SeekStart".toList, "Seek_2".toList]
  type := some ⟨[' '], "[]Whence".toList⟩
  value := some ⟨"   ".toList, " \"//\", f(1, 2) // = ...".toList⟩
  comment := some ⟨[' '], " from the start".toList⟩

def readerItems : List Item :=
  [.prose "package io // import \"io\"".toList,
    .prose [],
    .group .const [.remark "\t// Places to seek from.".toList, .remark [], .values seekStart],
    .function "Copy".toList "(dst Writer, src Reader) (written int64, err error)".toList,
    .type "List".toList (some "E [2]any".toList) (.struct "\x7b ... \x7d".toList),
    .prose "    A List holds elements.".toList,
    .method "l *List[(E)]".toList "Len".toList "() int".toList,
    .type "Handle".toList none (.other "= uintptr".toList)]

private theorem fits_seekStart : seekStart.Fits where
  some_name := by decide
  names := by
    simp only [seekStart, List.forall_mem_cons]
    exact ⟨by decide +kernel, by decide +kernel, List.forall_mem_nil _⟩
  type := by
    rintro part ⟨⟩
    exact ⟨⟨by decide, by decide⟩, by decide, by decide, by decide, by decide,
      by decide +kernel, by decide +kernel⟩
  value := by
    rintro part ⟨⟩
    exact ⟨by decide, by decide⟩
  comment := by
    rintro part ⟨⟩
    exact ⟨by decide, by decide⟩

theorem Balanced.append {opening closing : Char} (text : List Char) {rest : List Char}
    (unopened : opening ∉ text) (unclosed : closing ∉ text)
    (balanced : Balanced opening closing rest) : Balanced opening closing (text ++ rest) := by
  induction text with
  | nil => exact balanced
  | cons character text ih =>
      rw [List.mem_cons, not_or] at unopened unclosed
      exact .other (Ne.symm unopened.1) (Ne.symm unclosed.1) (ih unopened.2 unclosed.2)

private theorem fits_readerItems : ∀ item ∈ readerItems, item.Fits := by
  have receiver : Balanced '(' ')' "l *List[(E)]".toList :=
    Balanced.append "l *List[".toList (by decide) (by decide)
      (.nested (.append ['E'] (by decide) (by decide) .nil)
        (.append [']'] (by decide) (by decide) .nil))
  have parameters : Balanced '[' ']' "E [2]any".toList :=
    Balanced.append "E ".toList (by decide) (by decide)
      (.nested (.append ['2'] (by decide) (by decide) .nil)
        (.append "any".toList (by decide) (by decide) .nil))
  have remarks : IsRemark "\t// Places to seek from.".toList ∧ IsRemark [] :=
    ⟨.inr (by decide), .inl (by decide)⟩
  have wellFormed : ∀ item ∈ readerItems, item.WellFormed := by
    simp only [readerItems, List.forall_mem_cons]
    refine ⟨.inr (by decide), .inr (by decide), ⟨.inl rfl, ?_⟩, ?_, ?_, .inl ⟨' ', rfl, by decide⟩,
      ?_, ?_, List.forall_mem_nil _⟩
    · simp only [List.forall_mem_cons]
      exact ⟨remarks.1, remarks.2, fits_seekStart, List.forall_mem_nil _⟩
    · exact ⟨by decide +kernel, by decide, by decide⟩
    · exact ⟨by decide +kernel, by rintro text ⟨⟩; exact parameters, trivial⟩
    · exact ⟨receiver, by decide +kernel, by decide, by decide⟩
    · exact ⟨by decide +kernel, by simp,
        ⟨by decide, by decide, by decide, by decide, by decide, by decide, by decide⟩⟩
  have oneLine : ∀ item ∈ readerItems, ∀ line ∈ item.lines, '\n' ∉ line := by decide +kernel
  exact fun item member => ⟨wellFormed item member, oneLine item member⟩

theorem declarations_document_readerItems :
    (∀ item ∈ readerItems, item.Fits) ∧ declarations (document readerItems) =
      [⟨"SeekStart", .const, some "[]Whence"⟩, ⟨"Seek_2", .const, some "[]Whence"⟩,
        ⟨"Copy", .func, some "func(dst Writer, src Reader) (written int64, err error)"⟩,
        ⟨"List", .struct, none⟩, ⟨"Len", .method, some "func() int"⟩,
        ⟨"Handle", .type, some "= uintptr"⟩] :=
  ⟨fits_readerItems, (declarations_document readerItems fits_readerItems).trans (by decide +kernel)⟩

end SymbolCache.Documentation
