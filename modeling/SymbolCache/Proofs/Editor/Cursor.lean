import Mathlib.Data.List.Basic
import Mathlib.Data.List.TakeWhile
import SymbolCache.Editor.Cursor
import SymbolCache.Proofs.Text.Bytes

/-!
# Comments and literals on a line

Whether a line ends in a comment or a literal is told by its bytes. It is what a scanner tells that
goes through the characters of the line, one by one or two at a time.
-/

set_option autoImplicit false

namespace SymbolCache.Cursor

open Text (encode exists_utf8EncodeChar toList_toUTF8)

/-! ## The scanner -/

/-- Where the text of a line goes on. -/
inductive Place where
  | code
  | blockComment
  | string
  | rune
  | rawString
  | lineComment
  deriving Repr, DecidableEq

/-- Where two characters lead that are read as one: what opens a comment, what closes a block
comment, and a backslash in a literal with the character behind it. -/
def Place.afterPair? : Place → Char → Char → Option Place
  | .code, '/', '/' => some .lineComment
  | .code, '/', '*' => some .blockComment
  | .blockComment, '*', '/' => some .code
  | .string, '\\', _ => some .string
  | .rune, '\\', _ => some .rune
  | _, _, _ => none

def Place.after : Place → Char → Place
  | .code, '"' => .string
  | .code, '\x27' => .rune
  | .code, '\x60' => .rawString
  | .string, '"' => .code
  | .rune, '\x27' => .code
  | .rawString, '\x60' => .code
  | place, _ => place

def scan (place : Place) : List Char → Place
  | [] => place
  | [last] => place.after last
  | first :: second :: text =>
    match place.afterPair? first second with
    | some next => scan next text
    | none => scan (place.after first) (second :: text)

section

variable {place next : Place} {first second : Char} {text : List Char}

theorem scan_pair (pair : place.afterPair? first second = some next) :
    scan place (first :: second :: text) = scan next text := by
  rw [scan, pair]

theorem scan_single (unpaired : place.afterPair? first second = none) :
    scan place (first :: second :: text) = scan (place.after first) (second :: text) := by
  rw [scan, unpaired]

private theorem scan_lineComment (text : List Char) : scan .lineComment text = .lineComment := by
  induction text with
  | nil => rfl
  | cons first text ih =>
      cases text with
      | nil => rfl
      | cons second text => exact ih

/-- A text is scanned in two parts, unless the characters on both sides of the cut are a pair. -/
theorem scan_append (place : Place) (before after : List Char)
    (apart : ∀ last ∈ before.getLast?, ∀ next ∈ after.head?, ∀ other : Place,
      other.after last = scan place before → other.afterPair? last next = none) :
    scan place (before ++ after) = scan (scan place before) after := by
  induction place, before using scan.induct with
  | case1 place => rfl
  | case2 place last =>
      cases after with
      | nil => rfl
      | cons next after => exact scan_single (apart last rfl next rfl place rfl)
  | case3 place first second text next pair ih =>
      rw [scan_pair pair] at apart ⊢
      rw [List.cons_append, List.cons_append, scan_pair pair]
      exact ih fun last member =>
        apart last (List.mem_getLast?_cons (List.mem_getLast?_cons member))
  | case4 place first second text unpaired ih =>
      rw [scan_single unpaired] at apart ⊢
      rw [List.cons_append, List.cons_append, scan_single unpaired]
      exact ih fun last member => apart last (List.mem_getLast?_cons member)

/-- A character that leads to code starts a pair only if it is a slash. -/
theorem afterPair?_eq_none_of_code (ends : place.after first = .code) (other : first ≠ '/') :
    place.afterPair? first second = none := by
  unfold Place.afterPair?
  split <;> simp_all [Place.after]

private theorem scan_append_of_code {before : List Char} (ends : scan place before = .code)
    (last : before.getLast? ≠ some '/') (after : List Char) :
    scan place (before ++ after) = scan .code after := by
  rw [scan_append place before after, ends]
  intro final member next _ other leads
  rw [ends] at leads
  refine afterPair?_eq_none_of_code leads ?_
  rintro rfl
  exact last member

private theorem eq_lineComment_of_after (leads : place.after first = .lineComment) :
    place = .lineComment := by
  unfold Place.after at leads
  split at leads <;> simp_all

private theorem scan_append_of_lineComment {before : List Char}
    (ends : scan place before = .lineComment) (after : List Char) :
    scan place (before ++ after) = .lineComment := by
  rw [scan_append place before after, ends, scan_lineComment]
  intro final _ next _ other leads
  obtain rfl := eq_lineComment_of_after (leads.trans ends)
  rfl

end

/-! ## Bytes -/

/-- A byte that neither opens nor closes a literal is passed over, unless it is the first one of a
delimiter of comments. -/
theorem endsOutsideCode_cons {surroundings : Surroundings} {byte : UInt8} {bytes : List UInt8}
    (other : byte ≠ 0x5C ∧ byte ≠ 0x22 ∧ byte ≠ 0x27 ∧ byte ≠ 0x60)
    (slash : surroundings = .code → byte = 0x2F →
      ∀ next ∈ bytes.head?, next ≠ 0x2F ∧ next ≠ 0x2A)
    (star : surroundings = .blockComment → byte = 0x2A → ∀ next ∈ bytes.head?, next ≠ 0x2F) :
    endsOutsideCode surroundings (byte :: bytes) = endsOutsideCode surroundings bytes := by
  obtain ⟨backslash, quote, apostrophe, backquote⟩ := other
  cases surroundings with
  | code =>
      -- Every pattern before the last one asks for another byte or for a pair.
      rw [endsOutsideCode]
      · rintro following first rfl
        simpa using slash rfl first
      · rintro following first rfl
        simpa using slash rfl first
      · exact quote
      · exact apostrophe
      · exact backquote
  | blockComment =>
      rw [endsOutsideCode]
      rintro following first rfl
      simpa using star rfl first
  | string => simp [endsOutsideCode, backslash]
  | rune => simp [endsOutsideCode, backslash]
  | rawString => simp [endsOutsideCode]

theorem endsOutsideCode_append (surroundings : Surroundings) {bytes : List UInt8}
    (far : ∀ byte ∈ bytes, 0x80 ≤ byte) (rest : List UInt8) :
    endsOutsideCode surroundings (bytes ++ rest) = endsOutsideCode surroundings rest := by
  induction bytes with
  | nil => rfl
  | cons byte bytes ih =>
      obtain ⟨first, others⟩ := List.forall_mem_cons.mp far
      have distinct : ∀ marker : UInt8, marker < 0x80 → byte ≠ marker := by
        rintro marker near rfl
        exact absurd first (UInt8.not_le.mpr near)
      rw [List.cons_append, endsOutsideCode_cons (by simp [distinct])
        (fun _ slash => absurd slash (distinct _ (by decide)))
        (fun _ star => absurd star (distinct _ (by decide))), ih others]

def Place.endsOutsideCode : Place → List UInt8 → Bool
  | .code, bytes => Cursor.endsOutsideCode .code bytes
  | .blockComment, bytes => Cursor.endsOutsideCode .blockComment bytes
  | .string, bytes => Cursor.endsOutsideCode .string bytes
  | .rune, bytes => Cursor.endsOutsideCode .rune bytes
  | .rawString, bytes => Cursor.endsOutsideCode .rawString bytes
  | .lineComment, _ => true

theorem Place.endsOutsideCode_append (place : Place) {bytes : List UInt8}
    (far : ∀ byte ∈ bytes, 0x80 ≤ byte) (rest : List UInt8) :
    place.endsOutsideCode (bytes ++ rest) = place.endsOutsideCode rest := by
  cases place <;> simp only [Place.endsOutsideCode, Cursor.endsOutsideCode_append _ far]

private theorem endsOutsideCode_pair {place next : Place} {first second : Char}
    (pair : place.afterPair? first second = some next) (text : List Char) :
    place.endsOutsideCode (encode (first :: second :: text)) =
      next.endsOutsideCode (encode text) := by
  -- A backslash passes over one byte, and the others of the character are like text.
  obtain ⟨leading, others, parts, far, -⟩ := exists_utf8EncodeChar second
  have escaped : encode ('\\' :: second :: text) = 0x5C :: leading :: (others ++ encode text) := by
    simp only [encode, List.flatMap_cons, parts]
    rfl
  unfold Place.afterPair? at pair
  split at pair
  · cases pair
    rfl
  · cases pair
    rfl
  · cases pair
    rfl
  · cases pair
    rw [escaped]
    exact Cursor.endsOutsideCode_append .string far _
  · cases pair
    rw [escaped]
    exact Cursor.endsOutsideCode_append .rune far _
  · cases pair

private theorem head_encode_ne {text : List Char} {marker : Char} (near : marker.toNat < 0x80)
    (different : ∀ character ∈ text.head?, character ≠ marker) :
    ∀ byte ∈ (encode text).head?, byte ≠ UInt8.ofNat marker.toNat := by
  cases text with
  | nil => simp [encode]
  | cons first text =>
      obtain ⟨leading, others, parts, -, distinct⟩ := exists_utf8EncodeChar first
      simpa [encode, parts] using distinct marker near (different first rfl)

def markers : List Char :=
  ['/', '*', '\\', '"', '\x27', '\x60']

private theorem Place.endsOutsideCode_other (place : Place) {byte : UInt8}
    (other : ∀ marker ∈ markers, byte ≠ UInt8.ofNat marker.toNat) (bytes : List UInt8) :
    place.endsOutsideCode (byte :: bytes) = place.endsOutsideCode bytes := by
  simp only [markers, List.forall_mem_cons] at other
  obtain ⟨slash, star, backslash, quote, apostrophe, backquote, -⟩ := other
  cases place with
  | lineComment => rfl
  | _ =>
      exact endsOutsideCode_cons ⟨backslash, quote, apostrophe, backquote⟩
        (fun _ same => absurd same slash) (fun _ same => absurd same star)

private theorem Place.after_other (place : Place) {character : Char} (other : character ∉ markers) :
    place.after character = place := by
  unfold Place.after
  split <;> simp_all [markers]

/-- A character that marks nothing leaves the place as it is, however many bytes it has. -/
theorem endsOutsideCode_unmarked {place : Place} {first : Char} (unmarked : first ∉ markers)
    (text : List Char) :
    place.endsOutsideCode (encode (first :: text)) =
      (place.after first).endsOutsideCode (encode text) := by
  obtain ⟨leading, others, parts, far, distinct⟩ := exists_utf8EncodeChar first
  have near : ∀ marker ∈ markers, marker.toNat < 0x80 := by simp [markers]
  have other : ∀ marker ∈ markers, leading ≠ UInt8.ofNat marker.toNat := fun marker member =>
    distinct marker (near marker member) fun same => unmarked (same ▸ member)
  rw [encode, List.flatMap_cons, parts, List.cons_append, place.endsOutsideCode_other other,
    place.endsOutsideCode_append far, place.after_other unmarked]
  rfl

section

variable {place : Place} {first : Char} {text : List Char}

/-- The character behind one that starts no pair is none that would make it a pair. -/
theorem head_encode_of_unpaired (second : Char)
    (unpaired : ∀ next ∈ text.head?, place.afterPair? first next = none)
    (pair : place.afterPair? first second ≠ none) (near : second.toNat < 0x80) :
    ∀ byte ∈ (encode text).head?, byte ≠ UInt8.ofNat second.toNat := by
  refine head_encode_ne near ?_
  rintro next member rfl
  exact pair (unpaired next member)

private theorem endsOutsideCode_slash
    (unpaired : ∀ next ∈ text.head?, place.afterPair? '/' next = none) :
    place.endsOutsideCode (encode ('/' :: text)) =
      (place.after '/').endsOutsideCode (encode text) := by
  cases place with
  | code =>
      have slash := head_encode_of_unpaired '/' unpaired (by decide) (by decide)
      have star := head_encode_of_unpaired '*' unpaired (by decide) (by decide)
      exact endsOutsideCode_cons (by decide)
        (fun _ _ next member => ⟨slash next member, star next member⟩)
        fun same => absurd same (by decide)
  | _ => rfl

private theorem endsOutsideCode_star
    (unpaired : ∀ next ∈ text.head?, place.afterPair? '*' next = none) :
    place.endsOutsideCode (encode ('*' :: text)) =
      (place.after '*').endsOutsideCode (encode text) := by
  cases place with
  | blockComment =>
      have slash := head_encode_of_unpaired '/' unpaired (by decide) (by decide)
      exact endsOutsideCode_cons (by decide) (fun same => absurd same (by decide)) fun _ _ => slash
  | lineComment => rfl
  | _ =>
      exact endsOutsideCode_cons (by decide) (fun _ same => absurd same (by decide))
        fun same => absurd same (by decide)

/-- In a literal a backslash is paired with any character behind it. -/
theorem endsOutsideCode_backslash
    (unpaired : ∀ next ∈ text.head?, place.afterPair? '\\' next = none) :
    place.endsOutsideCode (encode ('\\' :: text)) =
      (place.after '\\').endsOutsideCode (encode text) := by
  cases text with
  | nil => cases place <;> rfl
  | cons next text =>
      cases place with
      | string => exact absurd (unpaired next rfl) (by simp [Place.afterPair?])
      | rune => exact absurd (unpaired next rfl) (by simp [Place.afterPair?])
      | _ => rfl

private theorem endsOutsideCode_single
    (unpaired : ∀ next ∈ text.head?, place.afterPair? first next = none) :
    place.endsOutsideCode (encode (first :: text)) =
      (place.after first).endsOutsideCode (encode text) := by
  by_cases marks : first ∈ markers
  case neg => exact endsOutsideCode_unmarked marks text
  case pos =>
    simp only [markers, List.mem_cons, List.not_mem_nil, or_false] at marks
    rcases marks with rfl | rfl | rfl | quotes
    · exact endsOutsideCode_slash unpaired
    · exact endsOutsideCode_star unpaired
    · exact endsOutsideCode_backslash unpaired
    · rcases quotes with rfl | rfl | rfl <;> cases place <;> rfl

end

/-- The bytes of a text end outside of code exactly if its characters do. -/
theorem endsOutsideCode_encode (place : Place) (text : List Char) :
    place.endsOutsideCode (encode text) = decide (scan place text ≠ .code) := by
  induction place, text using scan.induct with
  | case1 place => cases place <;> rfl
  | case2 place last =>
      rw [endsOutsideCode_single (by simp), scan]
      cases place.after last <;> rfl
  | case3 place first second text next pair ih =>
      rw [scan_pair pair, endsOutsideCode_pair pair, ih]
  | case4 place first second text unpaired ih =>
      rw [scan_single unpaired, endsOutsideCode_single (by simpa using unpaired), ih]

/-- The slash that opens a comment is none of the delimiter that closes it. -/
example : endsOutsideCode .code (encode "a /*/ b".toList) = true := by decide +kernel

/-! ## Lines -/

theorem isInCommentOrString_iff {line : String} :
    isInCommentOrString line = true ↔ scan .code line.toList ≠ .code := by
  rw [isInCommentOrString, toList_toUTF8]
  exact (congrArg (· = true) (endsOutsideCode_encode .code line.toList)).to_iff.trans
    decide_eq_true_iff

/-- The cursor is in a comment or a literal exactly if the scanner ends outside of code. A text that
ends in code can be left out in front of another one, unless it ends with a slash, and a line
comment goes on to the end of the line. -/
theorem isInCommentOrString_by_characters :
    (∀ line : String, isInCommentOrString line = true ↔ scan .code line.toList ≠ .code) ∧
      (∀ before after : String, scan .code before.toList = .code →
        before.toList.getLast? ≠ some '/' →
          isInCommentOrString (before ++ after) = isInCommentOrString after) ∧
      ∀ before after : String, scan .code before.toList = .lineComment →
        isInCommentOrString (before ++ after) = true := by
  refine ⟨fun line => isInCommentOrString_iff, ?_, ?_⟩
  · intro before after ends last
    rw [Bool.eq_iff_iff, isInCommentOrString_iff, isInCommentOrString_iff, String.toList_append,
      scan_append_of_code ends last]
  · intro before after ends
    rw [isInCommentOrString_iff, String.toList_append, scan_append_of_lineComment ends]
    decide

/-- An escaped character of several bytes, and literals that contain delimiters. -/
theorem isInCommentOrString_by_characters_example :
    scan .code "s := \"\\é/*\"; c := '\"'; ".toList = .code ∧
      "s := \"\\é/*\"; c := '\"'; ".toList.getLast? ≠ some '/' ∧
      isInCommentOrString ("s := \"\\é/*\"; c := '\"'; " ++ "a /*/ b") = true ∧
      scan .code "s := \"//\" //".toList = .lineComment ∧
      isInCommentOrString ("s := \"//\" //" ++ " */ \"") = true := by
  obtain ⟨characters, composes, comments⟩ := isInCommentOrString_by_characters
  have code : scan .code "s := \"\\é/*\"; c := '\"'; ".toList = .code := by decide +kernel
  have last : "s := \"\\é/*\"; c := '\"'; ".toList.getLast? ≠ some '/' := by decide +kernel
  have comment : scan .code "s := \"//\" //".toList = .lineComment := by decide +kernel
  refine ⟨code, last, ?_, comment, comments _ _ comment⟩
  rw [composes _ _ code last, characters]
  decide +kernel

/-! ## Words -/

private theorem afterPair?_of_word {place next : Place} {last character : Char}
    (word : Text.isAsciiWord character = true)
    (pair : place.afterPair? last character = some next) :
    place.after last = place ∧ next = place := by
  unfold Place.afterPair? at pair
  split at pair
  · exact absurd word (by decide)
  · exact absurd word (by decide)
  · exact absurd word (by decide)
  · exact ⟨rfl, (Option.some.inj pair).symm⟩
  · exact ⟨rfl, (Option.some.inj pair).symm⟩
  · exact nomatch pair

private theorem after_of_word (place : Place) {character : Char}
    (word : Text.isAsciiWord character = true) : place.after character = place := by
  refine place.after_other fun member => ?_
  have none : markers.any Text.isAsciiWord = false := by decide
  exact List.any_eq_false.mp none character member word

/-- A character of a word neither opens nor closes anything. -/
theorem scan_concat_word (place : Place) (text : List Char) {character : Char}
    (word : Text.isAsciiWord character = true) :
    scan place (text ++ [character]) = scan place text := by
  induction place, text using scan.induct with
  | case1 place => exact after_of_word place word
  | case2 place last =>
      rw [List.singleton_append, scan, scan]
      split
      case h_1 next pair =>
        obtain ⟨same, rfl⟩ := afterPair?_of_word word pair
        exact same.symm
      case h_2 => exact after_of_word _ word
  | case3 place first second text next pair ih =>
      rw [List.cons_append, List.cons_append, scan_pair pair, scan_pair pair, ih]
  | case4 place first second text unpaired ih =>
      rw [List.cons_append, List.cons_append, scan_single unpaired, scan_single unpaired]
      exact ih

theorem isInCommentOrString_push (line : String) {character : Char}
    (word : Text.isAsciiWord character = true) :
    isInCommentOrString (line.push character) = isInCommentOrString line := by
  rw [Bool.eq_iff_iff, isInCommentOrString_iff, isInCommentOrString_iff, String.toList_push,
    scan_concat_word _ _ word]

end SymbolCache.Cursor
