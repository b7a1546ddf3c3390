import SymbolCache.Proofs.Entries
import SymbolCache.Proofs.Json.Literals

/-!
# Reading back values

A value that is printed compactly is read as the same value with its fields in order. The value may
not hold real numbers or integers beyond 64 bits, and not nest too deep.
-/

set_option autoImplicit false

namespace SymbolCache.Json

/-! ## Syntax trees -/

mutual

def tree : Json → Syntax
  | .null => .null
  | .boolean value => .boolean value
  | .integer value => .number (integerLiteral value)
  | .real literal => .number literal
  | .string text => .string (some text)
  | .array elements => .array (elementTrees elements)
  | .object fields => .object (fieldTrees fields)

def elementTrees : List Json → List Syntax
  | [] => []
  | element :: elements => element.tree :: elementTrees elements

def fieldTrees : List (String × Json) → List (Option String × Syntax)
  | [] => []
  | (name, value) :: fields => (some name, value.tree) :: fieldTrees fields

end

mutual

/-- A value that nests at most so many levels deep, without real numbers and with integers in range
only. -/
def Plain (depth : Nat) : Json → Prop
  | .null => True
  | .boolean _ => True
  | .integer value => InRange value
  | .real _ => False
  | .string _ => True
  | .array elements =>
    match depth with
    | 0 => False
    | depth + 1 => PlainElements depth elements
  | .object fields =>
    match depth with
    | 0 => False
    | depth + 1 => PlainFields depth fields

def PlainElements (depth : Nat) : List Json → Prop
  | [] => True
  | element :: elements => element.Plain depth ∧ PlainElements depth elements

def PlainFields (depth : Nat) : List (String × Json) → Prop
  | [] => True
  | (_, value) :: fields => value.Plain depth ∧ PlainFields depth fields

end

mutual

def sorted : Json → Json
  | .array elements => .array (sortedElements elements)
  | .object fields => .object (sortFields (sortedFields fields))
  | .null => .null
  | .boolean value => .boolean value
  | .integer value => .integer value
  | .real literal => .real literal
  | .string text => .string text

def sortedElements : List Json → List Json
  | [] => []
  | element :: elements => element.sorted :: sortedElements elements

def sortedFields : List (String × Json) → List (String × Json)
  | [] => []
  | (name, value) :: fields => (name, value.sorted) :: sortedFields fields

end

/-! ## The value of a syntax tree -/

mutual

theorem ofSyntax?_tree (depth : Nat) : ∀ value : Json, value.Plain depth →
    ofSyntax? depth value.tree = some value.sorted
  | .null, _ => rfl
  | .boolean _, _ => rfl
  | .integer _, plain => by
      rw [tree, ofSyntax?, sorted]
      exact toJson?_integerLiteral plain
  | .string _, _ => rfl
  | .array elements, plain => by
      cases depth with
      | zero => exact plain.elim
      | succ depth =>
          rw [tree, ofSyntax?, ofElements?_trees depth elements plain, sorted, Option.map_some]
  | .object fields, plain => by
      cases depth with
      | zero => exact plain.elim
      | succ depth =>
          rw [tree, ofSyntax?, ofFields?_trees depth fields plain, sorted, Option.map_some]

private theorem ofElements?_trees (depth : Nat) :
    ∀ elements : List Json, PlainElements depth elements →
    ofElements? depth (elementTrees elements) = some (sortedElements elements)
  | [], _ => rfl
  | element :: elements, plain => by
      simp [elementTrees, ofElements?, sortedElements, ofSyntax?_tree depth element plain.1,
        ofElements?_trees depth elements plain.2]

private theorem ofFields?_trees (depth : Nat) : ∀ fields : List (String × Json),
    PlainFields depth fields →
      ofFields? depth (fieldTrees fields) = some (sortedFields fields)
  | [], _ => rfl
  | (name, value) :: fields, plain => by
      simp [fieldTrees, ofFields?, sortedFields, ofSyntax?_tree depth value plain.1,
        ofFields?_trees depth fields plain.2]

end

/-! ## The syntax tree of a text -/

def Opens (character : Char) : Prop :=
  isBlank character = false ∧ character ≠ ']' ∧ character ≠ '}'

instance (character : Char) : Decidable (Opens character) :=
  inferInstanceAs (Decidable (_ ∧ _ ∧ _))

private theorem opens_of_number {character : Char}
    (number : character = '-' ∨ Text.isAsciiDigit character = true) : Opens character := by
  rcases number with rfl | digit
  · decide
  · refine ⟨Bool.eq_false_iff.mpr fun blank => ?_, ?_, ?_⟩
    · simp only [isBlank, Bool.or_eq_true, beq_iff_eq] at blank
      rcases blank with ((rfl | rfl) | rfl) | rfl
      all_goals exact absurd digit (by decide)
    · rintro rfl
      exact absurd digit (by decide)
    · rintro rfl
      exact absurd digit (by decide)

private theorem render_eq_cons {depth : Nat} : ∀ value : Json, value.Plain depth →
    ∃ first rest, value.render = first :: rest ∧ Opens first
  | .null, _ => ⟨_, _, rfl, by decide⟩
  | .boolean true, _ => ⟨_, _, rfl, by decide⟩
  | .boolean false, _ => ⟨_, _, rfl, by decide⟩
  | .integer value, _ => by
      obtain ⟨first, rest, text, number⟩ := renderInteger_eq_cons value
      exact ⟨first, rest, text, opens_of_number number⟩
  | .string _, _ => ⟨_, _, rfl, by decide⟩
  | .array _, _ => ⟨_, _, rfl, by decide⟩
  | .object _, _ => ⟨_, _, rfl, by decide⟩

theorem skipBlank_cons {first : Char} (solid : isBlank first = false) (rest : List Char) :
    skipBlank (first :: rest) = first :: rest := by
  simp [skipBlank, solid]

/-- A value that is no string, array or object is a word or a number. -/
theorem readValue_scalar {first : Char} (solid : isBlank first = false) (quote : first ≠ '"')
    (bracket : first ≠ '[') (brace : first ≠ '{') (fuel : Nat) (rest : List Char) :
    readValue (fuel + 1) (first :: rest) =
      match readWord (first :: rest) with
      | some result => some result
      | none =>
        (readNumber (first :: rest)).map fun (literal, rest) => (.number literal, rest) := by
  rw [readValue, skipBlank_cons solid]
  split
  case h_1 same => exact absurd (List.cons.inj same).1 quote
  case h_2 same => exact absurd (List.cons.inj same).1 bracket
  case h_3 same => exact absurd (List.cons.inj same).1 brace
  case h_4 => rfl

private theorem readValue_integer (value : Int) (fuel : Nat) {rest : List Char}
    (ends : EndsNumber rest) :
    readValue (fuel + 1) (renderInteger value ++ rest) =
      some (.number (integerLiteral value), rest) := by
  obtain ⟨first, others, text, number⟩ := renderInteger_eq_cons value
  have read := readNumber_renderInteger value ends
  rw [text, List.cons_append] at read ⊢
  have different : ∀ character, character ≠ '-' → Text.isAsciiDigit character = false →
      first ≠ character := by
    rintro character minus digit rfl
    rcases number with same | same
    · exact minus same
    · exact Bool.false_ne_true (digit.symm.trans same)
  have noWord : readWord (first :: (others ++ rest)) = none := by
    unfold readWord
    split
    case h_1 same => exact absurd (List.cons.inj same).1 (different _ (by decide) (by decide))
    case h_2 same => exact absurd (List.cons.inj same).1 (different _ (by decide) (by decide))
    case h_3 same => exact absurd (List.cons.inj same).1 (different _ (by decide) (by decide))
    case h_4 => rfl
  rw [readValue_scalar (opens_of_number number).1 (different _ (by decide) (by decide))
    (different _ (by decide) (by decide)) (different _ (by decide) (by decide)), noWord, read,
    Option.map_some]

private theorem readValue_string (text : String) (fuel : Nat) (rest : List Char) :
    readValue (fuel + 1) (renderString text ++ rest) = some (.string (some text), rest) := by
  have read := readString_renderString text rest
  rw [renderString, List.cons_append, List.cons_append, readValue, skipBlank_cons (by decide)]
  simp only [List.append_assoc, List.singleton_append, read, Option.map_some]

private theorem readValue_array {first : Char} (opens : Opens first) (fuel : Nat)
    (rest : List Char) :
    readValue (fuel + 1) ('[' :: first :: rest) =
      (readElements fuel (first :: rest)).map fun (elements, rest) => (.array elements, rest) := by
  rw [readValue, skipBlank_cons (by decide)]
  simp only [skipBlank_cons opens.1]
  split
  case h_1 same => exact absurd (List.cons.inj same).1 opens.2.1
  case h_2 => rfl

private theorem readValue_object (fuel : Nat) (rest : List Char) :
    readValue (fuel + 1) ('{' :: '"' :: rest) =
      (readFields fuel ('"' :: rest)).map fun (fields, rest) => (.object fields, rest) := by
  rw [readValue, skipBlank_cons (by decide)]
  simp only [skipBlank_cons (show isBlank '"' = false by decide)]
  rfl

theorem endsNumber_cons {character : Char} (closes : character = ',' ∨ character = ']' ∨
    character = '}') (rest : List Char) : EndsNumber (character :: rest) := by
  intro other first
  obtain rfl : character = other := Option.some.inj first
  rcases closes with rfl | rfl | rfl
  all_goals decide

/-- The fields of an object begin with a name. -/
theorem readFields_name (name : String) (fuel : Nat) (rest : List Char) :
    readFields (fuel + 1) (renderString name ++ ':' :: rest) =
      (readValue fuel rest).bind fun (value, rest) =>
        match skipBlank rest with
        | ',' :: rest =>
          (readFields fuel rest).bind fun (fields, rest) =>
            some ((some name, value) :: fields, rest)
        | '}' :: rest => some ([(some name, value)], rest)
        | _ => none := by
  have read := readString_renderString name (':' :: rest)
  rw [renderString, List.cons_append, List.cons_append, List.append_assoc, List.singleton_append,
    readFields, skipBlank_cons (by decide)]
  simp only [read, Option.bind_eq_bind, Option.bind_some,
    skipBlank_cons (show isBlank ':' = false by decide)]
  rfl

private theorem renderElements_eq_cons {depth : Nat} {element : Json} (plain : element.Plain depth)
    (elements : List Json) :
    ∃ first rest, renderElements (element :: elements) = first :: rest ∧ Opens first := by
  obtain ⟨first, rest, text, opens⟩ := render_eq_cons element plain
  cases elements with
  | nil => exact ⟨first, rest, by rw [renderElements, text], opens⟩
  | cons next elements =>
      exact ⟨first, _, by rw [renderElements, text, List.cons_append], opens⟩

private theorem renderFields_eq_cons (name : String) (value : Json)
    (fields : List (String × Json)) :
    ∃ rest, renderFields ((name, value) :: fields) = '"' :: rest := by
  cases fields with
  | nil => exact ⟨_, rfl⟩
  | cons next fields => exact ⟨_, rfl⟩

theorem positive_of_opens {depth : Nat} {value : Json} (plain : value.Plain depth) :
    0 < value.render.length := by
  obtain ⟨first, rest, text, _⟩ := render_eq_cons value plain
  simp [text]

mutual

/-- The text of a value is read as its tree. A reader needs at most two calls for each character. -/
theorem readValue_render {depth : Nat} : ∀ value : Json, value.Plain depth →
    ∀ (fuel : Nat) (rest : List Char), 2 * value.render.length ≤ fuel + 1 → EndsNumber rest →
      readValue (fuel + 1) (value.render ++ rest) = some (value.tree, rest)
  | .null, _, fuel, rest, _, _ =>
      readValue_scalar (by decide) (by decide) (by decide) (by decide) fuel _
  | .boolean true, _, fuel, rest, _, _ =>
      readValue_scalar (by decide) (by decide) (by decide) (by decide) fuel _
  | .boolean false, _, fuel, rest, _, _ =>
      readValue_scalar (by decide) (by decide) (by decide) (by decide) fuel _
  | .integer value, _, fuel, rest, _, ends => readValue_integer value fuel ends
  | .string text, _, fuel, rest, _, _ => readValue_string text fuel rest
  | .array [], _, fuel, rest, enough, _ => by
      rw [render, renderElements, List.cons_append, List.nil_append, List.cons_append, readValue,
        skipBlank_cons (by decide)]
      rfl
  | .array (element :: elements), plain, fuel, rest, enough, _ => by
      cases depth with
      | zero => exact plain.elim
      | succ depth =>
          obtain ⟨first, others, text, opens⟩ := renderElements_eq_cons plain.1 elements
          rw [render, List.cons_append, List.length_cons, List.length_append] at enough
          obtain ⟨fuel, rfl⟩ : ∃ later, fuel = later + 1 :=
            Nat.exists_eq_succ_of_ne_zero (by omega)
          have read := readElements_render element elements plain fuel rest (by
            simp only [List.length_singleton] at enough
            omega)
          rw [text, List.cons_append] at read
          simp only [render, tree, text, List.cons_append, List.append_assoc, List.nil_append]
          rw [readValue_array opens, read, Option.map_some]
  | .object [], _, fuel, rest, enough, _ => by
      rw [render, renderFields, List.cons_append, List.nil_append, List.cons_append, readValue,
        skipBlank_cons (by decide)]
      rfl
  | .object ((name, value) :: fields), plain, fuel, rest, enough, _ => by
      cases depth with
      | zero => exact plain.elim
      | succ depth =>
          obtain ⟨others, text⟩ := renderFields_eq_cons name value fields
          rw [render, List.cons_append, List.length_cons, List.length_append] at enough
          obtain ⟨fuel, rfl⟩ : ∃ later, fuel = later + 1 :=
            Nat.exists_eq_succ_of_ne_zero (by omega)
          have read := readFields_render name value fields plain fuel rest (by
            simp only [List.length_singleton] at enough
            omega)
          rw [text, List.cons_append] at read
          simp only [render, tree, text, List.cons_append, List.append_assoc, List.nil_append]
          rw [readValue_object, read, Option.map_some]
  termination_by value => sizeOf value

private theorem readElements_render {depth : Nat} : ∀ (element : Json) (elements : List Json),
    PlainElements depth (element :: elements) → ∀ (fuel : Nat) (rest : List Char),
      2 * (renderElements (element :: elements)).length ≤ fuel →
        readElements (fuel + 1) (renderElements (element :: elements) ++ ']' :: rest) =
          some (elementTrees (element :: elements), rest)
  | element, [], plain, fuel, rest, enough => by
      rw [renderElements] at enough ⊢
      have positive := positive_of_opens plain.1
      obtain ⟨fuel, rfl⟩ : ∃ later, fuel = later + 1 :=
        Nat.exists_eq_succ_of_ne_zero (by omega)
      have read := readValue_render element plain.1 fuel (']' :: rest) enough
        (endsNumber_cons (by decide) rest)
      rw [readElements, read]
      rfl
  | element, next :: elements, plain, fuel, rest, enough => by
      rw [renderElements, List.length_append, List.length_cons] at enough
      have positive := positive_of_opens plain.1
      obtain ⟨fuel, rfl⟩ : ∃ later, fuel = later + 1 :=
        Nat.exists_eq_succ_of_ne_zero (by omega)
      have read := readValue_render element plain.1 fuel
        (',' :: (renderElements (next :: elements) ++ ']' :: rest)) (by omega)
        (endsNumber_cons (by decide) _)
      have readLater := readElements_render next elements plain.2 fuel rest (by omega)
      rw [renderElements, List.append_assoc, List.cons_append, readElements, read]
      simp only [Option.bind_eq_bind, Option.bind_some,
        skipBlank_cons (show isBlank ',' = false by decide), readLater]
      rfl
  termination_by element elements => sizeOf element + sizeOf elements

private theorem readFields_render {depth : Nat} : ∀ (name : String) (value : Json)
    (fields : List (String × Json)), PlainFields depth ((name, value) :: fields) →
      ∀ (fuel : Nat) (rest : List Char),
        2 * (renderFields ((name, value) :: fields)).length ≤ fuel →
          readFields (fuel + 1) (renderFields ((name, value) :: fields) ++ '}' :: rest) =
            some (fieldTrees ((name, value) :: fields), rest)
  | name, value, [], plain, fuel, rest, enough => by
      rw [renderFields, List.length_append, List.length_cons] at enough
      have positive := positive_of_opens plain.1
      obtain ⟨fuel, rfl⟩ : ∃ later, fuel = later + 1 :=
        Nat.exists_eq_succ_of_ne_zero (by omega)
      have read := readValue_render value plain.1 fuel ('}' :: rest) (by omega)
        (endsNumber_cons (by decide) rest)
      rw [renderFields, List.append_assoc, List.cons_append, readFields_name, read]
      simp only [Option.bind_some, skipBlank_cons (show isBlank '}' = false by decide)]
      rfl
  | name, value, (other, next) :: fields, plain, fuel, rest, enough => by
      rw [renderFields, List.length_append, List.length_cons, List.length_append,
        List.length_cons] at enough
      have positive := positive_of_opens plain.1
      obtain ⟨fuel, rfl⟩ : ∃ later, fuel = later + 1 :=
        Nat.exists_eq_succ_of_ne_zero (by omega)
      have read := readValue_render value plain.1 fuel
        (',' :: (renderFields ((other, next) :: fields) ++ '}' :: rest)) (by omega)
        (endsNumber_cons (by decide) _)
      have readLater := readFields_render other next fields plain.2 fuel rest (by omega)
      rw [renderFields, List.append_assoc, List.cons_append, List.append_assoc, List.cons_append,
        readFields_name, read]
      simp only [Option.bind_some, skipBlank_cons (show isBlank ',' = false by decide), readLater]
      rfl
  termination_by name value fields => sizeOf name + sizeOf value + sizeOf fields

end

/-! ## Whole texts -/

/-- What is printed is read as the tree that it was printed from. -/
theorem read?_tree {depth : Nat} {value : Json} (plain : value.Plain depth) :
    Syntax.read? (String.ofList value.render) = some value.tree := by
  have read := readValue_render value plain (2 * value.render.length + 1) [] (by omega)
    (fun _ first => nomatch first)
  rw [List.append_nil] at read
  rw [Syntax.read?, String.length_ofList, String.toList_ofList, read]
  rfl

/-- What is printed is read as the same value with its fields in order. -/
theorem read?_render {value : Json} (plain : value.Plain maxDepth) :
    read? (String.ofList value.render) = some value.sorted := by
  rw [read?, read?_tree plain, Option.bind_some, ofSyntax?_tree maxDepth value plain]

end SymbolCache.Json

/-!
## Fields in order

Fields with distinct names are found in the same way after they were put in order, and the entries
of a map are in order already.
-/

namespace SymbolCache.Json

/-! ### Elements and fields -/

theorem sortedElements_eq_map (elements : List Json) :
    sortedElements elements = elements.map sorted := by
  induction elements with
  | nil => rfl
  | cons element elements ih => rw [sortedElements, List.map_cons, ih]

theorem sortedFields_eq_map (fields : List (String × Json)) :
    sortedFields fields = fields.map fun field => (field.1, field.2.sorted) := by
  induction fields with
  | nil => rfl
  | cons field fields ih => rw [sortedFields, List.map_cons, ih]

theorem plainElements_iff {depth : Nat} {elements : List Json} :
    PlainElements depth elements ↔ ∀ element ∈ elements, element.Plain depth := by
  induction elements with
  | nil => simp [PlainElements]
  | cons element elements ih => rw [PlainElements, ih, List.forall_mem_cons]

theorem plainFields_iff {depth : Nat} {fields : List (String × Json)} :
    PlainFields depth fields ↔ ∀ field ∈ fields, field.2.Plain depth := by
  induction fields with
  | nil => simp [PlainFields]
  | cons field fields ih => rw [PlainFields, ih, List.forall_mem_cons]

/-! ### Fields -/

/-- The entries of a map stay in order when their values change. -/
theorem sortFields_map_toList {α : Type} (map : Std.ExtTreeMap String α) (change : α → Json) :
    sortFields (map.toList.map fun entry => (entry.1, change entry.2)) =
      map.toList.map fun entry => (entry.1, change entry.2) := by
  have entries : (map.map fun _ value => change value).toList =
      map.toList.map fun entry => (entry.1, change entry.2) :=
    Std.ExtTreeMap.toList_map
  rw [sortFields, ← entries, Entries.ofList_toList]

theorem field?_sortFields {fields : List (String × Json)} (distinct : Entries.Distinct fields)
    (name : String) :
    (object (sortFields fields)).field? name = (object fields).field? name := by
  rw [field?, sortFields, Entries.find?_toList, Entries.getElem?_ofList fields distinct, field?]

/-- A field of a value with distinct names, after all fields were put in order. -/
theorem field?_sorted {fields : List (String × Json)} (distinct : (fields.map Prod.fst).Nodup)
    (name : String) :
    (object fields).sorted.field? name = ((object fields).field? name).map sorted := by
  have names : (sortedFields fields).map Prod.fst = fields.map Prod.fst := by
    rw [sortedFields_eq_map, List.map_map]
    rfl
  rw [sorted, field?_sortFields (Entries.distinct_of_nodup (names ▸ distinct)), field?, field?,
    sortedFields_eq_map, List.find?_map, Option.map_map, Option.map_map]
  rfl

end SymbolCache.Json
