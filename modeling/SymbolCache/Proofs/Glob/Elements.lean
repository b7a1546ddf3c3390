import SymbolCache.Config
import SymbolCache.Proofs.Glob.Matching
import SymbolCache.Proofs.Text.Parts

/-!
# Patterns for the elements of a path

A text without slashes, alone or with `**` on either side, matches the paths that have it as an
element in some place. From these patterns the packages are excluded that no other module can
import.
-/

set_option autoImplicit false

namespace SymbolCache.Glob

open Text (encode encode_append encode_inj encode_eq_append_slash_iff toList_toUTF8)

def literals (text : List Char) : List Token :=
  text.map .literal

/-! ## Patterns of plain characters -/

def isPlain (character : Char) : Bool :=
  !(['?', '*', '[', '\x7b', '\x7d', ',', '\\'].contains character)

section

variable {branch : List Token} {before : Option Char} {text word : List Char}

private theorem read_plain {character : Char} (plain : isPlain character = true) (fuel : Nat)
    (rest : List Char) :
    Draft.read (fuel + 1) ⟨[branch], []⟩ before (character :: rest) =
      Draft.read fuel ⟨[.literal character :: branch], []⟩ (some character) rest := by
  conv_lhs => unfold Draft.read
  -- No other character than a plain one is left to the last case.
  split
  all_goals first | rfl | exact absurd plain (by decide)

theorem read_text (branch : List Token) (before : Option Char)
    (plain : text.all isPlain = true) (fuel : Nat) (rest : List Char) :
    Draft.read (text.length + fuel) ⟨[branch], []⟩ before (text ++ rest) =
      Draft.read fuel ⟨[(literals text).reverse ++ branch], []⟩ (text.getLast?.or before) rest := by
  induction text generalizing branch before with
  | nil =>
      rw [List.length_nil, Nat.zero_add]
      rfl
  | cons character text ih =>
      rw [List.all_cons, Bool.and_eq_true] at plain
      have count : (character :: text).length + fuel = text.length + fuel + 1 := by
        rw [List.length_cons]
        omega
      rw [count, List.cons_append, read_plain plain.1, ih _ _ plain.2]
      simp [literals, List.getLast?_cons]

private theorem read_under (plain : word.all isPlain = true) (fuel : Nat) :
    Draft.read (word.length + (fuel + 3)) ⟨[branch], []⟩ before (word ++ "/**".toList) =
      .ok ⟨[.recursiveSuffix :: ((literals word).reverse ++ branch)], []⟩ := by
  have slashed : (word ++ ['/']).all isPlain = true := by
    rw [List.all_append, plain]
    rfl
  have parts : word ++ "/**".toList = (word ++ ['/']) ++ ['*', '*'] := by
    rw [List.append_assoc]
    rfl
  have count : word.length + (fuel + 3) = (word ++ ['/']).length + (fuel + 2) := by
    rw [List.length_append, List.length_singleton]
    omega
  have last : (word ++ ['/']).getLast?.or before = some '/' := by
    rw [List.getLast?_concat]
    rfl
  rw [parts, count, read_text _ _ slashed, last, literals, List.map_append, List.reverse_append]
  rfl

private theorem read_anywhere (fuel : Nat) (rest : List Char) :
    Draft.read (fuel + 1) .start none ("**/".toList ++ rest) =
      Draft.read fuel ⟨[[.recursivePrefix]], []⟩ (some '/') rest :=
  rfl

theorem parse_eq_ok {pattern : String} {tokens : List Token} (spelled : pattern.toList = text)
    (read : Draft.read text.length .start none text = .ok ⟨[tokens.reverse], []⟩) :
    parse pattern = .ok tokens := by
  rw [parse, ← String.length_toList, spelled, read]
  exact congrArg Except.ok (List.reverse_reverse tokens)

variable {pattern : String}

private theorem parse_word (plain : word.all isPlain = true) (spelled : pattern.toList = word) :
    parse pattern = .ok (literals word) := by
  have read := read_text [] none plain 0 []
  rw [List.append_nil, List.append_nil] at read
  exact parse_eq_ok spelled (read.trans rfl)

private theorem parse_under (plain : word.all isPlain = true)
    (spelled : pattern.toList = word ++ "/**".toList) :
    parse pattern = .ok (literals word ++ [.recursiveSuffix]) := by
  refine parse_eq_ok spelled ?_
  rw [List.length_append, List.reverse_append]
  refine (read_under plain 0).trans ?_
  rw [List.append_nil]
  rfl

private theorem parse_anywhere (plain : word.all isPlain = true)
    (spelled : pattern.toList = "**/".toList ++ word) :
    parse pattern = .ok (.recursivePrefix :: literals word) := by
  have read := read_text [.recursivePrefix] (some '/') plain 2 []
  rw [List.append_nil] at read
  refine parse_eq_ok spelled ?_
  rw [List.length_append, List.reverse_cons, Nat.add_comm]
  exact (read_anywhere _ word).trans (read.trans rfl)

private theorem parse_anywhere_under (plain : word.all isPlain = true)
    (spelled : pattern.toList = "**/".toList ++ (word ++ "/**".toList)) :
    parse pattern = .ok (.recursivePrefix :: (literals word ++ [.recursiveSuffix])) := by
  refine parse_eq_ok spelled ?_
  have count : ("**/".toList ++ (word ++ "/**".toList)).length = word.length + (2 + 3) + 1 := by
    rw [List.length_append, List.length_append, Nat.add_comm]
    rfl
  rw [count, List.reverse_cons, List.reverse_append]
  exact (read_anywhere _ _).trans (read_under plain 2)

end

/-! ## Texts of the patterns -/

private theorem characterBytes_eq (character : Char) :
    characterBytes character = String.utf8EncodeChar character := by
  rw [characterBytes, toList_toUTF8]
  simp [encode]

private theorem spells_literals_iff {text : List Char} {bytes : List UInt8} :
    Spells (literals text) bytes ↔ bytes = encode text := by
  induction text generalizing bytes with
  | nil => exact spells_nil_iff
  | cons character text ih =>
      rw [literals, List.map_cons, spells_cons_iff]
      constructor
      · rintro ⟨first, rest, rfl, head, tail⟩
        cases head
        rw [ih.mp tail, characterBytes_eq]
        rfl
      · rintro rfl
        refine ⟨_, encode text, ?_, .literal, ih.mpr rfl⟩
        rw [characterBytes_eq]
        rfl

section

variable {word path : List Char}

theorem spells_word_iff : Spells (literals word) (encode path) ↔ path = word :=
  spells_literals_iff.trans encode_inj

private theorem spells_recursiveSuffix_iff {bytes : List UInt8} :
    Spells [.recursiveSuffix] bytes ↔ ∃ rest, bytes = 0x2F :: rest := by
  rw [spells_cons_iff]
  constructor
  · rintro ⟨first, rest, rfl, ⟨⟩, tail⟩
    exact ⟨_, by rw [spells_nil_iff.mp tail, List.append_nil]⟩
  · rintro ⟨rest, rfl⟩
    exact ⟨0x2F :: rest, [], (List.append_nil _).symm, .recursiveSuffix, .nil⟩

private theorem spells_recursivePrefix_iff {tokens : List Token} {bytes : List UInt8} :
    Spells (.recursivePrefix :: tokens) bytes ↔
      Spells tokens bytes ∨ ∃ front rest, bytes = front ++ 0x2F :: rest ∧ Spells tokens rest := by
  rw [spells_cons_iff]
  constructor
  · rintro ⟨first, rest, rfl, head, tail⟩
    cases head with
    | noPrefix => exact .inl tail
    | recursivePrefix => exact .inr ⟨_, rest, List.append_assoc .., tail⟩
  · rintro (spells | ⟨front, rest, rfl, spells⟩)
    · exact ⟨[], bytes, rfl, .noPrefix, spells⟩
    · exact ⟨front ++ [0x2F], rest, by rw [List.append_assoc, List.singleton_append],
        .recursivePrefix, spells⟩

/-- With `/**` behind it a text matches the paths that go on after it at a slash. -/
theorem spells_under_iff :
    Spells (literals word ++ [.recursiveSuffix]) (encode path) ↔
      ∃ after, path = word ++ '/' :: after := by
  rw [spells_append_iff]
  simp only [spells_literals_iff, spells_recursiveSuffix_iff]
  constructor
  · rintro ⟨front, back, parts, rfl, rest, rfl⟩
    obtain ⟨before, after, rfl, same, -⟩ := encode_eq_append_slash_iff.mp parts
    exact ⟨after, by rw [encode_inj.mp same]⟩
  · rintro ⟨after, rfl⟩
    exact ⟨encode word, 0x2F :: encode after, encode_append word ('/' :: after), rfl, _, rfl⟩

/-- With `**/` in front tokens match what they match by themselves, and that after any slash. -/
theorem spells_anywhere_iff {tokens : List Token} :
    Spells (.recursivePrefix :: tokens) (encode path) ↔ Spells tokens (encode path) ∨
      ∃ before after, path = before ++ '/' :: after ∧ Spells tokens (encode after) := by
  rw [spells_recursivePrefix_iff]
  refine or_congr_right ?_
  constructor
  · rintro ⟨front, rest, parts, spells⟩
    obtain ⟨before, after, rfl, -, rfl⟩ := encode_eq_append_slash_iff.mp parts
    exact ⟨before, after, rfl, spells⟩
  · rintro ⟨before, after, rfl, spells⟩
    exact ⟨encode before, encode after, encode_append before ('/' :: after), spells⟩

/-- The patterns `word/**` and `**/word/**` match the paths with the word as an element that is not
the last one. -/
theorem spells_inner_iff (solid : '/' ∉ word) :
    (Spells (literals word ++ [.recursiveSuffix]) (encode path) ∨
      Spells (.recursivePrefix :: (literals word ++ [.recursiveSuffix])) (encode path)) ↔
        word ∈ (ImportPath.elements path).dropLast := by
  rw [spells_anywhere_iff, or_self_left, spells_under_iff, ImportPath.elements,
    Text.mem_dropLast_split_iff, and_iff_right solid]
  simp only [spells_under_iff]
  refine or_congr_right ?_
  constructor
  · rintro ⟨before, rest, rfl, after, rfl⟩
    exact ⟨before, after, rfl⟩
  · rintro ⟨before, after, rfl⟩
    exact ⟨before, word ++ '/' :: after, rfl, after, rfl⟩

/-- The patterns `word` and `**/word` match the paths with the word as the last element. -/
theorem spells_element_iff (solid : '/' ∉ word) :
    (Spells (literals word) (encode path) ∨
      Spells (.recursivePrefix :: literals word) (encode path) ∨
      word ∈ (ImportPath.elements path).dropLast) ↔ word ∈ ImportPath.elements path := by
  rw [spells_anywhere_iff, ImportPath.elements, Text.mem_split_iff, and_iff_right solid]
  simp only [spells_word_iff]
  constructor
  · rintro (whole | (whole | ⟨before, after, parts, rfl⟩) | inner)
    · exact .inr (.inl whole)
    · exact .inr (.inl whole)
    · exact .inr (.inr ⟨before, parts⟩)
    · exact .inl inner
  · rintro (inner | whole | ⟨before, parts⟩)
    · exact .inr (.inr inner)
    · exact .inl whole
    · exact .inr (.inl (.inr ⟨before, word, parts, rfl⟩))

/-! ## Paths without a file name -/

private theorem elements_of_endsInParent (parent : endsInParent (encode path) = true) :
    (ImportPath.elements path).getLast? = some ['.', '.'] := by
  obtain ⟨front, bytes, ends⟩ : ∃ front : List UInt8,
      (encode path).reverse = (encode ['.', '.']).reverse ++ front ∧
        ∀ byte ∈ front.head?, byte = 0x2F := by
    refine ⟨(encode path).reverse.dropWhile (· != 0x2F), ?_, fun byte first => ?_⟩
    · rw [endsInParent, beq_iff_eq] at parent
      have reversed : (encode ['.', '.']).reverse = [0x2E, 0x2E] := by decide
      rw [reversed, ← parent, List.takeWhile_append_dropWhile]
    · have stops := List.head?_dropWhile_not (· != (0x2F : UInt8)) (encode path).reverse
      rw [Option.mem_def.mp first] at stops
      simpa using stops
  rw [List.reverse_eq_iff, List.reverse_append, List.reverse_reverse] at bytes
  rw [ImportPath.elements, Text.getLast?_split_eq_some_iff]
  refine ⟨by decide, ?_⟩
  cases front with
  | nil => exact .inl (encode_inj.mp bytes)
  | cons byte front =>
      obtain rfl := ends byte rfl
      rw [List.reverse_cons, List.append_assoc] at bytes
      obtain ⟨before, after, parts, -, same⟩ := encode_eq_append_slash_iff.mp bytes
      exact .inr ⟨before, by rw [parts, encode_inj.mp same]⟩

private theorem endsInParent_of_spells (solid : '/' ∉ word) (other : word ≠ ['.', '.'])
    (spells : Spells (.recursivePrefix :: literals word) (encode path)) :
    endsInParent (encode path) = false := by
  have last : (ImportPath.elements path).getLast? = some word := by
    refine Text.getLast?_split_eq_some_iff.mpr ⟨solid, ?_⟩
    rcases spells_anywhere_iff.mp spells with whole | ⟨before, after, parts, ends⟩
    · exact .inl (spells_word_iff.mp whole)
    · exact .inr ⟨before, by rw [parts, spells_word_iff.mp ends]⟩
  rw [Bool.eq_false_iff]
  intro parent
  exact other (Option.some.inj (last.symm.trans (elements_of_endsInParent parent)))

end

/-! ## Lists of patterns -/

private theorem parseAll_eq_ok {patterns : List String} {all : List (List Token)}
    (parsed : List.Forall₂ (fun pattern tokens => parse pattern = .ok tokens) patterns all) :
    Matcher.parseAll patterns = .ok all := by
  induction parsed with
  | nil => rfl
  | cons first _ ih =>
      rw [Matcher.parseAll, first, ih]
      rfl

private theorem deepest_append (first second : List Token) :
    deepest (first ++ second) = max (deepest first) (deepest second) := by
  induction first with
  | nil => rw [List.nil_append, deepest, Nat.zero_max]
  | cons token tokens ih => rw [List.cons_append, deepest, deepest, ih, Nat.max_assoc]

private theorem deepest_literals (text : List Char) : deepest (literals text) = 0 := by
  induction text with
  | nil => rfl
  | cons character text ih =>
      rw [literals, List.map_cons, deepest, ← literals, ih]
      rfl

private theorem tooDeep?_eq_none {patterns : List (List Token)}
    (shallow : ∀ tokens ∈ patterns, isTooDeep tokens = false) :
    Matcher.tooDeep? patterns = none := by
  have none : ∀ strategy,
      ∀ tokens ∈ patterns.filter fun tokens => Strategy.ofTokens tokens == strategy,
        isTooDeep tokens = false :=
    fun strategy tokens member => shallow tokens (List.mem_of_mem_filter member)
  have first : (patterns.filter fun tokens =>
      Strategy.ofTokens tokens == .extensionAndExpression).find? isTooDeep = .none :=
    List.find?_eq_none.mpr fun tokens member => Bool.eq_false_iff.mp (none _ tokens member)
  simp only [Matcher.tooDeep?, first]
  rw [Option.map_eq_none_iff, List.findIdx?_eq_none_iff]
  exact none _

private theorem compile_eq_ok {patterns : List String} {all : List (List Token)}
    (parsed : List.Forall₂ (fun pattern tokens => parse pattern = .ok tokens) patterns all)
    (shallow : ∀ tokens ∈ all, isTooDeep tokens = false) :
    Matcher.compile patterns = .ok ⟨all⟩ := by
  simp only [Matcher.compile, parseAll_eq_ok parsed, bind, Except.bind, tooDeep?_eq_none shallow]
  rfl

end SymbolCache.Glob

namespace SymbolCache

open Glob

/-! ## Packages that no other module can import -/

def defaultPatterns : List (List Token) :=
  let internal := literals "internal".toList
  let vendor := literals "vendor".toList
  [internal, internal ++ [.recursiveSuffix], .recursivePrefix :: internal,
    .recursivePrefix :: (internal ++ [.recursiveSuffix]), vendor ++ [.recursiveSuffix],
    .recursivePrefix :: (vendor ++ [.recursiveSuffix])]

theorem excludeMatcher_default : ({} : Config).excludeMatcher = .ok ⟨defaultPatterns⟩ := by
  have internal : "internal".toList.all isPlain = true := by decide
  have vendor : "vendor".toList.all isPlain = true := by decide
  have first : parse "internal" = .ok (literals "internal".toList) :=
    parse_word internal (by decide)
  have second : parse "internal/**" = .ok (literals "internal".toList ++ [.recursiveSuffix]) :=
    parse_under internal (by decide)
  have third : parse "**/internal" = .ok (.recursivePrefix :: literals "internal".toList) :=
    parse_anywhere internal (by decide)
  have fourth : parse "**/internal/**" =
      .ok (.recursivePrefix :: (literals "internal".toList ++ [.recursiveSuffix])) :=
    parse_anywhere_under internal (by decide)
  have fifth : parse "vendor/**" = .ok (literals "vendor".toList ++ [.recursiveSuffix]) :=
    parse_under vendor (by decide)
  have sixth : parse "**/vendor/**" =
      .ok (.recursivePrefix :: (literals "vendor".toList ++ [.recursiveSuffix])) :=
    parse_anywhere_under vendor (by decide)
  have parsed : List.Forall₂ (fun pattern tokens => parse pattern = .ok tokens)
      ({} : IndexingConfig).exclude defaultPatterns :=
    .cons first (.cons second (.cons third (.cons fourth (.cons fifth (.cons sixth .nil)))))
  have shallow : ∀ tokens ∈ defaultPatterns, isTooDeep tokens = false := by
    simp [defaultPatterns, isTooDeep, depthLimit, deepest, deepest_append, deepest_literals,
      Token.depth]
  rw [Config.excludeMatcher, compile_eq_ok parsed shallow]
  rfl

private theorem tokensMatch_defaultPatterns {tokens : List Token}
    (member : tokens ∈ defaultPatterns)
    (path : List Char) :
    tokensMatch tokens (Text.encode path) = true ↔ Spells tokens (Text.encode path) := by
  simp only [defaultPatterns, List.mem_cons, List.not_mem_nil, or_false] at member
  rcases member with rfl | rfl | rfl | rfl | rfl | rfl
  case inr.inr.inl =>
    -- Only this pattern is compared with the file name.
    exact tokensMatch_iff nofun fun _ => endsInParent_of_spells (by decide) (by decide)
  all_goals
    exact tokensMatch_iff nofun fun named => absurd named (by decide +kernel)

/-- By default a package is excluded exactly if an element of its import path is `internal` or an
element other than the last one is `vendor`. -/
theorem default_exclusion (path : String) :
    ∃ matcher, ({} : Config).excludeMatcher = .ok matcher ∧
      (matcher.accepts path = true ↔
        "internal".toList ∈ ImportPath.elements path.toList ∨
          "vendor".toList ∈ (ImportPath.elements path.toList).dropLast) := by
  refine ⟨⟨defaultPatterns⟩, excludeMatcher_default, ?_⟩
  have spelled : Matcher.accepts ⟨defaultPatterns⟩ path = true ↔
      ∃ tokens ∈ defaultPatterns, Spells tokens (Text.encode path.toList) := by
    rw [Matcher.accepts, List.any_eq_true, Text.toList_toUTF8]
    exact exists_congr fun tokens => and_congr_right fun member =>
      tokensMatch_defaultPatterns member path.toList
  have internal : '/' ∉ "internal".toList := by decide
  have vendor : '/' ∉ "vendor".toList := by decide
  rw [spelled, ← spells_element_iff internal, ← spells_inner_iff internal,
    ← spells_inner_iff vendor]
  simp only [defaultPatterns, List.mem_cons, List.not_mem_nil, or_false, or_and_right, exists_or,
    exists_eq_left, or_assoc]
  exact or_congr_right or_left_comm

end SymbolCache
