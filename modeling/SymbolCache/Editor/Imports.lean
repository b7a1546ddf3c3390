import SymbolCache.Text.Cut
import Std.Data.ExtTreeSet

/-!
# Imports

The import paths that a source text declares. A declaration is the word `import`, then either a path
between quotes, with a name in front of it or not, or a block between parentheses, in which every
piece between two quotes is a path. Comments are read as text.
-/

set_option autoImplicit false

namespace SymbolCache.Imports

/-- Either quote opens a path and either one closes it. -/
def isQuote (character : Char) : Bool :=
  character == '"' || character == '\x60'

/-- The text up to the next quote, and what follows that quote. -/
def readToQuote? (text : List Char) : Option (List Char × List Char) :=
  match text.dropWhile fun character => !isQuote character with
  | [] => none
  | _ :: rest => some (text.takeWhile fun character => !isQuote character, rest)

/-- Every second piece between quotes, as long as a quote closes it. -/
def quotedPieces : List (List Char) → List (List Char)
  | _ :: path :: next :: pieces => path :: quotedPieces (next :: pieces)
  | _ => []

def blockPaths (body : List Char) : List (List Char) :=
  quotedPieces (Text.splitWhere isQuote body)

/-- Drops the name in front of a path, with the white space after it. -/
def skipName (text : List Char) : List Char :=
  match text with
  | [] => []
  | first :: rest =>
    if Text.isAsciiLetter first || first == '_' || first == '.' then
      let after := rest.dropWhile Text.isAsciiWord
      if after.head?.any Text.isWhiteSpace then Text.trimStart after else text
    else text

/-- The paths of a declaration whose word `import` is read, and what follows the declaration. -/
def readDeclaration? (text : List Char) : Option (List (List Char) × List Char) :=
  match Text.trimStart text with
  | '(' :: body =>
    match body.dropWhile (· != ')') with
    | [] => none
    | _ :: rest => some (blockPaths (body.takeWhile (· != ')')), rest)
  | text =>
    match skipName text with
    | [] => none
    | quote :: path =>
      if isQuote quote then (readToQuote? path).map fun (path, rest) => ([path], rest) else none

/-- What follows the word `import` at the start of a text, if no word character follows it. -/
def afterWord? (text : List Char) : Option (List Char) :=
  (Text.dropPrefix? "import".toList text).filter fun rest => !rest.head?.any Text.isWord

theorem length_dropWhile_le (passes : Char → Bool) (text : List Char) :
    (text.dropWhile passes).length ≤ text.length :=
  (List.dropWhile_sublist passes).length_le

theorem length_skipName_le (text : List Char) : (skipName text).length ≤ text.length := by
  unfold skipName
  split
  · exact Nat.le_refl _
  · rename_i first rest
    simp only
    split
    · split
      · exact Nat.le_trans (length_dropWhile_le ..)
          (Nat.le_trans (length_dropWhile_le ..) (Nat.le_succ _))
      · exact Nat.le_refl _
    · exact Nat.le_refl _

theorem length_readToQuote?_le {text path rest : List Char}
    (read : readToQuote? text = some (path, rest)) : rest.length ≤ text.length := by
  unfold readToQuote? at read
  split at read
  · exact nomatch read
  · rename_i quote after found
    cases read
    have shorter := length_dropWhile_le (fun character => !isQuote character) text
    rw [found] at shorter
    exact Nat.le_of_succ_le shorter

theorem length_readDeclaration?_le {text rest : List Char} {paths : List (List Char)}
    (read : readDeclaration? text = some (paths, rest)) : rest.length ≤ text.length := by
  have trimmed := length_dropWhile_le Text.isWhiteSpace text
  unfold readDeclaration? Text.trimStart at read
  split at read
  · rename_i body found
    rw [found] at trimmed
    split at read
    · exact nomatch read
    · rename_i close after closing
      cases read
      have shorter := length_dropWhile_le (· != ')') body
      rw [closing] at shorter
      simp only [List.length_cons] at trimmed shorter
      omega
  · have named := length_skipName_le (text.dropWhile Text.isWhiteSpace)
    split at read
    · exact nomatch read
    · rename_i quote path found
      rw [found] at named
      split at read
      · obtain ⟨⟨first, after⟩, inner, same⟩ := Option.map_eq_some_iff.mp read
        cases same
        have shorter := length_readToQuote?_le inner
        simp only [List.length_cons] at named
        omega
      · exact nomatch read

theorem length_afterWord?_lt {text rest : List Char} (read : afterWord? text = some rest) :
    rest.length < text.length := by
  unfold afterWord? at read
  obtain ⟨found, -⟩ := Option.filter_eq_some_iff.mp read
  rw [Text.dropPrefix?_eq_some_iff.mp found, List.length_append]
  exact Nat.lt_add_of_pos_left (by decide)

/-- The paths of a declaration at the start of a text, and what follows the declaration. -/
def declaration? (text : List Char) : Option (List (List Char) × List Char) :=
  (afterWord? text).bind readDeclaration?

theorem length_declaration?_lt {text rest : List Char} {paths : List (List Char)}
    (read : declaration? text = some (paths, rest)) : rest.length < text.length := by
  obtain ⟨after, word, inner⟩ := Option.bind_eq_some_iff.mp read
  exact Nat.lt_of_le_of_lt (length_readDeclaration?_le inner) (length_afterWord?_lt word)

/-- The paths of all declarations in a text, from left to right. The word `import` counts where no
word character is next to it; a declaration is read once, and the next one starts after it. -/
def declaredPaths (afterWordCharacter : Bool) (text : List Char) : List (List Char) :=
  match text with
  | [] => []
  | character :: rest =>
    match _found : if afterWordCharacter then none else declaration? (character :: rest) with
    | none => declaredPaths (Text.isWord character) rest
    | some (paths, remaining) => paths ++ declaredPaths false remaining
termination_by text.length
decreasing_by
  · simp
  · split at _found
    · exact nomatch _found
    · exact length_declaration?_lt _found

def paths (document : String) : Std.ExtTreeSet String :=
  Std.ExtTreeSet.ofList ((declaredPaths false document.toList).map String.ofList) compare

def declares (document importPath : String) : Bool :=
  (paths document).contains importPath

end SymbolCache.Imports
