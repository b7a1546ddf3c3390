import SymbolCache.Text.Character
import SymbolCache.Text.Property

/-!
# Lower-casing

The full, language-independent lower-casing of a text. Every character maps by itself but for the
capital sigma, which becomes a final sigma at the end of a word: after a cased letter and not before
one, case-ignorable characters between them aside. So lower-casing a prefix of a text need not give
a prefix of its lower-casing.
-/

set_option autoImplicit false

namespace SymbolCache.Text

def CaseRun.covers (run : CaseRun) (codePoint : Nat) : Bool :=
  run.first ≤ codePoint && codePoint ≤ run.last && (codePoint - run.first) % run.stride == 0

/-- The lower-case form of a character taken by itself. Only the dotted capital I has one of two
characters. -/
def lowerCharacter (character : Char) : List Char :=
  if isAscii character then
    [if isAsciiUpper character then Char.ofNat (character.toNat + 32) else character]
  else if character == '\u0130' then ['i', '\u0307']
  else
    match lowerCaseRuns.find? (·.covers character.toNat) with
    | some run => [Char.ofNat (character.toNat - run.first + run.target)]
    | none => [character]

/-- The lower-case form of a character that is a single one, or the character itself. -/
def lowerLetter (character : Char) : Char :=
  match lowerCharacter character with
  | [lower] => lower
  | _ => character

/-- Letters with an upper-case form of which they are not the lower-case form, and that form. -/
def extraUpperLetters : List (Char × Char) :=
  [('µ', 'Μ'), ('ı', 'I'), ('ſ', 'S'), ('ς', 'Σ'), ('ϐ', 'Β'), ('ϑ', 'Θ'), ('ϕ', 'Φ'), ('ϖ', 'Π'),
    ('ϰ', 'Κ'), ('ϱ', 'Ρ'), ('ϵ', 'Ε'), ('ẛ', 'Ṡ')]

/-- The upper-case form of a letter that is a single one, or the letter itself. -/
def upperLetter (character : Char) : Char :=
  if isAscii character then
    if isAsciiLower character then Char.ofNat (character.toNat - 32) else character
  else
    let source (run : CaseRun) : Nat := character.toNat - run.target + run.first
    match extraUpperLetters.find? (·.1 = character), lowerCaseRuns.find? fun run =>
        run.target ≤ character.toNat && run.covers (source run) with
    | some (_, upper), _ => upper
    | none, some run => Char.ofNat (source run)
    | none, none => character

/-- Whether the first character that is not case-ignorable exists and is cased. -/
def startsCased (characters : List Char) : Bool :=
  match characters.dropWhile isCaseIgnorable with
  | [] => false
  | character :: _ => isCased character

/-- Lower-cases the characters that follow `before`, which is given nearest first. -/
def lowerFrom (before : List Char) : List Char → List Char
  | [] => []
  | character :: after =>
    (if character == 'Σ' then
        [if startsCased before && !startsCased after then 'ς' else 'σ']
      else lowerCharacter character) ++
      lowerFrom (character :: before) after

def lowerCase (text : String) : String :=
  String.ofList (lowerFrom [] text.toList)

example : lowerCase "PrintLN" = "println" := by decide +kernel

example : lowerCase "ΣΑΣ" = "σας" := by decide +kernel

example : lowerCase "\u0130x" = "i\u0307x" := by decide +kernel

end SymbolCache.Text
