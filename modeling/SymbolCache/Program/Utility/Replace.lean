import SymbolCache.Program.Utility.Format
import SymbolCache.Program.Utility.Line

/-!
# Replacing characters

Replaces or drops the characters of a set in the input, or drops those that are repeated.
-/

set_option autoImplicit false

namespace SymbolCache.Program.Utility

inductive SetPart where
  | characters (characters : List Char)
  | filling (character : Char)
  deriving Repr, DecidableEq

def charactersBetween (first last : Nat) : List Char :=
  (List.range (last + 1 - first)).map fun offset => Char.ofNat (first + offset)

def classMembers? (name : String) : Option (List Char) :=
  match name with
  | "alnum" =>
    some (charactersBetween 48 57 ++ charactersBetween 65 90 ++ charactersBetween 97 122)
  | "alpha" => some (charactersBetween 65 90 ++ charactersBetween 97 122)
  | "blank" => some ['\t', ' ']
  | "cntrl" => some (charactersBetween 0 31 ++ ['\x7f'])
  | "digit" => some (charactersBetween 48 57)
  | "graph" => some (charactersBetween 33 126)
  | "lower" => some (charactersBetween 97 122)
  | "print" => some (charactersBetween 32 126)
  | "punct" =>
    some (charactersBetween 33 47 ++ charactersBetween 58 64 ++ charactersBetween 91 96 ++
      charactersBetween 123 126)
  | "space" => some (charactersBetween 9 13 ++ [' '])
  | "upper" => some (charactersBetween 65 90)
  | "xdigit" =>
    some (charactersBetween 48 57 ++ charactersBetween 65 70 ++ charactersBetween 97 102)
  | _ => none

/-- Reads a single character of a set, which a backslash may stand in front of. -/
def readSetCharacter : List Char → Option (Char × List Char)
  | [] => none
  | '\\' :: character :: rest =>
    match escapeMeaning? character with
    | some byte => some (Char.ofNat byte.toNat, rest)
    | none =>
      if (digit? 8 character).isSome then
        let (value, rest) := readDigits 8 3 0 (character :: rest)
        some (Char.ofNat (value % 256), rest)
      else some (character, rest)
  | character :: rest => some (character, rest)

/-- Reads a repetition after its character: a count, up to the bracket that closes it. -/
def readFilling (character : Char) (text : List Char) : Option (SetPart × List Char) :=
  let digits := text.takeWhile Text.isAsciiDigit
  match text.drop digits.length with
  | ']' :: rest =>
    let count :=
      if digits.head? = some '0' then (readDigits 8 digits.length 0 digits).1
      else Text.digitsValue 0 digits
    some (if count = 0 then .filling character
      else .characters (List.replicate count character), rest)
  | _ => none

/-- The parts of a set, or what is wrong with it. It is fuelled by the length of the text. -/
def readSet : Nat → List Char → Except String (List SetPart)
  | 0, _ => .ok []
  | fuel + 1, text => do
    let single : Except String (List SetPart) := do
      match readSetCharacter text with
      | none => return []
      | some (first, rest) =>
        match rest with
        | '-' :: next :: rest =>
          match readSetCharacter (next :: rest) with
          | none => return []
          | some (last, rest) =>
            if last < first then
              throw ("range-endpoints of '" ++ String.ofList [first, '-', last] ++
                "' are in reverse collating sequence order")
            return .characters (charactersBetween first.toNat last.toNat) ::
              (← readSet fuel rest)
        | rest => return .characters [first] :: (← readSet fuel rest)
    match text with
    | [] => return []
    | '[' :: ':' :: rest =>
      let name := rest.takeWhile (· != ':')
      match rest.drop name.length with
      | ':' :: ']' :: rest =>
        match classMembers? (String.ofList name) with
        | some members => return .characters members :: (← readSet fuel rest)
        | none => throw ("invalid character class " ++ escaped (String.ofList name))
      | _ => single
    | '[' :: '=' :: character :: '=' :: ']' :: rest =>
      return .characters [character] :: (← readSet fuel rest)
    | '[' :: rest =>
      match readSetCharacter rest with
      | some (character, '*' :: rest) =>
        match readFilling character rest with
        | some (part, rest) => return part :: (← readSet fuel rest)
        | none => single
      | _ => single
    | _ => single

def setMembers (size : Nat) (parts : List SetPart) : List Char :=
  let known := Text.total (parts.map fun
    | .characters characters => characters.length
    | .filling _ => 0)
  parts.flatMap fun
    | .characters characters => characters
    | .filling character => List.replicate (size - known) character

def squeeze (members : Char → Bool) (text : List Char) : List Char :=
  (text.splitBy fun first second => first == second).flatMap fun run =>
    if run.head?.any members then run.take 1 else run

/-- Replaces the characters of a list by those of another one, whose last one stands for all that it
lacks. Of several places of a character the last one counts. -/
def replaceCharacters (members replacements : List Char) : Char → Char :=
  let last := replacements.getLastD '\x00'
  let pairs := (members.zipIdx.map fun (member, index) =>
    (member, (replacements[index]?).getD last)).reverse
  let table := ((List.range 256).map fun code =>
    let character := Char.ofNat code
    ((pairs.find? fun pair => pair.1 == character).map Prod.snd).getD character).toArray
  fun character => (table[character.toNat]?).getD character

def tr : Utility :=
  withOptions
    { name := "tr", plain := "cCdst"
      long := [("complement", 'c'), ("delete", 'd'), ("squeeze-repeats", 's'),
        ("truncate-set1", 't')] }
    fun options => do
      let refuse (text : String) : StateM Surroundings Outcome := return misuse 1 "tr" text
      let sets := options.words.mapM fun word => readSet (word.length + 1) (wordCharacters word)
      let deletes := options.has 'd'
      let squeezes := options.has 's'
      match options.words with
      | [] => refuse "missing operand"
      | [word] =>
        if !deletes && !squeezes then
          refuse ("missing operand after " ++ escaped word ++
            "\nTwo strings must be given when translating.")
        else if deletes && squeezes then
          refuse ("missing operand after " ++ escaped word ++
            "\nTwo strings must be given when both deleting and squeezing repeats.")
        else run options sets
      | [_, word] =>
        if deletes && !squeezes then
          refuse ("extra operand " ++ escaped word ++
            "\nOnly one string may be given when deleting without squeezing repeats.")
        else run options sets
      | _ :: _ :: word :: _ => refuse ("extra operand " ++ escaped word)
where
  run (options : Options) (sets : Except String (List (List SetPart))) :
      StateM Surroundings Outcome := do
    match sets with
    | .error text => return .failure 1 ("tr: " ++ text ++ "\n")
    | .ok sets =>
      let first := setMembers 0 (sets.headD [])
      let members :=
        if options.has 'c' || options.has 'C' then
          (charactersBetween 0 255).filter fun character => !first.contains character
        else first
      let replacements := setMembers members.length ((sets[1]?).getD [])
      let members := if options.has 't' then members.take replacements.length else members
      let reading ← readInput
      let text := charactersOf reading.content
      if sets.length = 2 && replacements.isEmpty && !options.has 't' && !options.has 'd' then
        return .failure 1 "tr: when not truncating set1, string2 must be non-empty\n"
      else
        let changed :=
          if options.has 'd' then text.filter fun character => !members.contains character
          else if sets.length = 2 then text.map (replaceCharacters members replacements)
          else text
        let squeezed :=
          if !options.has 's' then changed
          else squeeze (if sets.length = 2 then replacements.contains else members.contains) changed
        return printing squeezed reading.elapsed

end SymbolCache.Program.Utility
