import SymbolCache.Disk.Basic
import SymbolCache.Outcome
import SymbolCache.Program.Regular.Match
import SymbolCache.Program.Shell.Word

/-!
# Patterns of the shell

A pattern matches texts: a star any characters, a question mark one, a list in brackets one of its
characters, and every other character itself. Characters that are quoted match themselves. In the
extended language there are also groups of patterns. A word with a pattern stands for the paths that
it matches, if there are any.
-/

set_option autoImplicit false

namespace SymbolCache.Program.Shell

inductive PatternPart where
  | exact (character : Char)
  | any
  | many
  | oneOf (set : Regular.CharacterSet)
  /-- Alternatives that are matched as often as a sign tells. -/
  | group (sign : Char) (alternatives : List (List PatternPart))
  deriving Repr

structure Manner where
  language : Language := .plain
  hasGroups : Bool := false
  ignoresCase : Bool := false
  deriving Repr, DecidableEq

/-- A text of which some characters are quoted. -/
abbrev MarkedText := List (Char × Bool)

namespace Pattern

/-! ## Bytes -/

def byteLetters (text : List Char) : List Char :=
  (characterBytes text).map fun byte => Char.ofNat byte.toNat

def wordOf (text : List Char) : String :=
  String.ofList (Text.lettersOf (text.map fun character => character.toNat.toUInt8))

def inBytes (text : MarkedText) : MarkedText :=
  text.flatMap fun (character, isQuoted) =>
    (byteLetters [character]).map fun letter => (letter, isQuoted)

/-! ## Reading -/

/-- Reads the name of a class of characters, and what follows the bracket that closes it. -/
def readClass (text : MarkedText) :
    Option (String × List (Char × Char) × MarkedText) := do
  let (name, _) ← Regular.readNamed ':' (text.map Prod.fst)
  let ranges ← Regular.classRanges? name
  return (String.ofList name, ranges, text.drop (name.length + 2))

/-- Reads a list in brackets after the first one. A bracket in first place stands for itself. It is
fuelled by the length of the text. -/
def readMembers : Nat → Bool → MarkedText → Option (Regular.CharacterSet × MarkedText)
  | 0, _, _ => none
  | _ + 1, _, [] => none
  | fuel + 1, isFirst, (character, isQuoted) :: rest =>
    let range (last : Char) (rest : MarkedText) : Option (Regular.CharacterSet × MarkedText) :=
      (readMembers fuel false rest).map fun (set, rest) =>
        ({ set with ranges := (character, last) :: set.ranges }, rest)
    if character == ']' && !isQuoted && !isFirst then some ({}, rest)
    else
      let named := match character, isQuoted, rest with
        | '[', false, (':', false) :: text => readClass text
        | _, _, _ => none
      match named, rest with
      | some (name, ranges, rest), _ =>
        (readMembers fuel false rest).map fun (set, rest) =>
          ({ set with ranges := ranges ++ set.ranges, classes := name :: set.classes }, rest)
      | none, ('-', false) :: (last, isLastQuoted) :: after =>
        if last == ']' && !isLastQuoted then range character rest else range last after
      | none, rest => range character rest

/-- Cuts the alternatives of a group from a text, up to the parenthesis that closes it. It is
fuelled by the length of the text. -/
def readAlternatives : Nat → Nat → MarkedText → Option (List MarkedText × MarkedText)
  | 0, _, _ | _ + 1, _, [] => none
  | fuel + 1, depth, mark :: rest =>
    let within (depth : Nat) : Option (List MarkedText × MarkedText) :=
      (readAlternatives fuel depth rest).map fun (alternatives, after) =>
        ((mark :: alternatives.headD []) :: alternatives.tail, after)
    match mark with
    | (')', false) => if depth = 0 then some ([[]], rest) else within (depth - 1)
    | ('(', false) => within (depth + 1)
    | ('|', false) =>
      if depth = 0 then
        (readAlternatives fuel depth rest).map fun (alternatives, after) =>
          ([] :: alternatives, after)
      else within depth
    | _ => within depth

def parts (manner : Manner) : Nat → MarkedText → List PatternPart
  | 0, _ => []
  | _ + 1, [] => []
  | fuel + 1, (first, isQuoted) :: rest =>
    let group? := match manner.hasGroups && !isQuoted, rest with
      | true, ('(', false) :: inside =>
        if ['?', '*', '+', '@', '!'].contains first then
          readAlternatives (inside.length + 1) 0 inside
        else none
      | _, _ => none
    match group? with
    | some (alternatives, after) =>
      .group first (alternatives.map (parts manner fuel)) :: parts manner fuel after
    | none =>
      match first, isQuoted with
      | '*', false => .many :: parts manner fuel rest
      | '?', false => .any :: parts manner fuel rest
      | '[', false =>
        let (negated, inside) := match rest with
          | ('!', false) :: inside => (true, inside)
          | ('^', false) :: inside =>
            if manner.language = Language.extended then (true, inside) else (false, rest)
          | inside => (false, inside)
        match readMembers (inside.length + 1) true inside with
        | some (set, rest) => .oneOf { set with negated } :: parts manner fuel rest
        | none => .exact '[' :: parts manner fuel rest
      | character, _ => .exact character :: parts manner fuel rest

def ofText (text : MarkedText) : List PatternPart :=
  parts {} (text.length + 1) text

def ofBytes (text : MarkedText) : List PatternPart :=
  (ofText (inBytes text)).map fun
    | .oneOf set => .oneOf { set with classes := [] }
    | part => part

/-- The pattern of a text. In the plain language every byte counts as a character. -/
def ofMarked (manner : Manner) (text : MarkedText) : List PatternPart :=
  match manner.language with
  | .plain => ofBytes text
  | .extended => parts manner (text.length + 1) text

def letters (manner : Manner) (text : List Char) : List Char :=
  match manner.language with
  | .plain => byteLetters text
  | .extended => text

def textOf (manner : Manner) (letters : List Char) : String :=
  match manner.language with
  | .plain => wordOf letters
  | .extended => String.ofList letters

/-! ## Matching -/

def ends {α : Type} : List α → List (List α)
  | [] => [[]]
  | first :: rest => (first :: rest) :: ends rest

def ordered (rests : List (List Char)) : List (List Char) :=
  (rests.mergeSort fun left right => right.length ≤ left.length).eraseDups

/-- What is left after something is matched again and again, as long as something new is left. It is
fuelled by the length of the text. -/
def repeated (step : List (List Char) → List (List Char)) :
    Nat → List (List Char) → List (List Char)
  | 0, rests => rests
  | fuel + 1, rests =>
    let all := ordered (rests ++ step rests)
    if all.length = rests.length then rests else repeated step fuel all

mutual

/-- What can be left of a text after a part of a pattern, by what can be left before it. A longer
rest comes before a shorter one. -/
def leaves (ignoresCase : Bool) (rests : List (List Char)) (part : PatternPart) :
    List (List Char) :=
  let after (matchesPart : Char → Bool) : List (List Char) :=
    rests.filterMap fun
      | character :: rest => if matchesPart character then some rest else none
      | [] => none
  match part with
  | .many => (rests.head?.map ends).getD []
  | .any => after fun _ => true
  | .exact expected =>
    after fun character =>
      character == expected ||
        ignoresCase && Text.lowerLetter character == Text.lowerLetter expected
  | .oneOf set => after (set.has ignoresCase)
  | .group sign alternatives =>
    let once (rests : List (List Char)) : List (List Char) :=
      leavesAny ignoresCase rests alternatives
    let length := (rests.head?.map List.length).getD 0
    match sign with
    | '@' => ordered (once rests)
    | '?' => ordered (rests ++ once rests)
    | '+' => repeated once length (ordered (once rests))
    | '*' => repeated once length rests
    | _ =>
      ordered (rests.flatMap fun rest =>
        (ends rest).filter fun left =>
          !(once [rest.take (rest.length - left.length)]).any List.isEmpty)

def leavesAll (ignoresCase : Bool) (rests : List (List Char)) (pattern : List PatternPart) :
    List (List Char) :=
  match pattern with
  | [] => rests
  | part :: pattern => leavesAll ignoresCase (leaves ignoresCase rests part) pattern

def leavesAny (ignoresCase : Bool) (rests : List (List Char))
    (patterns : List (List PatternPart)) : List (List Char) :=
  match patterns with
  | [] => []
  | pattern :: patterns =>
    leavesAll ignoresCase rests pattern ++ leavesAny ignoresCase rests patterns

end

def acceptsFolded (ignoresCase : Bool) (pattern : List PatternPart) (text : List Char) : Bool :=
  (leavesAll ignoresCase [text] pattern).any List.isEmpty

def accepts (pattern : List PatternPart) (text : List Char) : Bool :=
  acceptsFolded false pattern text

def dropFront (longest : Bool) (pattern : List PatternPart) (text : List Char) : List Char :=
  let lengths := List.range (text.length + 1)
  match (if longest then lengths.reverse else lengths).find? fun length =>
      accepts pattern (text.take length) with
  | some length => text.drop length
  | none => text

def dropEnd (longest : Bool) (pattern : List PatternPart) (text : List Char) : List Char :=
  let lengths := List.range (text.length + 1)
  match (if longest then lengths else lengths.reverse).find? fun length =>
      accepts pattern (text.drop length) with
  | some length => text.take length
  | none => text

def longestFront? (ignoresCase : Bool) (pattern : List PatternPart) (text : List Char) :
    Option (List Char × List Char) :=
  (leavesAll ignoresCase [text] pattern).getLast?.map fun rest =>
    (text.take (text.length - rest.length), rest)

/-- The text with each match of a pattern changed, or only the first one. An empty match counts only
in an empty text. It is fuelled by the length of the text. -/
def replaceMatches (ignoresCase : Bool) (pattern : List PatternPart)
    (change : List Char → List Char)
    (all : Bool) : Nat → List Char → List Char
  | 0, text => text
  | fuel + 1, text =>
    match longestFront? ignoresCase pattern text with
    | some (first :: found, rest) =>
      change (first :: found) ++
        if all then replaceMatches ignoresCase pattern change all fuel rest else rest
    | _ =>
      match text with
      | [] => []
      | character :: rest =>
        character :: replaceMatches ignoresCase pattern change all fuel rest

def replaceFront (ignoresCase : Bool) (pattern : List PatternPart)
    (change : List Char → List Char) (text : List Char) : List Char :=
  match longestFront? ignoresCase pattern text with
  | some (found, rest) => change found ++ rest
  | none => text

def replaceEnd (ignoresCase : Bool) (pattern : List PatternPart)
    (change : List Char → List Char) (text : List Char) : List Char :=
  match (ends text).find? (acceptsFolded ignoresCase pattern) with
  | some found => text.take (text.length - found.length) ++ change found
  | none => text

/-! ## Paths -/

/-- How words are replaced by the paths that they match. -/
structure PathManner extends Manner where
  /-- Whether names that start with a point are matched like others. -/
  showsHidden : Bool := false
  goesDeep : Bool := false
  deriving Repr, DecidableEq

def isPattern (manner : Manner) (text : MarkedText) : Bool :=
  text.any (fun (character, isQuoted) => !isQuoted && ['*', '?', '['].contains character) ||
    manner.hasGroups && (text.zip text.tail).any fun (sign, next) =>
      ['+', '@', '!'].contains sign.1 && !sign.2 && next == ('(', false)

def namesMatching (manner : PathManner) (disk : Disk) (base : String) (element : MarkedText) :
    List String :=
  match disk.locate (if base.isEmpty then "." else base) with
  | .ok location =>
    let pattern := ofMarked manner.toManner element
    let startsHidden := (element.head?.map Prod.fst) == some '.'
    let names := disk.namesIn location
    let all := if startsHidden && manner.language = .plain then "." :: ".." :: names else names
    all.filter fun name =>
      (startsHidden || manner.showsHidden || name.toList.head? != some '.') &&
        acceptsFolded manner.ignoresCase pattern (letters manner.toManner name.toList)
  | .error _ => []

/-- The directories below a path, and the path itself, each with a slash at its end. It is fuelled
by their depth. -/
def directoriesFrom (manner : PathManner) (disk : Disk) : Nat → String → List String
  | 0, base => [base]
  | fuel + 1, base =>
    base :: ((namesMatching manner disk base [('*', false)]).filter fun name =>
      disk.isDirectory (base ++ name)).flatMap fun name =>
        directoriesFrom manner disk fuel (base ++ name ++ "/")

def directoryLimit : Nat := 256

def pathsFrom (manner : PathManner) (disk : Disk) (base : String) :
    List MarkedText → List String
  | [] => [base]
  | element :: elements =>
    let isDeep := manner.goesDeep && element == [('*', false), ('*', false)]
    let names (base : String) : List String :=
      if isPattern manner.toManner element then namesMatching manner disk base element
      else [String.ofList (element.map Prod.fst)]
    if isDeep then
      let bases := directoriesFrom manner disk directoryLimit base
      if elements.isEmpty then
        let files := bases.flatMap fun path =>
          ((names path).filter fun name => !disk.isDirectory (path ++ name)).map (path ++ ·)
        [base].filter (· != "") ++ bases.tail.map (fun path => (path.dropEnd 1).toString) ++ files
      else bases.flatMap fun path => pathsFrom manner disk path elements
    else
      (names base).flatMap fun name =>
        let path := base ++ name
        if elements.isEmpty then (if disk.contains path then [path] else [])
        else pathsFrom manner disk (path ++ "/") elements

def splitMarked : MarkedText → List MarkedText
  | [] => [[]]
  | ('/', _) :: rest => [] :: splitMarked rest
  | character :: rest =>
    match splitMarked rest with
    | element :: elements => (character :: element) :: elements
    | [] => [[character]]

def matchingPaths? (manner : PathManner) (disk : Disk) (text : MarkedText) :
    Option (List String) :=
  if !isPattern manner.toManner text then none
  else
    let paths := pathsFrom manner disk "" (splitMarked text)
    some (paths.mergeSort fun left right => decide (left ≤ right)).eraseDups

end Pattern

end SymbolCache.Program.Shell
