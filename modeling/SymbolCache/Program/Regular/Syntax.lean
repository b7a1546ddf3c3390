import SymbolCache.Text.Character
import SymbolCache.Text.Lossy
import SymbolCache.Text.LowerCase
import SymbolCache.Text.Natural

/-!
# Regular expressions

The syntax of regular expressions. There are two grammars: in the basic one a backslash gives their
meaning to the signs for groups, counts and alternatives, in the extended one it takes it from them.
An expression is first cut into marks.
-/

set_option autoImplicit false

namespace SymbolCache.Program.Regular

/-! ## Expressions -/

/-- A set of characters: those in some ranges and those of some classes that are not ASCII, or all
others. -/
structure CharacterSet where
  negated : Bool := false
  ranges : List (Char × Char) := []
  classes : List String := []
  deriving Repr, DecidableEq

/-- Whether a place is the start or the end of a text or of a word in it. -/
inductive Border where
  | start
  | finish
  | wordStart
  | wordEnd
  | word
  | noWord
  deriving Repr, DecidableEq

inductive Expression where
  | nothing
  | one (set : CharacterSet)
  | border (border : Border)
  | group (number : Nat) (inside : Expression)
  | again (number : Nat)
  | both (first second : Expression)
  | either (first second : Expression)
  /-- An expression over and over again, at most some number of times if there is one. -/
  | repeated (least : Nat) (most : Option Nat) (inside : Expression)
  deriving Repr, DecidableEq

inductive Mistake where
  | openBracket
  | openGroup
  | closedGroup
  | openCount
  | invalidCount
  | invalidRange
  | invalidClass
  | invalidCollation
  | invalidReference
  | nothingToRepeat
  | openEscape
  deriving Repr, DecidableEq

def Mistake.message : Mistake → String
  | .openBracket => "Unmatched [, [^, [:, [., or [="
  | .openGroup => "Unmatched ( or \\("
  | .closedGroup => "Unmatched ) or \\)"
  | .openCount => "Unmatched \\\x7b"
  | .invalidCount => "Invalid content of \\\x7b\\\x7d"
  | .invalidRange => "Invalid range end"
  | .invalidClass => "Invalid character class name"
  | .invalidCollation => "Invalid collation character"
  | .invalidReference => "Invalid back reference"
  | .nothingToRepeat => "Invalid preceding regular expression"
  | .openEscape => "Trailing backslash"

/-! ## Marks -/

inductive Mark where
  | set (set : CharacterSet)
  | border (border : Border)
  | again (number : Nat)
  | opens
  | closes
  | bar
  | times (least : Nat) (most : Option Nat)
  deriving Repr, DecidableEq

structure Grammar where
  isExtended : Bool
  /-- Whether what cannot be a count or a repetition stands for itself or for nothing. -/
  isLenient : Bool
  ofBytes : Bool := false
  deriving Repr, DecidableEq

def CharacterSet.single (character : Char) : CharacterSet where
  ranges := [(character, character)]

def wordRanges : List (Char × Char) :=
  [('0', '9'), ('A', 'Z'), ('_', '_'), ('a', 'z')]

def blankRanges : List (Char × Char) :=
  [('\t', '\r'), (' ', ' ')]

def classRanges? (name : List Char) : Option (List (Char × Char)) :=
  match String.ofList name with
  | "alnum" => some [('0', '9'), ('A', 'Z'), ('a', 'z')]
  | "alpha" => some [('A', 'Z'), ('a', 'z')]
  | "blank" => some [('\t', '\t'), (' ', ' ')]
  | "cntrl" => some [('\x00', '\x1f'), ('\x7f', '\x7f')]
  | "digit" => some [('0', '9')]
  | "graph" => some [('!', '~')]
  | "lower" => some [('a', 'z')]
  | "print" => some [(' ', '~')]
  | "punct" => some [('!', '/'), (':', '@'), ('[', '\x60'), ('\x7b', '~')]
  | "space" => some blankRanges
  | "upper" => some [('A', 'Z')]
  | "xdigit" => some [('0', '9'), ('A', 'F'), ('a', 'f')]
  | _ => none

def readNamed (sign : Char) : List Char → Option (List Char × List Char)
  | [] => none
  | character :: ']' :: rest =>
    if character == sign then some ([], rest)
    else (readNamed sign (']' :: rest)).map fun (name, rest) => (character :: name, rest)
  | character :: rest =>
    (readNamed sign rest).map fun (name, rest) => (character :: name, rest)

def readMember : List Char → Except Mistake (Char × List Char)
  | '[' :: '.' :: rest | '[' :: '=' :: rest =>
    match readNamed '.' rest <|> readNamed '=' rest with
    | some ([character], rest) => .ok (character, rest)
    | _ => .error .openBracket
  | character :: rest => .ok (character, rest)
  | [] => .error .openBracket

/-- Reads the members in brackets, up to the bracket that closes them. A bracket in first place
stands for itself. It is fuelled by the length of the text. -/
def readMembers : Nat → Bool → List Char → Except Mistake (CharacterSet × List Char)
  | 0, _, _ => .error .openBracket
  | fuel + 1, isFirst, text => do
    match text with
    | [] => throw .openBracket
    | '[' :: ':' :: rest =>
      match readNamed ':' rest with
      | none => throw .openBracket
      | some (name, rest) =>
        match classRanges? name with
        | none => throw .invalidClass
        | some members =>
          let (set, rest) ← readMembers fuel false rest
          let classes := String.ofList name :: set.classes
          return ({ set with ranges := members ++ set.ranges, classes }, rest)
    | ']' :: rest =>
      if !isFirst then return ({}, rest)
      else readFrom fuel text
    | _ => readFrom fuel text
where
  /-- Reads a character or a range, and what follows it. -/
  readFrom (fuel : Nat) (text : List Char) :
      Except Mistake (CharacterSet × List Char) := do
    let (first, rest) ← readMember text
    let (last, rest) ← match rest with
      | '-' :: ']' :: _ => pure (first, rest)
      | '-' :: rest =>
        let (last, rest) ← readMember rest
        if last < first then throw .invalidRange
        pure (last, rest)
      | rest => pure (first, rest)
    let (set, rest) ← readMembers fuel false rest
    return ({ set with ranges := (first, last) :: set.ranges }, rest)

def readSet (text : List Char) : Except Mistake (CharacterSet × List Char) := do
  let (negated, text) := match text with
    | '^' :: text => (true, text)
    | text => (false, text)
  let (set, rest) ← readMembers (text.length + 1) true text
  return ({ set with negated }, rest)

/-- Reads a count in braces, after the one that opens it. The brace that closes it may have a
backslash in front. -/
def readCount (grammar : Grammar) (text : List Char) :
    Except Mistake ((Nat × Option Nat) × List Char) :=
  let digits := text.takeWhile Text.isAsciiDigit
  let rest := text.drop digits.length
  let (most, rest) : Option (List Char) × List Char := match rest with
    | ',' :: rest => (some (rest.takeWhile Text.isAsciiDigit), rest.dropWhile Text.isAsciiDigit)
    | rest => (none, rest)
  let least := Text.digitsValue 0 digits
  let highest : Option Nat := match most with
    | some [] => none
    | some most => some (Text.digitsValue 0 most)
    | none => some least
  let count := (least, highest)
  let isValid := !(digits.isEmpty && most.isNone) && highest.all (least ≤ ·)
  match grammar.isExtended, rest with
  | true, '\x7d' :: rest | false, '\\' :: '\x7d' :: rest =>
    if isValid then .ok (count, rest) else .error .invalidCount
  | _, rest =>
    let isOpen := if grammar.isExtended then rest.isEmpty else rest.isEmpty || rest == ['\\']
    .error (if isOpen then .openCount else .invalidCount)

def escapeMark? : Char → Option Mark
  | 'w' => some (.set { ranges := wordRanges, classes := ["alnum"] })
  | 'W' => some (.set { negated := true, ranges := wordRanges, classes := ["alnum"] })
  | 's' => some (.set { ranges := blankRanges })
  | 'S' => some (.set { negated := true, ranges := blankRanges })
  | 'b' => some (.border .word)
  | 'B' => some (.border .noWord)
  | '<' => some (.border .wordStart)
  | '>' => some (.border .wordEnd)
  | '\x60' => some (.border .start)
  | '\x27' => some (.border .finish)
  | character =>
    if '1' ≤ character && character ≤ '9' then
      some (.again (character.toNat - '0'.toNat))
    else none

/-- The mark of a sign that has a meaning of its own in the extended grammar, and in the basic one
after a backslash. -/
def signMark? : Char → Option Mark
  | '(' => some .opens
  | ')' => some .closes
  | '|' => some .bar
  | '+' => some (.times 1 none)
  | '?' => some (.times 0 (some 1))
  | _ => none

def Mark.startsBranch : Option Mark → Bool
  | none | some .opens | some .bar => true
  | _ => false

def endsBranch : List Char → Bool
  | [] | '\\' :: ')' :: _ | '\\' :: '|' :: _ => true
  | _ => false

def Mark.isStart : Option Mark → Bool
  | some (.border .start) => true
  | _ => false

def readMark (grammar : Grammar) (before : Option Mark) :
    List Char → Except Mistake (Option Mark × List Char)
  | [] => .ok (none, [])
  | '[' :: rest => do
    let (set, rest) ← readSet rest
    if grammar.ofBytes then return (some (.set { set with classes := [] }), rest)
    else if set.ranges.any fun (first, last) => first < last && !Text.isAscii last then
      throw .invalidCollation
    else return (some (.set set), rest)
  | '.' :: rest => .ok (some (.set { negated := true }), rest)
  | '\\' :: character :: rest =>
    if character == '\x7b' && !grammar.isExtended then
      if Mark.startsBranch before then
        if grammar.isLenient then .ok (some (.set (.single '\x7b')), rest)
        else .error .nothingToRepeat
      else (readCount grammar rest).map fun ((least, most), rest) =>
        (some (.times least most), rest)
    else
      let meaning := if grammar.isExtended then none else signMark? character
      let mark := (meaning <|> escapeMark? character).getD (.set (.single character))
      .ok (some mark, rest)
  | ['\\'] => .error .openEscape
  | '*' :: rest =>
    let isLiteral := !grammar.isExtended && (Mark.startsBranch before || Mark.isStart before)
    .ok (some (if isLiteral then .set (.single '*') else .times 0 none), rest)
  | '^' :: rest =>
    let isBorder := grammar.isExtended || Mark.startsBranch before
    .ok (some (if isBorder then .border .start else .set (.single '^')), rest)
  | '$' :: rest =>
    let isBorder := grammar.isExtended || endsBranch rest
    .ok (some (if isBorder then .border .finish else .set (.single '$')), rest)
  | character :: rest =>
    if !grammar.isExtended then .ok (some (.set (.single character)), rest)
    else if character == '\x7b' then
      match readCount grammar rest with
      | .ok ((least, most), rest) => .ok (some (.times least most), rest)
      | .error mistake =>
        let isCount := rest.head?.any fun first => Text.isAsciiDigit first || first == ','
        if grammar.isLenient && !(isCount && rest.contains '\x7d') then
          .ok (some (.set (.single '\x7b')), rest)
        else .error mistake
    else .ok (some ((signMark? character).getD (.set (.single character))), rest)

def readMarks (grammar : Grammar) : Nat → Option Mark → List Char → Except Mistake (List Mark)
  | 0, _, _ => .ok []
  | fuel + 1, before, text => do
    match ← readMark grammar before text with
    | (none, _) => return []
    | (some mark, rest) => return mark :: (← readMarks grammar fuel (some mark) rest)

/-! ## Reading expressions -/

/-- A part of an expression that has been read, the number of groups up to its end, and the marks
that follow. -/
structure Part where
  expression : Expression
  groups : Nat
  rest : List Mark

def withTimes (expression : Expression) : List Mark → Expression × List Mark
  | .times least most :: rest => withTimes (.repeated least most expression) rest
  | rest => (expression, rest)

/-- Reads the alternatives up to the end of a group or of the marks. `depth` is the number of groups
around them, and `groups` that of the groups in front. It is fuelled by the number of marks. -/
def readAlternatives (grammar : Grammar) :
    Nat → Nat → Nat → List Mark → Except Mistake Part
  | 0, _, groups, rest => .ok { expression := .nothing, groups, rest }
  | fuel + 1, depth, groups, marks => do
    let branch ← readBranch fuel depth groups .nothing marks
    match branch.rest with
    | .bar :: rest =>
      let others ← readAlternatives grammar fuel depth branch.groups rest
      return { others with expression := .either branch.expression others.expression }
    | _ => return branch
where
  /-- Reads what follows an expression up to the end of its branch. -/
  readBranch : Nat → Nat → Nat → Expression → List Mark → Except Mistake Part
    | 0, _, groups, before, rest => .ok { expression := before, groups, rest }
    | fuel + 1, depth, groups, before, marks => do
      let append (expression : Expression) (groups : Nat) (rest : List Mark) :
          Except Mistake Part :=
        let (expression, rest) := withTimes expression rest
        readBranch fuel depth groups
          (if before = .nothing then expression else .both before expression) rest
      match marks with
      | [] | .bar :: _ => return { expression := before, groups, rest := marks }
      | .closes :: rest =>
        if depth = 0 then
          if grammar.isExtended && grammar.isLenient then
            append (.one (.single ')')) groups rest
          else throw .closedGroup
        else return { expression := before, groups, rest := marks }
      | .set set :: rest => append (.one set) groups rest
      | .border border :: rest => append (.border border) groups rest
      | .again number :: rest =>
        if groups < number then throw .invalidReference
        else append (.again number) groups rest
      | .opens :: rest =>
        let inside ← readAlternatives grammar fuel (depth + 1) (groups + 1) rest
        match inside.rest with
        | .closes :: rest => append (.group (groups + 1) inside.expression) inside.groups rest
        | _ => throw .openGroup
      | .times _ _ :: rest =>
        if grammar.isLenient || !grammar.isExtended then append .nothing groups rest
        else throw .nothingToRepeat

def read (grammar : Grammar) (text : List Char) : Except Mistake (Expression × Nat) := do
  let marks ← readMarks grammar (text.length + 1) none text
  let part ← readAlternatives grammar (2 * marks.length + 2) 0 0 marks
  return (part.expression, part.groups)

def Expression.ofText : List Char → Expression
  | [] => .nothing
  | [character] => .one (.single character)
  | character :: rest => .both (.one (.single character)) (ofText rest)

end SymbolCache.Program.Regular
