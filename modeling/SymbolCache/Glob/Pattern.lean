/-!
# Glob patterns

The syntax of the patterns that exclude import paths. A pattern is a list of tokens: literal
characters, `?`, `*`, the three uses of `**`, character classes in brackets and groups of
alternatives in braces, which may nest. A backslash takes the meaning from the character after it.
-/

set_option autoImplicit false

namespace SymbolCache.Glob

inductive Token where
  | literal (character : Char)
  | any
  | zeroOrMore
  /-- `**` in front: nothing, or all up to some slash. -/
  | recursivePrefix
  | recursiveSuffix
  /-- `/**/` between: a slash, or all from one slash to another. -/
  | recursiveBetween
  /-- `[a-c]` or `[!a-c]`: one byte inside or outside the ranges. -/
  | charClass (negated : Bool) (ranges : List (Char × Char))
  | alternates (branches : List (List Token))
  deriving Repr

inductive Error where
  | unclosedClass
  | invalidRange (first last : Char)
  | unopenedAlternates
  | unclosedAlternates
  | danglingEscape
  deriving Repr, DecidableEq

def Error.message : Error → String
  | .unclosedClass => "unclosed character class; missing ']'"
  | .invalidRange first last =>
    "invalid range; '" ++ String.singleton first ++ "' > '" ++ String.singleton last ++ "'"
  | .unopenedAlternates =>
    "unopened alternate group; missing '\x7b' (maybe escape '\x7d' with '[\x7d]'?)"
  | .unclosedAlternates =>
    "unclosed alternate group; missing '\x7d' (maybe escape '\x7b' with '[\x7b]'?)"
  | .danglingEscape => "dangling '\\'"

/-! ## Character classes -/

/-- A character class while it is read: its ranges, last first, and whether a dash has opened a
range that its next character closes. -/
structure ClassDraft where
  ranges : List (Char × Char)
  inRange : Bool

namespace ClassDraft

/-- Closes the last range with a character, which must not precede the first one. -/
def close (draft : ClassDraft) (last : Char) : Except Error ClassDraft :=
  match draft.ranges with
  | [] => .ok { ranges := [(last, last)], inRange := false }
  | (first, _) :: ranges =>
    if last < first then .error (.invalidRange first last)
    else .ok { ranges := (first, last) :: ranges, inRange := false }

def add (draft : ClassDraft) (character : Char) : ClassDraft :=
  { ranges := (character, character) :: draft.ranges, inRange := false }

def finish (draft : ClassDraft) : List (Char × Char) :=
  (if draft.inRange then ('-', '-') :: draft.ranges else draft.ranges).reverse

/-- Reads the characters of a class up to the bracket that closes it. A bracket or dash in first
place stands for itself. -/
def read (draft : ClassDraft) (isFirst : Bool) :
    List Char → Except Error (List (Char × Char) × List Char)
  | [] => .error .unclosedClass
  | character :: rest =>
    if character == ']' && !isFirst then .ok (draft.finish, rest)
    else if draft.inRange then do (← draft.close character).read false rest
    else if character == '-' && !isFirst then { draft with inRange := true }.read false rest
    else (draft.add character).read false rest

end ClassDraft

/-- Reads a class after its opening bracket. An exclamation mark or a circumflex in front negates
it. -/
def readClass (text : List Char) : Except Error (Token × List Char) :=
  match text with
  | [] => .error .unclosedClass
  | mark :: rest =>
    let negated := mark == '!' || mark == '^'
    (ClassDraft.read ⟨[], false⟩ true (if negated then rest else text)).map
      fun (ranges, rest) => (.charClass negated ranges, rest)

/-! ## Patterns -/

/-- A pattern while it is read. The branches are those of all groups that are open, and the pattern
outside of them; the last branch comes first, and in it the last token. `openings` holds, innermost
first, how many branches each open group found. -/
structure Draft where
  branches : List (List Token)
  openings : List Nat

namespace Draft

def start : Draft := ⟨[[]], []⟩

def push (draft : Draft) (token : Token) : Draft :=
  match draft.branches with
  | [] => { draft with branches := [[token]] }
  | branch :: branches => { draft with branches := (token :: branch) :: branches }

/-- Puts a recursive token in the place of the slash before it. One recursive token swallows
another, but a prefix or suffix stays what it is. -/
def replaceSlash (draft : Draft) (token : Token) : Draft :=
  match draft.branches with
  | (.recursivePrefix :: branch) :: branches =>
    { draft with branches := (.recursivePrefix :: branch) :: branches }
  | (.recursiveSuffix :: branch) :: branches =>
    { draft with branches := (.recursiveSuffix :: branch) :: branches }
  | (_ :: branch) :: branches => { draft with branches := (token :: branch) :: branches }
  | _ => draft.push token

def openGroup (draft : Draft) : Draft where
  branches := [] :: draft.branches
  openings := draft.branches.length :: draft.openings

def comma (draft : Draft) : Draft :=
  if draft.openings.isEmpty then draft.push (.literal ',')
  else { draft with branches := [] :: draft.branches }

def closeGroup (draft : Draft) : Except Error Draft :=
  match draft.openings with
  | [] => .error .unopenedAlternates
  | found :: openings =>
    let count := draft.branches.length - found
    let alternatives := (draft.branches.take count).reverse.map List.reverse
    .ok (Draft.push ⟨draft.branches.drop count, openings⟩ (.alternates alternatives))

def hasTokens (draft : Draft) : Bool :=
  match draft.branches with
  | (_ :: _) :: _ => true
  | _ => false

def inGroup (draft : Draft) : Bool :=
  1 < draft.branches.length

def pushStars (draft : Draft) : Draft :=
  (draft.push .zeroOrMore).push .zeroOrMore

/-- Whether two stars after the character `before` may act across slashes: after a slash, and inside
a group also after a comma or brace. -/
def mayRecurse (draft : Draft) (before : Option Char) : Bool :=
  before == some '/' || draft.inGroup && (before == some ',' || before == some '\x7b')

/-- Reads what follows two stars. Gives the draft, the last character read and the rest. -/
def readStars (draft : Draft) (before : Option Char) (rest : List Char) :
    Draft × Char × List Char :=
  match draft.hasTokens, rest with
  | false, [] => (draft.push .recursivePrefix, '*', [])
  | false, '/' :: rest => (draft.push .recursivePrefix, '/', rest)
  | false, rest => (draft.pushStars, '*', rest)
  | true, rest =>
    if draft.mayRecurse before then
      match rest with
      | [] => (draft.replaceSlash .recursiveSuffix, '*', [])
      | '/' :: rest => (draft.replaceSlash .recursiveBetween, '/', rest)
      | next :: _ =>
        if draft.inGroup && (next == ',' || next == '\x7d') then
          (draft.replaceSlash .recursiveSuffix, '*', rest)
        else (draft.pushStars, '*', rest)
    else (draft.pushStars, '*', rest)

/-- Reads a pattern to its end; `before` is the character in front. Every call takes at least one
character, so the length of the pattern is fuel enough. -/
def read : Nat → Draft → Option Char → List Char → Except Error Draft
  | _, draft, _, [] => .ok draft
  | 0, draft, _, _ => .ok draft
  | fuel + 1, draft, before, character :: rest =>
    match character, rest with
    | '?', rest => (draft.push .any).read fuel (some '?') rest
    | '*', '*' :: rest =>
      let (draft, last, rest) := draft.readStars before rest
      draft.read fuel (some last) rest
    | '*', rest => (draft.push .zeroOrMore).read fuel (some '*') rest
    | '[', rest => do
      let (token, rest) ← readClass rest
      (draft.push token).read fuel (some ']') rest
    | '\x7b', rest => draft.openGroup.read fuel (some '\x7b') rest
    | '\x7d', rest => do (← draft.closeGroup).read fuel (some '\x7d') rest
    | ',', rest => draft.comma.read fuel (some ',') rest
    | '\\', [] => .error .danglingEscape
    | '\\', escaped :: rest => (draft.push (.literal escaped)).read fuel (some escaped) rest
    | character, rest => (draft.push (.literal character)).read fuel (some character) rest

end Draft

def parse (pattern : String) : Except Error (List Token) := do
  let draft ← Draft.start.read pattern.length none pattern.toList
  match draft.branches with
  | [branch] => .ok branch.reverse
  | _ => .error .unclosedAlternates

end SymbolCache.Glob
