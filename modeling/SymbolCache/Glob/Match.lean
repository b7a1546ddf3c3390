import SymbolCache.Glob.Expression
import SymbolCache.Glob.Pattern

/-!
# Matching paths against patterns

A pattern is matched against the bytes of a whole path. The places in a path are those in front of
its bytes and the one at its end. A token leads from some places to others, namely those where it
may end if it starts at one of them; a pattern matches if it leads from the start to the end.

A list of patterns is compiled at once. A malformed pattern and an expression that nests too deep
are refused.
-/

set_option autoImplicit false

/-!
## Strategies

Most patterns are decided without a regular expression: by comparing a text with the path, with its
start or its end, or with the file name or its extension. A path of which the last element is `..`
has no file name. A pattern for the last element alone is decided character by character.
-/

namespace SymbolCache.Glob

inductive Strategy where
  | text
  | fileName
  /-- By the extension of the file name and then by an expression. -/
  | extensionAndExpression
  /-- Character by character along the last element. -/
  | lastElement
  | expression
  deriving Repr, DecidableEq

def areLiteral (tokens : List Token) : Bool :=
  tokens.all fun
    | .literal _ => true
    | _ => false

def areLiteralWithout (characters : List Char) (tokens : List Token) : Bool :=
  tokens.all fun
    | .literal character => !characters.contains character
    | _ => false

def areText (tokens : List Token) : Bool :=
  !tokens.isEmpty && areLiteral tokens

def givesFileName : List Token → Bool
  | .recursivePrefix :: tokens => !tokens.isEmpty && areLiteralWithout ['/'] tokens
  | _ => false

def givesExtension : List Token → Bool
  | .recursivePrefix :: .zeroOrMore :: .literal '.' :: tokens
  | .zeroOrMore :: .literal '.' :: tokens => areLiteralWithout ['.', '/'] tokens
  | _ => false

def givesStart (tokens : List Token) : Bool :=
  match tokens.getLast? with
  | some .zeroOrMore => areText tokens.dropLast
  | some .recursiveSuffix => areLiteral tokens.dropLast
  | _ => false

/-- Whether a pattern is a text after `*`, `**/` or `**/*`. A slash alone does not count. -/
def givesEnd : List Token → Bool
  | .recursivePrefix :: .zeroOrMore :: tokens
  | .zeroOrMore :: tokens =>
    areText tokens && !(tokens.length == 1 && !areLiteralWithout ['/'] tokens)
  | .recursivePrefix :: tokens => areText tokens
  | _ => false

/-- Whether the reversed tokens of a pattern start with an extension and the dot in front of it. -/
def requiresExtension : List Token → Bool
  | .literal '/' :: _ => false
  | .literal '.' :: _ => true
  | .literal _ :: tokens => requiresExtension tokens
  | _ => false

def staysInElement : Token → Bool
  | .literal character => character != '/'
  | .charClass negated ranges =>
    (ranges.any fun range => range.1 ≤ '/' && '/' ≤ range.2) == negated
  | _ => false

def givesLastElement : List Token → Bool
  | .recursivePrefix :: tokens => !tokens.isEmpty && tokens.all staysInElement
  | _ => false

def Strategy.ofTokens (tokens : List Token) : Strategy :=
  if givesFileName tokens then .fileName
  else if areText tokens then .text
  else if givesExtension tokens then .fileName
  else if givesStart tokens || givesEnd tokens then .text
  else if requiresExtension tokens.reverse then .extensionAndExpression
  else if givesLastElement tokens then .lastElement
  else .expression

def Strategy.needsFileName : Strategy → Bool
  | .fileName | .extensionAndExpression => true
  | .text | .lastElement | .expression => false

def endsInParent (path : List UInt8) : Bool :=
  path.reverse.takeWhile (· != 0x2F) == [0x2E, 0x2E]

end SymbolCache.Glob

namespace SymbolCache.Glob

/-! ## Places -/

/-- Which places in a path belong to a set, from the start of the path to its end. -/
abbrev Places := List Bool

def union (first second : Places) : Places :=
  first.zipWith (· || ·) second

/-- The places right after a byte that is accepted and has a place of a set in front. -/
def afterByte (accepts : UInt8 → Bool) (path : List UInt8) (places : Places) : Places :=
  false :: path.zipWith (fun byte place => place && accepts byte) places

/-- The places of a set and all behind them. `reached` tells whether the set has a place in front of
these. -/
def onward (reached : Bool) : Places → Places
  | [] => []
  | place :: places => (reached || place) :: onward (reached || place) places

/-- The places right after a slash that has a place of a set somewhere in front. -/
def afterSlash (path : List UInt8) (places : Places) : Places :=
  afterByte (· == 0x2F) path (onward false places)

def afterBytes (path : List UInt8) : List UInt8 → Places → Places
  | [], places => places
  | byte :: bytes, places => afterBytes path bytes (afterByte (· == byte) path places)

/-! ## Tokens -/

/-- Whether a byte lies in a range of characters. The range runs from the last byte of its first
character to the first byte of its last; all their other bytes belong to it as well. -/
def rangeHasByte (range : Char × Char) (byte : UInt8) : Bool :=
  let first := characterBytes range.1
  let last := characterBytes range.2
  if range.1 == range.2 then first.contains byte
  else
    first.dropLast.contains byte || last.tail.contains byte ||
      (first.getLast?.getD 0 ≤ byte && byte ≤ last.headD 0)

mutual

def Token.places (path : List UInt8) (places : Places) : Token → Places
  | .literal character => afterBytes path (characterBytes character) places
  | .any => afterByte (fun _ => true) path places
  | .zeroOrMore => onward false places
  | .recursivePrefix => union places (afterSlash path places)
  | .recursiveSuffix => onward false (afterByte (· == 0x2F) path places)
  | .recursiveBetween =>
    let behind := afterByte (· == 0x2F) path places
    union behind (afterSlash path behind)
  | .charClass negated ranges =>
    afterByte (fun byte => (ranges.any fun range => rangeHasByte range byte) != negated) path places
  | .alternates branches => if areVoid branches then places else branchPlaces path places branches

def listPlaces (path : List UInt8) (places : Places) : List Token → Places
  | [] => places
  | token :: tokens => listPlaces path (token.places path places) tokens

def branchPlaces (path : List UInt8) (places : Places) : List (List Token) → Places
  | [] => places.map fun _ => false
  | branch :: branches =>
    if isVoidList branch then branchPlaces path places branches
    else union (listPlaces path places branch) (branchPlaces path places branches)

end

def startOf (path : List UInt8) : Places :=
  true :: path.map fun _ => false

def lead (tokens : List Token) (path : List UInt8) : Bool :=
  (listPlaces path (startOf path) tokens).getLast?.getD false

/-- Whether the tokens match a path. A pattern of `**` alone matches every path. -/
def tokensMatch (tokens : List Token) (path : List UInt8) : Bool :=
  match tokens with
  | [.recursivePrefix] => true
  | tokens =>
    !((Strategy.ofTokens tokens).needsFileName && endsInParent path) && lead tokens path

/-- A list of patterns, each with its tokens. A path is matched if one of them matches. -/
structure Matcher where
  patterns : List (List Token)
  deriving Repr

inductive Fault where
  | malformed (pattern : String) (error : Error)
  /-- The expression of a pattern that is decided by its extension too nests too deep. -/
  | tooDeep (expression : String)
  /-- An expression nests too deep, by its position among those that make up the rest. -/
  | tooDeepAt (position : Nat)
  deriving Repr, DecidableEq

def Fault.message : Fault → String
  | .malformed pattern error => "error parsing glob '" ++ pattern ++ "': " ++ error.message
  | .tooDeep expression => "error parsing glob '" ++ expression ++ "': error parsing pattern 0"
  | .tooDeepAt position => "error parsing pattern " ++ toString position

namespace Matcher

def parseAll : List String → Except Fault (List (List Token))
  | [] => .ok []
  | pattern :: patterns => do
    let tokens ← (parse pattern).mapError fun error => .malformed pattern error
    let others ← parseAll patterns
    return tokens :: others

/-- The first of some patterns that nests too deep. Those that are decided by their extension too
come first. -/
def tooDeep? (patterns : List (List Token)) : Option Fault :=
  let decidedBy (strategy : Strategy) :=
    patterns.filter fun tokens => Strategy.ofTokens tokens == strategy
  match (decidedBy .extensionAndExpression).find? isTooDeep with
  | some tokens => some (.tooDeep (expression tokens))
  | none => ((decidedBy .expression).findIdx? isTooDeep).map .tooDeepAt

def compile (patterns : List String) : Except Fault Matcher := do
  let patterns ← parseAll patterns
  match tooDeep? patterns with
  | some fault => throw fault
  | none => return ⟨patterns⟩

def accepts (matcher : Matcher) (path : String) : Bool :=
  matcher.patterns.any fun tokens => tokensMatch tokens path.toUTF8.toList

end Matcher

end SymbolCache.Glob
