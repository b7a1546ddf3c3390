import SymbolCache.Glob.Pattern
import SymbolCache.Text.Natural

/-!
# Patterns as regular expressions

The regular expression over bytes that a pattern stands for, and how deep it nests. Groups that hold
no token are left out of the expression, and so are alternatives that hold none.
-/

set_option autoImplicit false

namespace SymbolCache.Glob

def characterBytes (character : Char) : List UInt8 :=
  (String.singleton character).toUTF8.toList

mutual

def Token.isVoid : Token → Bool
  | .alternates branches => areVoid branches
  | _ => false

def isVoidList : List Token → Bool
  | [] => true
  | token :: tokens => token.isVoid && isVoidList tokens

def areVoid : List (List Token) → Bool
  | [] => true
  | branch :: branches => isVoidList branch && areVoid branches

end

/-! ## The expression -/

def operators : List Char :=
  ['\\', '.', '+', '*', '?', '(', ')', '|', '[', ']', '\x7b', '\x7d', '^', '$', '#', '&', '-', '~']

def hexDigit (value : Nat) : Char :=
  Char.ofNat (if value < 10 then '0'.toNat + value else 'a'.toNat + (value - 10))

def byteExpression (byte : UInt8) : List Char :=
  if byte < 0x80 then
    let character := Char.ofNat byte.toNat
    if operators.contains character then ['\\', character] else [character]
  else ['\\', 'x', hexDigit (byte.toNat / 16), hexDigit (byte.toNat % 16)]

def characterExpression (character : Char) : List Char :=
  (characterBytes character).flatMap byteExpression

def rangeExpression (range : Char × Char) : List Char :=
  if range.1 == range.2 then characterExpression range.1
  else characterExpression range.1 ++ '-' :: characterExpression range.2

mutual

def Token.expression : Token → List Char
  | .literal character => characterExpression character
  | .any => ['.']
  | .zeroOrMore => ['.', '*']
  | .recursivePrefix => "(?:/?|.*/)".toList
  | .recursiveSuffix => "/.*".toList
  | .recursiveBetween => "(?:/|/.*/)".toList
  | .charClass negated ranges =>
    '[' :: (if negated then ['^'] else []) ++ ranges.flatMap rangeExpression ++ [']']
  | .alternates branches =>
    if areVoid branches then []
    else "(?:".toList ++ List.intercalate ['|'] (branchExpressions branches) ++ [')']

def listExpression : List Token → List Char
  | [] => []
  | token :: tokens => token.expression ++ listExpression tokens

def branchExpressions : List (List Token) → List (List Char)
  | [] => []
  | branch :: branches =>
    if isVoidList branch then branchExpressions branches
    else listExpression branch :: branchExpressions branches

end

def expression (tokens : List Token) : String :=
  String.ofList ("(?-u)^".toList ++
    (match tokens with
      | [.recursivePrefix] => ".*".toList
      | tokens => listExpression tokens) ++ ['$'])

/-! ## Nesting -/

def classSize (ranges : List (Char × Char)) : Nat :=
  Text.total <| ranges.map fun range =>
    if range.1 == range.2 then (characterBytes range.1).length
    else (characterBytes range.1).length + (characterBytes range.2).length - 1

def Token.partCount : Token → Nat
  | .literal character => (characterBytes character).length
  | .recursiveSuffix => 2
  | .alternates branches => if areVoid branches then 0 else 1
  | _ => 1

def partCount (tokens : List Token) : Nat :=
  Text.total (tokens.map Token.partCount)

mutual

/-- How deep a token nests. Repetitions, groups, choices, sequences, classes and lists of members in
a class count one level each. -/
def Token.depth : Token → Nat
  | .literal _ | .any => 0
  | .zeroOrMore | .recursiveSuffix => 1
  | .recursivePrefix | .recursiveBetween => 4
  | .charClass _ ranges => if 1 < classSize ranges then 2 else 1
  | .alternates branches =>
    if areVoid branches then 0
    else
      (if 1 < (branches.filter fun branch => !isVoidList branch).length then 2 else 1) +
        branchDepth branches

def deepest : List Token → Nat
  | [] => 0
  | token :: tokens => max token.depth (deepest tokens)

def branchDepth : List (List Token) → Nat
  | [] => 0
  | branch :: branches =>
    max ((if 1 < partCount branch then 1 else 0) + deepest branch) (branchDepth branches)

end

def depthLimit : Nat := 250

/-- Whether the expression of a whole pattern, which is a sequence, nests too deep. -/
def isTooDeep (tokens : List Token) : Bool :=
  depthLimit < 1 + deepest tokens

end SymbolCache.Glob
