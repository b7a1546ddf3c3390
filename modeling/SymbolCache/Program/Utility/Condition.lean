import SymbolCache.Program.Permission
import SymbolCache.Program.Utility.Basic
import SymbolCache.Program.Utility.Format

/-!
# Conditions

Conditions on texts, numbers and files, as words that are joined by operators. A word counts as an
operator only where one can stand.
-/

set_option autoImplicit false

namespace SymbolCache.Program.Utility.Condition

inductive Fault where
  | missingBracket
  | closingExpected
  | argumentExpected (word : String)
  | unexpectedOperator (word : String)
  | illegalNumber (word : String)

def Fault.message : Fault → String
  | .missingBracket => "missing ]"
  | .closingExpected => "closing paren expected"
  | .argumentExpected word => word ++ ": argument expected"
  | .unexpectedOperator word => word ++ ": unexpected operator"
  | .illegalNumber word => "Illegal number: " ++ word

inductive Kind where
  | operand
  | unary
  | binary
  | conjunction
  | disjunction
  | negation
  | opening
  | closing
  deriving Repr, DecidableEq

def unaryOperators : List String :=
  ["-r", "-w", "-x", "-e", "-f", "-d", "-c", "-b", "-p", "-u", "-g", "-k", "-s", "-t", "-z", "-n",
    "-h", "-L", "-O", "-G", "-S"]

def binaryOperators : List String :=
  ["=", "!=", "<", ">", "-eq", "-ne", "-ge", "-gt", "-le", "-lt", "-nt", "-ot", "-ef"]

def operatorKind (word : String) : Kind :=
  if unaryOperators.contains word then .unary
  else if binaryOperators.contains word then .binary
  else
    match word with
    | "-a" => .conjunction
    | "-o" => .disjunction
    | "!" => .negation
    | "(" => .opening
    | ")" => .closing
    | _ => .operand

/-- What the first of some words is, if there is one. An operator before one word is a word itself
at the end and in front of an operator between two words. -/
def kind? : List String → Option Kind
  | [] => none
  | word :: rest =>
    let isAlone : Bool := match rest with
      | [] => true
      | [_] => false
      | next :: _ => operatorKind next == .binary
    match operatorKind word with
    | .unary => some (if isAlone then .operand else .unary)
    | .opening => some (if rest.isEmpty then .operand else .opening)
    | kind => some kind

/-! ## Tests -/

def integer (word : String) : Except Fault Int :=
  let (sign, digits) := match Text.trim word.toList with
    | '-' :: digits => ((-1 : Int), digits)
    | '+' :: digits => (1, digits)
    | digits => (1, digits)
  let value := sign * Text.digitsValue 0 digits
  if digits.isEmpty || !digits.all Text.isAsciiDigit || 62 < value.natAbs.log2 then
    .error (.illegalNumber word)
  else .ok value

def isDevice (disk : Disk) (path : String) : Bool :=
  match disk.locate path with
  | .ok location => location.head? = some "dev" && disk.contains path && !disk.isDirectory path
  | .error _ => false

def isProgram (disk : Disk) (path : String) : Bool :=
  match disk.locate path with
  | .ok location =>
    disk.contains path && !isDevice disk path &&
      (location.dropLast.contains "bin" ||
        Permission.isRunnable (Permission.of disk location (.file .empty)))
  | .error _ => false

def holdsOf (disk : Disk) (operator word : String) : Bool :=
  match operator with
  | "-z" => word.isEmpty
  | "-n" => !word.isEmpty
  | "-e" | "-r" | "-w" => disk.contains word
  | "-f" =>
    disk.contains word && !disk.isDirectory word && !isDevice disk word &&
      !Permission.isPipe disk word
  | "-d" => disk.isDirectory word
  | "-s" => (disk.size? word).any (0 < ·) && !isDevice disk word && !Permission.isPipe disk word
  | "-x" => disk.isDirectory word || isProgram disk word
  | "-c" => isDevice disk word
  | "-p" => Permission.isPipe disk word
  | "-O" | "-G" => disk.contains word
  | _ => false

def holdsBetween (disk : Disk) (left operator right : String) : Except Fault Bool := do
  match operator with
  | "=" => return left == right
  | "!=" => return left != right
  | "<" => return left < right
  | ">" => return right < left
  | "-nt" | "-ot" => return false
  | "-ef" =>
    return disk.contains left && disk.contains right &&
      (disk.locate left).toOption == (disk.locate right).toOption
  | _ =>
    let first ← integer left
    let second ← integer right
    match operator with
    | "-eq" => return first == second
    | "-ne" => return first != second
    | "-ge" => return second ≤ first
    | "-gt" => return second < first
    | "-le" => return first ≤ second
    | _ => return first < second

/-! ## Reading conditions -/

/-- A truth value, and the words from the last one on that was read. -/
abbrev Verdict := Except Fault (Bool × List String)

def readBetween (disk : Disk) : List String → Verdict
  | left :: operator :: right :: rest => do
    return (← holdsBetween disk left operator right, right :: rest)
  | [_, operator] => .error (.argumentExpected operator)
  | words => .ok (false, words)

mutual

def readAny (disk : Disk) (fuel : Nat) (words : List String) : Verdict :=
  match fuel with
  | 0 => .ok (false, words)
  | fuel + 1 => do
    let (holds, words) ← readAll disk fuel words
    if kind? words.tail = some .disjunction then
      let (others, words) ← readAny disk fuel (words.drop 2)
      return (holds || others, words)
    else return (holds, words)

def readAll (disk : Disk) (fuel : Nat) (words : List String) : Verdict :=
  match fuel with
  | 0 => .ok (false, words)
  | fuel + 1 => do
    let (holds, words) ← readNegated disk fuel words
    if kind? words.tail = some .conjunction then
      let (others, words) ← readAll disk fuel (words.drop 2)
      return (holds && others, words)
    else return (holds, words)

def readNegated (disk : Disk) (fuel : Nat) (words : List String) : Verdict :=
  match fuel with
  | 0 => .ok (false, words)
  | fuel + 1 => do
    if kind? words = some .negation then
      if words.tail.isEmpty then return (true, words)
      else
        let (holds, words) ← readNegated disk fuel words.tail
        return (!holds, words)
    else readPrimary disk fuel words

def readPrimary (disk : Disk) (fuel : Nat) (words : List String) : Verdict :=
  match fuel with
  | 0 => .ok (false, words)
  | fuel + 1 => do
    match kind? words, words with
    | some .opening, _ :: rest =>
      if kind? rest = some .closing then return (false, rest)
      else
        let (holds, words) ← readAny disk fuel rest
        if kind? words.tail = some .closing then return (holds, words.tail)
        else throw .closingExpected
    | some .unary, operator :: word :: rest => return (holdsOf disk operator word, word :: rest)
    | _, [] => return (false, [])
    | _, word :: rest =>
      if kind? rest = some .binary then readBetween disk (word :: rest)
      else return (!word.isEmpty, word :: rest)

end

/-- Whether a condition holds. Three words with an operator in the middle are always a test, and
parentheses around one or two words always belong to them. -/
def evaluate (disk : Disk) (words : List String) : Except Fault Bool := do
  let fuel := 8 * words.length + 8
  let (holds, words) ← match words with
    | [] => pure (false, [])
    | [left, operator, right] =>
      if operatorKind operator = .binary then readBetween disk [left, operator, right]
      else if left = "(" && right = ")" then readAny disk fuel [operator]
      else readAny disk fuel words
    | ["(", first, second, ")"] => readAny disk fuel [first, second]
    | words => readAny disk fuel words
  match words with
  | last :: _ :: _ => throw (.unexpectedOperator last)
  | _ => return holds

def test (dialect : Dialect) (disk : Disk) (name : String) (words : List String) : Outcome :=
  let result :=
    if name != "[" then evaluate disk words
    else if words.getLast? = some "]" then evaluate disk words.dropLast
    else .error .missingBracket
  match result with
  | .ok holds => .ofBool holds
  | .error fault => .failure 2 (dialect.front name ++ ": " ++ fault.message ++ "\n")

end SymbolCache.Program.Utility.Condition
