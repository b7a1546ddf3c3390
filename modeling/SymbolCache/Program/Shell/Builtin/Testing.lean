import SymbolCache.Program.Shell.Builtin.Declaring
import SymbolCache.Program.Utility.Condition

/-!
# Tests of the extended language

Conditions as words of a command. What a word means depends on how many words there are.
-/

set_option autoImplicit false

namespace SymbolCache.Program.Shell.Builtin

/-! ## Single tests -/

def isSet (state : State) (word : String) : Bool :=
  match Declared.ofWord? word with
  | some { name, key := some key, .. } =>
    if key = "@" || key = "*" then (state.scope.elements? name).any (! ·.entries.isEmpty)
    else (state.valueAt? { name, key := some key }).isSome
  | _ => (state.lookup? word).isSome

def passes (state : State) (operator word : String) : Bool :=
  match operator with
  | "-v" => isSet state word
  | "-o" => state.scope.isOn word
  | "-a" => state.disk.contains word
  | "-R" => (state.scope.traitsOf word).contains 'n' && (state.lookup? word).isSome
  | operator => Utility.Condition.holdsOf state.disk operator word

def wholeNumber (word : String) : Except String Int :=
  match Utility.Condition.integer word with
  | .ok value => .ok value
  | .error _ => .error (word ++ ": integer expression expected")

/-- Whether two words are to each other as an operator tells, or what is wrong with them. -/
def passesBetween (state : State) (left operator right : String) : Except String Bool := do
  match operator with
  | "=" | "==" => return left == right
  | "!=" => return left != right
  | "<" => return left < right
  | ">" => return right < left
  | "-nt" => return state.disk.contains left && !state.disk.contains right
  | "-ot" => return !state.disk.contains left && state.disk.contains right
  | "-ef" =>
    match Utility.Condition.holdsBetween state.disk left operator right with
    | .ok holds => return holds
    | .error _ => return false
  | _ =>
    let first ← wholeNumber left
    let second ← wholeNumber right
    match operator with
    | "-eq" => return first == second
    | "-ne" => return first != second
    | "-ge" => return second ≤ first
    | "-gt" => return second < first
    | "-le" => return first ≤ second
    | _ => return first < second

def isBetween (word : String) : Bool :=
  word != "=~" && (Reader.binaryOperators ++ ["<", ">"]).contains word

/-! ## Words of a test -/

/-- A truth value and the words that are left. -/
abbrev Verdict := Except String (Bool × List String)

mutual

/-- Reads tests of which one has to hold. All readers are fuelled by the number of words. -/
def readAnyTest (state : State) (fuel : Nat) (words : List String) : Verdict :=
  match fuel with
  | 0 => .error "argument expected"
  | fuel + 1 => do
    match ← readAllTests state fuel words with
    | (holds, "-o" :: words) =>
      let (others, words) ← readAnyTest state fuel words
      return (holds || others, words)
    | verdict => return verdict

def readAllTests (state : State) (fuel : Nat) (words : List String) : Verdict :=
  match fuel with
  | 0 => .error "argument expected"
  | fuel + 1 => do
    match ← readOneTest state fuel words with
    | (holds, "-a" :: words) =>
      let (others, words) ← readAllTests state fuel words
      return (holds && others, words)
    | verdict => return verdict

def readOneTest (state : State) (fuel : Nat) (words : List String) : Verdict :=
  match fuel, words with
  | 0, _ | _, [] => .error "argument expected"
  | fuel + 1, "!" :: words => do
    let (holds, words) ← readOneTest state fuel words
    return (!holds, words)
  | fuel + 1, "(" :: words => do
    match ← readAnyTest state fuel words with
    | (holds, ")" :: words) => return (holds, words)
    | (_, []) => throw "\x60)' expected"
    | (_, word :: _) => throw ("\x60)' expected, found " ++ word)
  | _ + 1, word :: rest => do
    match rest with
    | operator :: right :: after =>
      if isBetween operator then
        return (← passesBetween state word operator right, after)
      else if Reader.isUnaryOperator word then
        return (passes state word operator, right :: after)
      else return (!word.isEmpty, rest)
    | [operand] =>
      if Reader.isUnaryOperator word then return (passes state word operand, [])
      else return (!word.isEmpty, rest)
    | [] =>
      if Reader.isUnaryOperator word then throw "argument expected"
      else return (!word.isEmpty, [])

end

def wholeTest (state : State) (words : List String) : Except String Bool := do
  match ← readAnyTest state (4 * words.length + 4) words with
  | (holds, []) => return holds
  | _ => throw "too many arguments"

def testWords (state : State) : List String → Except String Bool
  | [] => .ok false
  | [word] => .ok (!word.isEmpty)
  | ["!", word] => .ok word.isEmpty
  | [operator, word] =>
    if Reader.isUnaryOperator operator then .ok (passes state operator word)
    else .error (operator ++ ": unary operator expected")
  | [left, operator, right] =>
    if isBetween operator then passesBetween state left operator right
    else if operator = "-a" then .ok (!left.isEmpty && !right.isEmpty)
    else if operator = "-o" then .ok (!left.isEmpty || !right.isEmpty)
    else if left = "!" then (testWords state [operator, right]).map Bool.not
    else if left = "(" && right = ")" then .ok (!operator.isEmpty)
    else .error (operator ++ ": binary operator expected")
  | ["!", first, second, third] => (testWords state [first, second, third]).map Bool.not
  | ["(", first, second, ")"] => testWords state [first, second]
  | words => wholeTest state words

def runTest (name : String) (words : List String) : Run Unit := do
  let state ← get
  let result :=
    if name != "[" then testWords state words
    else if words.getLast? = some "]" then testWords state words.dropLast
    else .error "missing \x60]'"
  match result with
  | .ok holds => Run.setStatus (if holds then 0 else 1)
  | .error text => Run.refuse 2 (name ++ ": " ++ text)

end SymbolCache.Program.Shell.Builtin
