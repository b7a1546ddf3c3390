import SymbolCache.Program.Shell.Word
import SymbolCache.Text.Natural

/-!
# Tokens of the shell

A script is cut into words and operators. A line end is an operator as well. The text of a document
that a script holds stands after the line that asks for it, and is cut out with it.
-/

set_option autoImplicit false

namespace SymbolCache.Program.Shell

structure Mistake where
  line : Nat
  texts : List String
  /-- Whether the line in which it is found is shown after them. -/
  showsLine : Bool := false
  status : Nat := 2
  deriving Repr, DecidableEq

/-- The text of the mistake that something is not closed, in the plain language. -/
def Unclosed.message : Unclosed → String
  | .quotes | .singleQuotes => "Unterminated quoted string"
  | .backQuotes => "EOF in backquote substitution"
  | .script | .list => "end of file unexpected (expecting \")\")"
  | .braces => "Missing '\x7d'"
  | .expression => "Missing '))'"

def Unclosed.closing : Unclosed → String
  | .quotes => "\""
  | .singleQuotes => "\x27"
  | .backQuotes => "\x60"
  | .script | .expression | .list => ")"
  | .braces => "\x7d"

/-- The number of line ends in a text in front of the quote in it that is not closed. `quote?` is
the one that is open, with the number of line ends in front of it. -/
def linesToQuote (lines : Nat) (quote? : Option (Char × Nat)) : List Char → Nat
  | [] => (quote?.map Prod.snd).getD 0
  | '\\' :: character :: rest =>
    linesToQuote (if character == '\n' then lines + 1 else lines) quote? rest
  | character :: rest =>
    let lines := if character == '\n' then lines + 1 else lines
    match quote? with
    | some (quote, _) =>
      linesToQuote lines (if character == quote then none else quote?) rest
    | none =>
      let isQuote := character == '"' || character == '\x27'
      linesToQuote lines (if isQuote then some (character, lines) else none) rest

def Unclosed.mistake (language : Language) (line : Nat) (text : List Char) (mark : Unclosed) :
    Mistake :=
  let last := line + text.count '\n'
  let lastFilled := line + (Text.trimEndWhere (· == '\n') text).count '\n'
  match language with
  | .plain => { line := if mark = .braces then line else last, texts := [mark.message] }
  | .extended =>
    let isQuoted := mark = .quotes || mark = .singleQuotes
    { line :=
        if mark = .script then lastFilled + 1
        else if isQuoted then line + linesToQuote 0 none text
        else line
      texts := ["unexpected EOF while looking for matching \x60" ++ mark.closing ++ "'"]
      status := if mark = .list then 1 else 2 }

inductive TokenKind where
  | word (pieces : List Piece)
  | operator (text : String)
  /-- The number of a stream right before a redirection. -/
  | stream (number : Nat)
  /-- An arithmetic expression between two pairs of parentheses. -/
  | expression (text : List Char)
  | mistaken (mistake : Mistake)
  deriving Repr, DecidableEq

/-- A token, the number of its line, and its text in the script. -/
structure Token where
  kind : TokenKind
  line : Nat
  text : List Char
  deriving Repr, DecidableEq

def Token.shown (token : Token) : String :=
  match token.kind with
  | .operator "\n" => "newline"
  | .operator text => text
  | .stream number => toString number
  | .expression _ => "("
  | .word _ | .mistaken _ => String.ofList token.text

/-- The tokens of a script, and the documents in it in the order in which they are asked for. What
follows something that is not closed has no tokens. -/
structure Tokens where
  tokens : List Token := []
  documents : List (List Piece) := []

/-- A document that is asked for: the line that ends it, whether its text is filled in, and whether
tabs in front of its lines are left out. -/
structure DocumentMark where
  delimiter : List Char
  /-- Whether a line end is added to a last line that has none. -/
  endsLines : Bool
  isFilledIn : Bool
  dropsTabs : Bool

/-- The operators of the plain language, of which a longer one counts before a shorter one. -/
def plainOperators : List String :=
  ["<<-", "&&", "||", ";;", "<<", ">>", "<&", ">&", "<>", ">|", "\n", "&", "|", ";", "(", ")", "<",
    ">"]

def operatorTexts : Language → List String
  | .plain => plainOperators
  | .extended => ["<<<", "&>>", "&>", ";;&", ";&", "|&"] ++ plainOperators

def readOperator? (language : Language) (text : List Char) : Option (String × List Char) :=
  (operatorTexts language).findSome? fun operator =>
    (Text.dropPrefix? operator.toList text).map fun rest => (operator, rest)

def endsWord (character : Char) : Bool :=
  [' ', '\t', '\n', ';', '&', '|', '<', '>', '(', ')'].contains character

def readLines (mark : DocumentMark) : Nat → List Char → List Char × List Char
  | 0, text => ([], text)
  | _ + 1, [] => ([], [])
  | fuel + 1, text =>
    let line := text.takeWhile (· != '\n')
    let rest := (text.dropWhile (· != '\n')).drop 1
    let line := if mark.dropsTabs then line.dropWhile (· == '\t') else line
    if line == mark.delimiter then ([], rest)
    else if !text.contains '\n' then (if mark.endsLines then line ++ ['\n'] else line, [])
    else
      let (lines, rest) := readLines mark fuel rest
      (line ++ '\n' :: lines, rest)

def readDocuments (language : Language) :
    List DocumentMark → List Char → List (List Piece) × List Char
  | [], text => ([], text)
  | mark :: marks, text =>
    let (lines, rest) := readLines mark (text.length + 1) text
    let pieces :=
      if mark.isFilledIn then piecesOfDocument language lines
      else lines.map fun character => .character character true
    let (documents, rest) := readDocuments language marks rest
    (pieces :: documents, rest)

def documentMark (language : Language) (dropsTabs : Bool) (pieces : List Piece) :
    DocumentMark where
  endsLines := language = .extended
  delimiter := pieces.filterMap fun
    | .character character _ => some character
    | _ => none
  isFilledIn := (plainText? pieces).isSome
  dropsTabs

def lineCount (text : List Char) : Nat :=
  text.count '\n'

inductive Expected where
  | anything
  /-- The line that ends a document; tabs in front of its lines may be left out. -/
  | delimiter (dropsTabs : Bool)
  /-- A regular expression, in which parentheses and bars do not end it. -/
  | regular
  deriving Repr, DecidableEq

def Expected.afterOperator (operator : String) : Expected :=
  match operator with
  | "<<" => .delimiter false
  | "<<-" => .delimiter true
  | _ => .anything

def Expected.afterWord (language : Language) (pieces : List Piece) : Expected :=
  if language = .extended && plainText? pieces = some "=~" then .regular else .anything

/-- Reads a regular expression up to white space outside of its parentheses. It is fuelled by the
length. -/
def readRegular (language : Language) : Nat → Nat → List Char → Reading (List Piece × List Char)
  | 0, _, rest => .ok ([], rest)
  | _ + 1, _, [] => .ok ([], [])
  | fuel + 1, depth, character :: rest => do
    if depth = 0 && [' ', '\t', '\n', ')'].contains character then return ([], character :: rest)
    else if ['(', ')', '|', ' ', '\t', '<', '>', ';', '&'].contains character then
      let depth :=
        if character == '(' then depth + 1 else if character == ')' then depth - 1 else depth
      let (pieces, rest) ← readRegular language fuel depth rest
      return (.character character false :: pieces, rest)
    else
      let ends (next : Char) : Bool := endsWord next
      let (front, after) ← readWord language ends (rest.length + 2) (character :: rest)
      let (pieces, rest) ← readRegular language fuel depth after
      return (front ++ pieces, rest)

/-- Reads the alternatives of a pattern up to the parenthesis that closes them. It is fuelled by the
length. -/
def readGroup (language : Language) : Nat → Nat → List Char → Reading (List Piece × List Char)
  | 0, _, _ | _ + 1, _, [] => .error .script
  | fuel + 1, depth, character :: rest => do
    if endsWord character then
      let following := if character == '(' then depth + 1 else depth
      if character == ')' && depth = 0 then return ([.character ')' false], rest)
      let (pieces, rest) ←
        readGroup language fuel (if character == ')' then depth - 1 else following) rest
      return (.character character false :: pieces, rest)
    else
      let (front, after) ← readWord language endsWord (rest.length + 2) (character :: rest)
      let (pieces, rest) ← readGroup language fuel depth after
      return (front ++ pieces, rest)

def endsWithGroupSign (pieces : List Piece) : Bool :=
  match pieces.getLast? with
  | some (.character sign false) => ['?', '*', '+', '@', '!'].contains sign
  | _ => false

/-- Goes on after a part of a word if a group of patterns follows it. It is fuelled by the length.
-/
def readGroups (language : Language) :
    Nat → List Piece → List Char → Reading (List Piece × List Char)
  | 0, pieces, rest => .ok (pieces, rest)
  | fuel + 1, pieces, rest =>
    match language, endsWithGroupSign pieces, rest with
    | .extended, true, '(' :: inside => do
      let (group, after) ← readGroup language (inside.length + 1) 0 inside
      let (following, after) ← readWord language endsWord (after.length + 1) after
      readGroups language fuel (pieces ++ .character '(' false :: group ++ following) after
    | _, _, _ => .ok (pieces, rest)

def readGroupedWord (language : Language) (text : List Char) :
    Reading (List Piece × List Char) := do
  let (pieces, rest) ← readWord language endsWord (text.length + 1) text
  readGroups language (rest.length + 1) pieces rest

/-- Reads the front of an assignment to an element of a list, of one that adds to a value, or of one
that gives a list. -/
def readTarget? (text : List Char) : Option (Piece × List Char) := do
  let (name, rest) ← readName? text
  if !isName name then none
  let (subscript, rest) ← match rest with
    | '[' :: text => do
      let (subscript, rest) ← readSubscript? (text.length + 1) 0 text
      pure (some subscript, rest)
    | rest => pure (none, rest)
  match rest with
  | '+' :: '=' :: rest => return (.target name subscript true, rest)
  | '=' :: rest =>
    if subscript.isSome || rest.head? = some '(' then return (.target name subscript false, rest)
    else none
  | _ => none

def readTokenWord (language : Language) (expected : Expected) (text : List Char) :
    Reading (List Piece × List Char) := do
  let plain := readGroupedWord language text
  match language, expected, text with
  | .plain, _, _ => plain
  | .extended, .regular, _ => readRegular language (text.length + 1) 0 text
  | .extended, _, sign :: '(' :: rest =>
    if sign == '<' || sign == '>' then
      let (script, rest) ← readScriptText (rest.length + 1) false {} rest
      let (pieces, rest) ← readWord language endsWord (rest.length + 1) rest
      return (.pipe script (sign == '<') :: pieces, rest)
    else plain
  | .extended, _, _ =>
    match readTarget? text with
    | some (target, '(' :: rest) =>
      match readScriptText (rest.length + 1) false {} rest with
      | .ok (inside, rest) => return ([target, .list inside], rest)
      | .error .script => .error .list
      | .error mark => .error mark
    | some (target, rest) =>
      let (pieces, rest) ← readGroupedWord language rest
      return (target :: pieces, rest)
    | none => plain

def closes (depth : Nat) : List Char → Bool
  | [] => depth = 0
  | '(' :: rest => depth = 0 || closes (depth + 1) rest
  | ')' :: rest => depth ≤ 1 || closes (depth - 1) rest
  | _ :: rest => depth = 0 || closes depth rest

/-- Reads an arithmetic expression that stands between two pairs of parentheses. Others are those of
scripts. -/
def readDoubled? (language : Language) (text : List Char) :
    Option (Reading (List Char × List Char)) :=
  match language, text with
  | .extended, '(' :: '(' :: rest =>
    match readExpression 0 rest with
    | .ok found => some (.ok found)
    | .error mark => if closes 2 rest then none else some (.error mark)
  | _, _ => none

def startsPipe (language : Language) (text : List Char) : Bool :=
  match language, text with
  | .extended, '<' :: '(' :: _ | .extended, '>' :: '(' :: _ => true
  | _, _ => false

/-- Cuts a script into tokens. `asked` are the documents that were asked for on this line. It is
fuelled by the length of the script. -/
def cutTokens (language : Language) :
    Nat → Nat → List DocumentMark → Expected → List Char → Tokens
  | 0, _, _, _, _ => {}
  | _ + 1, _, _, _, [] => {}
  | fuel + 1, line, asked, expected, '\\' :: '\n' :: rest =>
    cutTokens language fuel (line + 1) asked expected rest
  | fuel + 1, line, asked, _, '\n' :: rest =>
    let (documents, after) := readDocuments language asked rest
    let next := line + 1 + lineCount (rest.take (rest.length - after.length))
    let following := cutTokens language fuel next [] .anything after
    { following with
      tokens := ⟨.operator "\n", line, []⟩ :: following.tokens
      documents := documents ++ following.documents }
  | fuel + 1, line, asked, expected, character :: rest =>
    let text := character :: rest
    let linesTo (after : List Char) : Nat :=
      line + lineCount (text.take (text.length - after.length))
    if character == ' ' || character == '\t' then
      cutTokens language fuel line asked expected rest
    else if character == '#' then
      cutTokens language fuel line asked expected (rest.dropWhile (· != '\n'))
    else
      let operator? :=
        if expected = .regular || startsPipe language text then none
        else readOperator? language text
      let doubled? := if expected = .regular then none else readDoubled? language text
      match doubled?, operator? with
      | some (.error mark), _ =>
        { tokens := [⟨.mistaken (mark.mistake language line text), line, []⟩] }
      | some (.ok (inside, after)), _ =>
        let following := cutTokens language fuel (linesTo after) asked .anything after
        { following with tokens := ⟨.expression inside, line, []⟩ :: following.tokens }
      | none, some (operator, rest) =>
        let following :=
          cutTokens language fuel line asked (.afterOperator operator) rest
        { following with tokens := ⟨.operator operator, line, []⟩ :: following.tokens }
      | none, none =>
        match readTokenWord language expected text with
        | .error mark => { tokens := [⟨.mistaken (mark.mistake language line text), line, []⟩] }
        | .ok (pieces, after) =>
          let asked := match expected with
            | .delimiter dropsTabs => asked ++ [documentMark language dropsTabs pieces]
            | _ => asked
          let following :=
            cutTokens language fuel (linesTo after) asked (.afterWord language pieces) after
          let own := text.take (text.length - after.length)
          let isStream := (own.length == 1 || language = .extended) &&
            own.all Text.isAsciiDigit && (after.head?.any fun next => next == '<' || next == '>')
          let kind : TokenKind :=
            if isStream then .stream (Text.digitsValue 0 own) else .word pieces
          { following with tokens := ⟨kind, line, own⟩ :: following.tokens }

def tokensOf (language : Language) (firstLine : Nat) (script : List Char) : Tokens :=
  cutTokens language (script.length + 1) firstLine [] .anything script

end SymbolCache.Program.Shell
