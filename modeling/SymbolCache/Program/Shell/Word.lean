import SymbolCache.Text.Cut
import SymbolCache.Text.Lossy

/-!
# Words of the shell

A word of a script is a sequence of pieces: characters, quoted or not, and what is filled in when
the word is used, namely the values of names, the output of commands and the results of arithmetic.
What stands inside braces, parentheses or back quotes is kept as text and read when it is used.

There are two languages of scripts: the plain one, and an extended one with more kinds of words,
values and commands.
-/

set_option autoImplicit false

namespace SymbolCache.Program.Shell

inductive Language where
  | plain
  | extended
  deriving Repr, DecidableEq

/-- Which matches of a pattern are replaced. -/
inductive ReplacedPlace where
  | first
  | all
  | start
  | finish
  deriving Repr, DecidableEq

inductive ValueUse where
  | whole
  | length
  /-- Another word in its place, if it is not set, or if it is empty as well. -/
  | orElse (alsoEmpty : Bool) (word : List Char)
  /-- The same, and the name gets the other word as its value. -/
  | orAssign (alsoEmpty : Bool) (word : List Char)
  /-- Another word if it is set, and not empty as well. -/
  | andThen (alsoEmpty : Bool) (word : List Char)
  /-- An end of the script if it is not set, or if it is empty as well. -/
  | orFail (alsoEmpty : Bool) (word : List Char)
  /-- The value without a front that matches a pattern. -/
  | dropFront (longest : Bool) (pattern : List Char)
  /-- The value without an end that matches a pattern. -/
  | dropEnd (longest : Bool) (pattern : List Char)
  /-- A part of the value, by where it starts and perhaps how long it is. -/
  | part (start : List Char) (length : Option (List Char))
  /-- The value with another text in place of what matches a pattern. -/
  | replace (place : ReplacedPlace) (pattern replacement : List Char)
  /-- The value with the letters that match a pattern in upper or lower case, or only the first
  one. -/
  | changeCase (toUpper all : Bool) (pattern : List Char)
  /-- The value in a form that a letter stands for. -/
  | form (letter : Char)
  deriving Repr, DecidableEq

/-- What values are those of, other than a name. -/
inductive Reference where
  | element (name : String) (subscript : List Char)
  /-- The name, or element of a list, that a name holds. -/
  | indirect (name : String)
  | keys (name : String) (joins : Bool)
  | names (start : String) (joins : Bool)
  deriving Repr, DecidableEq

inductive Piece where
  | character (character : Char) (isQuoted : Bool)
  | empty
  /-- The home directory of a user, or of the one that runs the shell. -/
  | home (user : String)
  | value (name : String) (use : ValueUse) (isQuoted : Bool)
  /-- What a script prints that stands between parentheses or back quotes. -/
  | output (script : List Char) (hasParentheses isQuoted : Bool)
  | result (expression : List Char) (isQuoted : Bool)
  | reference (reference : Reference) (use : ValueUse) (isQuoted : Bool)
  /-- A path under which a script can be written to, or what it prints can be read. -/
  | pipe (script : List Char) (isRead : Bool)
  /-- The front of an assignment to an element of a list, or of one that adds to a value. -/
  | target (name : String) (subscript : Option (List Char)) (adds : Bool)
  | list (text : List Char)
  /-- Braces with a text in which there is no name and no use of one. -/
  | invalid (text : List Char)
  deriving Repr, DecidableEq

/-- What is opened in a word and not closed. -/
inductive Unclosed where
  | quotes
  | singleQuotes
  | backQuotes
  | script
  | braces
  | expression
  | list
  deriving Repr, DecidableEq

/-- The result of reading, unless something is not closed. -/
abbrev Reading (α : Type) := Except Unclosed α

/-! ## Nested text -/

def readSingle (text : List Char) : Reading (List Char × List Char) :=
  match text.dropWhile (· != '\x27') with
  | [] => .error .singleQuotes
  | _ :: rest => .ok (text.takeWhile (· != '\x27'), rest)

/-- Reads an arithmetic expression up to two parentheses that close none of the open ones. -/
def readExpression (depth : Nat) : List Char → Reading (List Char × List Char)
  | [] => .error .expression
  | '\\' :: character :: rest =>
    (readExpression depth rest).map
      fun (inside, rest) => ('\\' :: character :: inside, rest)
  | '(' :: rest =>
    (readExpression (depth + 1) rest).map fun (inside, rest) => ('(' :: inside, rest)
  | ')' :: rest =>
    if depth = 0 && rest.head? = some ')' then .ok ([], rest.tail)
    else
      (readExpression (depth - 1) rest).map fun (inside, rest) => (')' :: inside, rest)
  | character :: rest =>
    (readExpression depth rest).map fun (inside, rest) => (character :: inside, rest)

/-- What has been seen of a script that ends at a closing parenthesis. -/
structure ScriptScan where
  depth : Nat := 0
  /-- How many were open where each selection starts that has not ended. In it a parenthesis ends a
  pattern. -/
  selections : List Nat := []
  startsCommand : Bool := true
  /-- The characters of the word so far, the last one first. -/
  word : List Char := []

namespace ScriptScan

def endWord (scan : ScriptScan) : ScriptScan :=
  let rest := { scan with word := [], startsCommand := false }
  if scan.word.isEmpty then scan
  else if !scan.startsCommand then rest
  else
    match String.ofList scan.word.reverse with
    | "case" => { rest with selections := scan.depth :: scan.selections }
    | "esac" => { rest with selections := scan.selections.tail }
    | "do" | "then" | "else" | "elif" | "if" | "while" | "until" | "!" | "\x7b" =>
      { rest with startsCommand := true }
    | _ => rest

/-- Sees a character that is not quoted. The parenthesis that ends the script gives nothing. -/
def see? (scan : ScriptScan) (character : Char) : Option ScriptScan :=
  let ended := { scan.endWord with startsCommand := true }
  match character with
  | ' ' | '\t' | '<' | '>' => some scan.endWord
  | '\n' | ';' | '&' | '|' => some ended
  | '(' => some { ended with depth := scan.depth + 1 }
  | ')' =>
    if ended.selections.head? = some scan.depth then some ended
    else if scan.depth = 0 then none
    else some { ended with depth := scan.depth - 1 }
  | character => some { scan with word := character :: scan.word }

end ScriptScan

/-- Reads a script up to the parenthesis that ends it, past quotes. `quoted` tells whether double
quotes are open. It is fuelled by the length. -/
def readScriptText : Nat → Bool → ScriptScan → List Char → Reading (List Char × List Char)
  | 0, _, _, _ => .error .script
  | _ + 1, quoted, _, [] => .error (if quoted then .quotes else .script)
  | fuel + 1, quoted, scan, '\\' :: character :: rest =>
    (readScriptText fuel quoted { scan with word := '\\' :: scan.word } rest).map
      fun (inside, rest) => ('\\' :: character :: inside, rest)
  | fuel + 1, false, scan, '\x27' :: rest => do
    let (text, rest) ← readSingle rest
    let (inside, rest) ←
      readScriptText fuel false { scan with word := '\x27' :: scan.word } rest
    return ('\x27' :: text ++ '\x27' :: inside, rest)
  | fuel + 1, quoted, scan, '"' :: rest =>
    (readScriptText fuel (!quoted) { scan with word := '"' :: scan.word } rest).map
      fun (inside, rest) => ('"' :: inside, rest)
  | fuel + 1, quoted, scan, character :: rest =>
    match if quoted then some scan else scan.see? character with
    | none => .ok ([], rest)
    | some scan =>
      (readScriptText fuel quoted scan rest).map
        fun (inside, rest) => (character :: inside, rest)

/-- Reads up to the next back quote. A backslash there takes the meaning from another one, from a
dollar sign and from a back quote. -/
def readBackQuoted : List Char → Reading (List Char × List Char)
  | [] => .error .backQuotes
  | '\x60' :: rest => .ok ([], rest)
  | '\\' :: character :: rest =>
    (readBackQuoted rest).map fun (inside, rest) =>
      (if ['\\', '$', '\x60'].contains character then character :: inside
        else '\\' :: character :: inside, rest)
  | character :: rest =>
    (readBackQuoted rest).map fun (inside, rest) => (character :: inside, rest)

/-- Reads a text as it stands, up to the next back quote that has no backslash in front. -/
def readToBackQuote : List Char → Reading (List Char × List Char)
  | [] => .error .backQuotes
  | '\x60' :: rest => .ok ([], rest)
  | '\\' :: character :: rest =>
    (readToBackQuote rest).map fun (inside, rest) => ('\\' :: character :: inside, rest)
  | character :: rest =>
    (readToBackQuote rest).map fun (inside, rest) => (character :: inside, rest)

/-- Reads a text as it stands, up to the brace that closes it, past quotes and what is filled in.
`isQuoted` tells whether the braces are in double quotes, and `inner` whether double quotes are open
inside of them. It is fuelled by the length. -/
def readBraces : Nat → Bool → Bool → List Char → Reading (List Char × List Char)
  | 0, _, _, _ => .error .braces
  | _ + 1, isQuoted, inner, [] => .error (if isQuoted || inner then .quotes else .braces)
  | fuel + 1, isQuoted, inner, '\\' :: character :: rest =>
    (readBraces fuel isQuoted inner rest).map
      fun (inside, rest) => ('\\' :: character :: inside, rest)
  | fuel + 1, false, false, '\x27' :: rest => do
    let (text, rest) ← readSingle rest
    let (inside, rest) ← readBraces fuel false false rest
    return ('\x27' :: text ++ '\x27' :: inside, rest)
  | fuel + 1, isQuoted, inner, '"' :: rest =>
    (readBraces fuel isQuoted (!inner) rest).map fun (inside, rest) => ('"' :: inside, rest)
  | fuel + 1, isQuoted, inner, '\x60' :: rest => do
    let (script, rest) ← readToBackQuote rest
    let (inside, rest) ← readBraces fuel isQuoted inner rest
    return ('\x60' :: script ++ '\x60' :: inside, rest)
  | fuel + 1, isQuoted, inner, '$' :: '(' :: '(' :: rest => do
    let (expression, rest) ← readExpression 0 rest
    let (inside, rest) ← readBraces fuel isQuoted inner rest
    return (['$', '(', '('] ++ expression ++ ')' :: ')' :: inside, rest)
  | fuel + 1, isQuoted, inner, '$' :: '(' :: rest => do
    let (script, rest) ← readScriptText (rest.length + 1) false {} rest
    let (inside, rest) ← readBraces fuel isQuoted inner rest
    return ('$' :: '(' :: script ++ ')' :: inside, rest)
  | fuel + 1, isQuoted, inner, '$' :: '\x7b' :: rest => do
    let (nested, rest) ← readBraces fuel (isQuoted || inner) false rest
    let (inside, rest) ← readBraces fuel isQuoted inner rest
    return ('$' :: '\x7b' :: nested ++ '\x7d' :: inside, rest)
  | fuel + 1, isQuoted, inner, character :: rest =>
    if character == '\x7d' && !inner then .ok ([], rest)
    else
      (readBraces fuel isQuoted inner rest).map fun (inside, rest) => (character :: inside, rest)

/-! ## Names -/

def signNames : List Char :=
  ['$', '?', '#', '@', '*', '!', '-']

def readName? : List Char → Option (String × List Char)
  | [] => none
  | first :: rest =>
    if signNames.contains first || Text.isAsciiDigit first then
      some (String.singleton first, rest)
    else if Text.isAsciiWord first then
      some (String.ofList (first :: rest.takeWhile Text.isAsciiWord),
        rest.dropWhile Text.isAsciiWord)
    else none

def isName (text : String) : Bool :=
  match text.toList with
  | [] => false
  | first :: rest => (first :: rest).all Text.isAsciiWord && !Text.isAsciiDigit first

/-- Reads a subscript up to the bracket that closes it, past brackets in it and quotes. It is
fuelled by the length. -/
def readSubscript? : Nat → Nat → List Char → Option (List Char × List Char)
  | 0, _, _ | _ + 1, _, [] => none
  | fuel + 1, depth, '\\' :: character :: rest =>
    (readSubscript? fuel depth rest).map
      fun (inside, rest) => ('\\' :: character :: inside, rest)
  | fuel + 1, depth, character :: rest =>
    if character == ']' && depth = 0 then some ([], rest)
    else if character == '"' || character == '\x27' then
      let text := rest.takeWhile (· != character)
      (readSubscript? fuel depth (rest.drop (text.length + 1))).map
        fun (inside, rest) => (character :: text ++ character :: inside, rest)
    else
      let depth :=
        if character == '[' then depth + 1 else if character == ']' then depth - 1 else depth
      (readSubscript? fuel depth rest).map fun (inside, rest) => (character :: inside, rest)

def startsPattern (language : Language) (text : List Char) : Bool :=
  let signs : List Char := match language with
    | .plain => ['#', '%']
    | .extended => ['#', '%', '/', '^', ',']
  match readName? text with
  | some (_, '[' :: rest) =>
    language = .extended && match readSubscript? (rest.length + 1) 0 rest with
      | some (_, sign :: _) => signs.contains sign
      | _ => false
  | some (_, sign :: _) => signs.contains sign
  | _ => false

/-- Cuts a text at the first of some characters that is neither quoted nor inside of braces or
parentheses. It is fuelled by the length. -/
def cutAt (isEnd : Char → Bool) : Nat → List Char → List Char × Option (List Char)
  | 0, text => (text, none)
  | _ + 1, [] => ([], none)
  | fuel + 1, '\\' :: character :: rest =>
    let (front, after) := cutAt isEnd fuel rest
    ('\\' :: character :: front, after)
  | fuel + 1, '$' :: '\x7b' :: rest =>
    match readBraces fuel false false rest with
    | .ok (inside, rest) =>
      let (front, after) := cutAt isEnd fuel rest
      ('$' :: '\x7b' :: inside ++ '\x7d' :: front, after)
    | .error _ => ('$' :: '\x7b' :: rest, none)
  | fuel + 1, character :: rest =>
    if isEnd character then ([], some rest)
    else if character == '"' || character == '\x27' then
      let text := rest.takeWhile (· != character)
      let (front, after) := cutAt isEnd fuel (rest.drop (text.length + 1))
      (character :: text ++ character :: front, after)
    else
      let (front, after) := cutAt isEnd fuel rest
      (character :: front, after)

/-- How a value is used, by what follows the name in braces, in the plain language. -/
def readPlainUse? : List Char → Option ValueUse
  | [] => some .whole
  | ':' :: '-' :: word => some (.orElse true word)
  | '-' :: word => some (.orElse false word)
  | ':' :: '=' :: word => some (.orAssign true word)
  | '=' :: word => some (.orAssign false word)
  | ':' :: '+' :: word => some (.andThen true word)
  | '+' :: word => some (.andThen false word)
  | ':' :: '?' :: word => some (.orFail true word)
  | '?' :: word => some (.orFail false word)
  | '#' :: '#' :: pattern => some (.dropFront true pattern)
  | '#' :: pattern => some (.dropFront false pattern)
  | '%' :: '%' :: pattern => some (.dropEnd true pattern)
  | '%' :: pattern => some (.dropEnd false pattern)
  | _ => none

def replaceUse (place : ReplacedPlace) (text : List Char) : ValueUse :=
  let (pattern, replacement) := cutAt (· == '/') (text.length + 1) text
  .replace place pattern (replacement.getD [])

def readUse? (language : Language) (text : List Char) : Option ValueUse :=
  (readPlainUse? text).orElse fun () =>
    match language, text with
    | .plain, _ => none
    | .extended, ':' :: bounds =>
      let (start, length) := cutAt (· == ':') (bounds.length + 1) bounds
      some (.part start length)
    | .extended, '/' :: '/' :: text => some (replaceUse .all text)
    | .extended, '/' :: '#' :: text => some (replaceUse .start text)
    | .extended, '/' :: '%' :: text => some (replaceUse .finish text)
    | .extended, '/' :: text => some (replaceUse .first text)
    | .extended, '^' :: '^' :: pattern => some (.changeCase true true pattern)
    | .extended, '^' :: pattern => some (.changeCase true false pattern)
    | .extended, ',' :: ',' :: pattern => some (.changeCase false true pattern)
    | .extended, ',' :: pattern => some (.changeCase false false pattern)
    | .extended, ['@', letter] => some (.form letter)
    | .extended, _ => none

def referencePiece? (language : Language) (isQuoted : Bool) (name : String) (rest : List Char) :
    Option Piece :=
  match language, rest with
  | .extended, '[' :: text => do
    let (subscript, rest) ← readSubscript? (text.length + 1) 0 text
    return .reference (.element name subscript) (← readUse? language rest) isQuoted
  | _, rest => (readUse? language rest).map fun use => .value name use isQuoted

def indirectPiece? (isQuoted : Bool) (name : String) : List Char → Option Piece
  | ['@'] => some (.reference (.names name false) .whole isQuoted)
  | ['*'] => some (.reference (.names name true) .whole isQuoted)
  | ['[', '@', ']'] => some (.reference (.keys name false) .whole isQuoted)
  | ['[', '*', ']'] => some (.reference (.keys name true) .whole isQuoted)
  | rest => (readUse? .extended rest).map fun use => .reference (.indirect name) use isQuoted

def pieceOfBraces? (language : Language) (isQuoted : Bool) (inside : List Char) : Option Piece :=
  let digits := inside.takeWhile Text.isAsciiDigit
  match inside with
  | '#' :: second :: rest =>
    match language, readName? (second :: rest) with
    | _, some (name, []) => some (.value name .length isQuoted)
    | .extended, some (name, '[' :: text) =>
      match readSubscript? (text.length + 1) 0 text with
      | some (subscript, []) => some (.reference (.element name subscript) .length isQuoted)
      | _ => none
    | _, _ => (readUse? language (second :: rest)).map fun use => .value "#" use isQuoted
  | _ =>
    match language, inside with
    | .extended, '!' :: first :: rest =>
      match readName? (first :: rest) with
      | some (name, rest) =>
        if isName name || name.toList.all Text.isAsciiDigit then
          indirectPiece? isQuoted name rest
        else none
      | none => none
    | _, _ =>
      if digits.isEmpty then do
        let (name, rest) ← readName? inside
        referencePiece? language isQuoted name rest
      else
        (readUse? language (inside.drop digits.length)).map
          fun use => .value (String.ofList digits) use isQuoted

/-- Reads what follows a dollar sign, which stands for itself if there is nothing to read. -/
def readDollar (language : Language) (isQuoted : Bool) (text : List Char) :
    Reading (Piece × List Char) :=
  let fuel := text.length + 1
  match text with
  | '(' :: '(' :: rest => do
    let (expression, rest) ← readExpression 0 rest
    return (.result expression isQuoted, rest)
  | '(' :: rest => do
    let (script, rest) ← readScriptText fuel false {} rest
    return (.output script true isQuoted, rest)
  | '\x7b' :: rest => do
    let (inside, rest) ← readBraces fuel (isQuoted && !startsPattern language rest) false rest
    return ((pieceOfBraces? language isQuoted inside).getD (.invalid inside), rest)
  | '[' :: rest =>
    match language, readSubscript? fuel 0 rest with
    | .extended, some (expression, rest) => return (.result expression isQuoted, rest)
    | _, _ => return (.character '$' isQuoted, text)
  | text =>
    match readName? text with
    | some (name, rest) => .ok (.value name .whole isQuoted, rest)
    | none => .ok (.character '$' isQuoted, text)

/-! ## Escapes in quotes -/

def readDigits (base : Nat) : Nat → Nat → List Char → Nat × List Char
  | 0, value, rest => (value, rest)
  | _ + 1, value, [] => (value, [])
  | count + 1, value, digit :: rest =>
    let number :=
      if Text.isAsciiDigit digit then digit.toNat - '0'.toNat
      else if 'a' ≤ digit.toLower && digit.toLower ≤ 'f' then digit.toLower.toNat - 'a'.toNat + 10
      else base
    if number < base then readDigits base count (base * value + number) rest
    else (value, digit :: rest)

def byteText (value : Nat) : List Char :=
  Text.lettersOf [value.toUInt8]

/-- Reads the escape after a backslash: what it stands for and what follows it. -/
def readQuotedEscape (text : List Char) : List Char × List Char :=
  let digits (base count : Nat) (rest : List Char) (change : Nat → List Char) :
      List Char × List Char :=
    let (value, after) := readDigits base count 0 rest
    if after.length = rest.length then ('\\' :: text.take 1, rest) else (change value, after)
  match text with
  | 'a' :: rest => (['\x07'], rest)
  | 'b' :: rest => (['\x08'], rest)
  | 'e' :: rest | 'E' :: rest => (['\x1b'], rest)
  | 'f' :: rest => (['\x0c'], rest)
  | 'n' :: rest => (['\n'], rest)
  | 'r' :: rest => (['\r'], rest)
  | 't' :: rest => (['\t'], rest)
  | 'v' :: rest => (['\x0b'], rest)
  | 'x' :: rest => digits 16 2 rest byteText
  | 'u' :: rest => digits 16 4 rest fun value => [Char.ofNat value]
  | 'U' :: rest => digits 16 8 rest fun value => [Char.ofNat value]
  | 'c' :: character :: rest => ([Char.ofNat (character.toUpper.toNat % 32)], rest)
  | character :: rest =>
    if '0' ≤ character && character ≤ '7' then digits 8 3 (character :: rest) byteText
    else if ['\\', '\x27', '"', '?'].contains character then ([character], rest)
    else (['\\', character], rest)
  | [] => (['\\'], [])

/-- Reads a text in single quotes in which there are escapes. It is fuelled by the length. -/
def readEscapedQuotes : Nat → List Char → Reading (List Char × List Char)
  | 0, _ | _ + 1, [] => .error .singleQuotes
  | _ + 1, '\x27' :: rest => .ok ([], rest)
  | fuel + 1, '\\' :: rest => do
    let (characters, rest) := readQuotedEscape rest
    let (text, rest) ← readEscapedQuotes fuel rest
    return (characters ++ text, rest)
  | fuel + 1, character :: rest => do
    let (text, rest) ← readEscapedQuotes fuel rest
    return (character :: text, rest)

/-! ## Reading words -/

/-- Where a text is that is read as in double quotes. -/
inductive Enclosure where
  | quotes
  /-- In braces that are in double quotes. Quotes in it are dropped. -/
  | braces
  /-- In a document or an expression. Quotes in it stand for themselves. -/
  | document
  deriving Repr, DecidableEq

def Enclosure.escapes (enclosure : Enclosure) (character : Char) : Bool :=
  ['$', '\x60', '\\'].contains character || character == '"' && enclosure != .document ||
    character == '\x7d' && enclosure == .braces

/-- Reads a text as in double quotes, up to their end if there has to be one. It is fuelled by the
length of the text. -/
def readDouble (language : Language) (enclosure : Enclosure) :
    Nat → List Char → Reading (List Piece × List Char)
  | 0, _ => .error .quotes
  | _ + 1, [] => if enclosure = .quotes then .error .quotes else .ok ([], [])
  | fuel + 1, '\\' :: '\n' :: rest => readDouble language enclosure fuel rest
  | fuel + 1, '\\' :: character :: rest => do
    let (pieces, rest) ← readDouble language enclosure fuel rest
    if enclosure.escapes character then return (.character character true :: pieces, rest)
    else return (.character '\\' true :: .character character true :: pieces, rest)
  | fuel + 1, '$' :: rest => do
    let (piece, rest) ← readDollar language true rest
    let (pieces, rest) ← readDouble language enclosure fuel rest
    return (piece :: pieces, rest)
  | fuel + 1, '\x60' :: rest => do
    let (script, rest) ← readBackQuoted rest
    let (pieces, rest) ← readDouble language enclosure fuel rest
    return (.output script false true :: pieces, rest)
  | fuel + 1, character :: rest =>
    if character == '"' && enclosure = .quotes then .ok ([], rest)
    else if character == '"' && enclosure = .braces then readDouble language enclosure fuel rest
    else do
      let (pieces, rest) ← readDouble language enclosure fuel rest
      return (.character character true :: pieces, rest)

/-- Reads a word up to a character that ends it. It is fuelled by the length of the text. -/
def readWord (language : Language) (ends : Char → Bool) :
    Nat → List Char → Reading (List Piece × List Char)
  | 0, _ => .error .quotes
  | _ + 1, [] => .ok ([], [])
  | fuel + 1, '\\' :: '\n' :: rest => readWord language ends fuel rest
  | fuel + 1, '\\' :: character :: rest => do
    let (pieces, rest) ← readWord language ends fuel rest
    return (.character character true :: pieces, rest)
  | fuel + 1, '\x27' :: rest => do
    let (text, rest) ← readSingle rest
    let (pieces, rest) ← readWord language ends fuel rest
    return (.empty :: text.map (fun character => .character character true) ++ pieces, rest)
  | fuel + 1, '"' :: rest => do
    let (text, rest) ← readDouble language .quotes (rest.length + 1) rest
    let (pieces, rest) ← readWord language ends fuel rest
    return (.empty :: text ++ pieces, rest)
  | fuel + 1, '$' :: rest =>
    match language, rest with
    | .extended, '\x27' :: rest => do
      let (text, rest) ← readEscapedQuotes (rest.length + 1) rest
      let text := Text.lettersOf (Text.encodeLetters text)
      let (pieces, rest) ← readWord language ends fuel rest
      return (.empty :: text.map (fun character => .character character true) ++ pieces, rest)
    | .extended, '"' :: _ => readWord language ends fuel rest
    | _, _ => do
      let (piece, rest) ← readDollar language false rest
      let (pieces, rest) ← readWord language ends fuel rest
      return (piece :: pieces, rest)
  | fuel + 1, '\x60' :: rest => do
    let (script, rest) ← readBackQuoted rest
    let (pieces, rest) ← readWord language ends fuel rest
    return (.output script false false :: pieces, rest)
  | fuel + 1, character :: rest =>
    if ends character then .ok ([], character :: rest)
    else do
      let (pieces, rest) ← readWord language ends fuel rest
      return (.character character false :: pieces, rest)

def piecesOfDocument (language : Language) (text : List Char) : List Piece :=
  match readDouble language .document (text.length + 1) text with
  | .ok (pieces, _) => pieces
  | .error _ => []

/-- The pieces of a text that is the word in braces, which may be in double quotes. -/
def piecesOf (language : Language) (isQuoted : Bool) (text : List Char) : List Piece :=
  match if isQuoted then readDouble language .braces (text.length + 1) text
    else readWord language (fun _ => false) (text.length + 1) text with
  | .ok (pieces, _) => pieces
  | .error _ => []

/-! ## Home directories -/

/-- The pieces of a word in which a tilde and a name stand for a home directory, if they are all
that is in front of a slash or of another sign that ends them. -/
def withHomeInFront (ends : Char → Bool) (pieces : List Piece) : List Piece :=
  match pieces with
  | .character '~' false :: rest =>
    let isEnd (piece : Piece) : Bool :=
      match piece with
      | .character character false => character == '/' || ends character
      | _ => true
    let name := rest.takeWhile fun piece => !isEnd piece
    let user := String.ofList (name.filterMap fun
      | .character character _ => some character
      | _ => none)
    match rest.drop name.length with
    | [] => [.home user]
    | .character character false :: after =>
      .home user :: .character character false :: after
    | _ => pieces
  | pieces => pieces

def withHome (pieces : List Piece) : List Piece :=
  withHomeInFront (fun _ => false) pieces

/-- The pieces of a value that is given to a name, in which home directories are marked in front and
after colons. -/
def withHomes (pieces : List Piece) : List Piece :=
  let colon : Piece := .character ':' false
  [colon].intercalate ((pieces.splitOnP (· = colon)).map (withHomeInFront (· == ':')))

/-! ## Plain words -/

def plainText? (pieces : List Piece) : Option String :=
  (pieces.mapM fun
    | Piece.character character false => some character
    | _ => none).map String.ofList

/-- An assignment to a name or to an element of a list. -/
structure Assignment where
  name : String
  subscript : Option (List Char) := none
  /-- Whether the value is added to the one that is there. -/
  adds : Bool := false
  value : List Piece
  deriving Repr, DecidableEq

def assignment? (pieces : List Piece) : Option Assignment :=
  let name := pieces.takeWhile (· ≠ .character '=' false)
  match pieces with
  | .target name subscript adds :: value => some { name, subscript, adds, value }
  | _ =>
    match plainText? name, pieces.drop name.length with
    | some text, _ :: value => if isName text then some { name := text, value } else none
    | _, _ => none

end SymbolCache.Program.Shell
