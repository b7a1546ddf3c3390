import SymbolCache.Symbol

/-!
# Package documentation

The declarations that the documentation of a package lists. Functions, methods, types, constants and
variables are declared in lines that are not indented; constants and variables also in groups
between parentheses. Every other line is prose or belongs to a body, and a declaration that cannot
be read is passed over.
-/

set_option autoImplicit false

namespace SymbolCache

structure Declaration where
  name : String
  kind : SymbolKind
  signature : Option String
  deriving Repr, DecidableEq

namespace Documentation

def isIdentifierCharacter (character : Char) : Bool :=
  Text.isAlphanumeric character || character == '_'

def spanIdentifier (text : List Char) : List Char × List Char :=
  text.span isIdentifierCharacter

/-- What follows the bracket that closes the one at the start of a text, where `depth` more brackets
are open. -/
def afterClosing? (opening closing : Char) : Nat → List Char → Option (List Char)
  | _, [] => none
  | depth, character :: rest =>
    if character == opening then afterClosing? opening closing (depth + 1) rest
    else if character == closing then
      match depth with
      | 0 => none
      | 1 => some rest
      | depth + 2 => afterClosing? opening closing (depth + 1) rest
    else afterClosing? opening closing depth rest

/-- Drops the dots that stand for what is left out at the end of a line, and white space before
them. -/
def dropElision (text : List Char) : List Char :=
  match Text.dropSuffix? ['.', '.', '.'] text with
  | some before => Text.trimEnd before
  | none => text

def signature? (text : List Char) : Option String :=
  if text.isEmpty then none else some (String.ofList text)

/-- The function that follows its keyword, or the method if a receiver in parentheses comes first.
The name must be followed by parameters, of types or of values. -/
def readFunction (text : List Char) : Option Declaration := do
  let text := Text.trim text
  let (kind, text) ←
    if text.head? = some '(' then do
      let after ← afterClosing? '(' ')' 0 text
      pure (SymbolKind.method, Text.trimStart after)
    else pure (SymbolKind.func, text)
  let (name, tail) := spanIdentifier text
  let tail := Text.trimEnd tail
  if name.isEmpty || !(tail.head? = some '(' || tail.head? = some '[') then none
  else return {
    name := String.ofList name
    kind
    signature := some (String.ofList ("func".toList ++ tail)) }

/-- The kind of a type, by the text that says what it is. -/
def typeKind (underlying : List Char) : SymbolKind :=
  if "struct".toList.isPrefixOf underlying then .struct
  else if "interface".toList.isPrefixOf underlying then .interface
  else .type

/-- The type that follows its keyword. A structure or an interface has no signature; another type
has what it is defined by, without an opening brace at the end. -/
def readType (text : List Char) : Option Declaration := do
  let (name, tail) := spanIdentifier (Text.trim text)
  if name.isEmpty then none
  else
    let tail := Text.trimStart tail
    let tail ←
      if tail.head? = some '[' then do
        let after ← afterClosing? '[' ']' 0 tail
        pure (Text.trimStart after)
      else pure tail
    let kind := typeKind tail
    return {
      name := String.ofList name
      kind
      signature :=
        if kind = .type then
          signature? (dropElision (Text.trim (Text.trimEndWhere (· == '\x7b') tail)))
        else none }

/-- Cuts a text before the first place where `mark` stands. -/
def cutBefore (mark : List Char) : List Char → List Char
  | [] => []
  | character :: rest =>
    if mark.isPrefixOf (character :: rest) then [] else character :: cutBefore mark rest

/-- Names with commas between them, and what follows the last one. It is fuelled by the length of
the text, as every name takes a character. -/
def readNames : Nat → List Char → List (List Char) × List Char
  | 0, text => ([], text)
  | fuel + 1, text =>
    match spanIdentifier text with
    | ([], text) => ([], text)
    | (name, after) =>
      match Text.trimStart after with
      | ',' :: next =>
        let (names, rest) := readNames fuel (Text.trimStart next)
        (name :: names, rest)
      | rest => ([name], rest)

/-- The constants or variables of one line: names, a type that is not always there, and a value and
a comment that do not matter. -/
def readValues (kind : SymbolKind) (text : List Char) : List Declaration :=
  let specification := dropElision (Text.trim (cutBefore ['/', '/'] text))
  let left := Text.trim (cutBefore ['='] specification)
  let (names, rest) := readNames left.length left
  let signature := signature? (Text.trim rest)
  names.map fun name => { name := String.ofList name, kind, signature }

/-- What a line outside of groups does: it opens a group, or it declares something or nothing. -/
inductive Line where
  | opensGroup (kind : SymbolKind)
  | declares (declarations : List Declaration)

/-- Values on the line of their keyword, or the group that the line opens. -/
def readValueLine (kind : SymbolKind) (text : List Char) : Line :=
  if Text.trim text = ['('] then .opensGroup kind else .declares (readValues kind text)

def readLine (line : List Char) : Line :=
  if line.head?.any Text.isWhiteSpace then .declares []
  else if let some text := Text.dropPrefix? "func ".toList line then
    .declares (readFunction text).toList
  else if let some text := Text.dropPrefix? "type ".toList line then
    .declares (readType text).toList
  else if let some text := Text.dropPrefix? "const ".toList line then readValueLine .const text
  else if let some text := Text.dropPrefix? "var ".toList line then readValueLine .var text
  else .declares []

def closesGroup (line : List Char) : Bool :=
  Text.trim line = [')']

/-- The declarations of a line in a group: a member is indented by a tab. -/
def readMember (kind : SymbolKind) (line : List Char) : List Declaration :=
  if line.head? = some '\t' then readValues kind (Text.trim line) else []

/-- The declarations of some lines, the first of which are in the given group, if in any. -/
def readLines : Option SymbolKind → List (List Char) → List Declaration
  | _, [] => []
  | some kind, line :: lines =>
    if closesGroup line then readLines none lines
    else readMember kind line ++ readLines (some kind) lines
  | none, line :: lines =>
    match readLine line with
    | .opensGroup kind => readLines (some kind) lines
    | .declares declarations => declarations ++ readLines none lines

/-- The declarations of the documentation of a package, in their order. -/
def declarations (text : String) : List Declaration :=
  readLines none (Text.lines text.toList)

end Documentation

end SymbolCache
