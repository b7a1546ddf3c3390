import SymbolCache.Toml.Scalar

/-!
# TOML documents

A document is read in two steps. The first gives its statements: keys with values, and headers of
tables and of arrays of tables. The second puts them into one table and refuses every statement that
defines something twice: a key, a table under two headers, a table under a header that dotted keys
made or the other way round, and any addition to an inline table or to an array.
-/

set_option autoImplicit false

namespace SymbolCache.Toml

/-- A value. What number a float is and what time a date is are not kept. -/
inductive Value where
  | string (text : String)
  | integer (value : Int)
  | float
  | boolean (value : Bool)
  | dateTime
  | array (elements : List Value)
  | table (entries : List (String × Value))
  deriving Repr

/-! ## Inline tables -/

/-- An inline table while it is read: dotted keys make tables that later dotted keys extend. -/
inductive Inline where
  | value (value : Value)
  | dotted (entries : List (String × Inline))

def lookup? {α : Type} (key : String) (entries : List (String × α)) : Option α :=
  (entries.find? fun entry => entry.1 == key).map Prod.snd

def putEntry {α : Type} (key : String) (value : α) : List (String × α) → List (String × α)
  | [] => [(key, value)]
  | (other, old) :: entries =>
    if other == key then (key, value) :: entries else (other, old) :: putEntry key value entries

def addInline (value : Value) : List String → List (String × Inline) →
    Option (List (String × Inline))
  | [], _ => none
  | [key], entries =>
    match lookup? key entries with
    | none => some (putEntry key (.value value) entries)
    | some _ => none
  | key :: path, entries =>
    match lookup? key entries with
    | none => (addInline value path []).map fun inner => putEntry key (.dotted inner) entries
    | some (.dotted inner) =>
      (addInline value path inner).map fun inner => putEntry key (.dotted inner) entries
    | some (.value _) => none

mutual

def Inline.toValue : Inline → Value
  | .value value => value
  | .dotted entries => .table (inlineEntries entries)

def inlineEntries : List (String × Inline) → List (String × Value)
  | [] => []
  | (key, entry) :: entries => (key, entry.toValue) :: inlineEntries entries

end

/-! ## Values -/

mutual

/-- Reads a value that may nest `depth` levels deeper. The fuel bounds the calls, of which no
character takes more than three. -/
def readValue : Nat → Nat → List Char → Option (Value × List Char)
  | 0, _, _ => none
  | fuel + 1, depth, text =>
    match text with
    | '[' :: rest =>
      match depth with
      | 0 => none
      | depth + 1 =>
        (readElements fuel depth rest).map fun (elements, rest) => (.array elements, rest)
    | '\x7b' :: rest =>
      match depth with
      | 0 => none
      | depth + 1 =>
        match skipBlank rest with
        | '\x7d' :: rest => some (.table [], rest)
        | rest =>
          (readPairs fuel depth [] rest).map fun (entries, rest) =>
            (.table (inlineEntries entries), rest)
    | 't' :: 'r' :: 'u' :: 'e' :: rest => some (.boolean true, rest)
    | 'f' :: 'a' :: 'l' :: 's' :: 'e' :: rest => some (.boolean false, rest)
    | text =>
      match readString text with
      | some (characters, rest) => some (.string (String.ofList characters), rest)
      | none =>
        match readDateTime? text with
        | some rest => some (.dateTime, rest)
        | none =>
          match readFloat? text with
          | some rest => some (.float, rest)
          | none => (readInteger text).map fun (value, rest) => (.integer value, rest)

/-- Reads the elements of an array and its closing bracket. The last element may have a comma. -/
def readElements : Nat → Nat → List Char → Option (List Value × List Char)
  | 0, _, _ => none
  | fuel + 1, depth, text => do
    match ← skipLines text.length text with
    | ']' :: rest => return ([], rest)
    | text =>
      let (element, rest) ← readValue fuel depth text
      match ← skipLines rest.length rest with
      | ',' :: rest =>
        let (elements, rest) ← readElements fuel depth rest
        return (element :: elements, rest)
      | ']' :: rest => return ([element], rest)
      | _ => none

/-- Reads the pairs of an inline table that has `entries` already, and its closing brace. -/
def readPairs : Nat → Nat → List (String × Inline) → List Char →
    Option (List (String × Inline) × List Char)
  | 0, _, _, _ => none
  | fuel + 1, depth, entries, text => do
    let (path, rest) ← readKey text
    let rest ← readMark? '=' rest
    let (value, rest) ← readValue fuel depth (skipBlank rest)
    let entries ← addInline value path entries
    match skipBlank rest with
    | ',' :: rest => readPairs fuel depth entries rest
    | '\x7d' :: rest => return (entries, rest)
    | _ => none

end

/-! ## Statements -/

inductive Statement where
  | assign (path : List String) (value : Value)
  | openTable (path : List String)
  | openElement (path : List String)
  deriving Repr

def readStatement (text : List Char) : Option (Statement × List Char) := do
  match text with
  | '[' :: '[' :: rest =>
    let (path, rest) ← readKey rest
    let rest ← readMark? ']' rest
    let rest ← readMark? ']' rest
    return (.openElement path, ← readLineEnd? rest)
  | '[' :: rest =>
    let (path, rest) ← readKey rest
    let rest ← readMark? ']' rest
    return (.openTable path, ← readLineEnd? rest)
  | text =>
    let (path, rest) ← readKey text
    let rest ← readMark? '=' rest
    let rest := skipBlank rest
    let (value, rest) ← readValue (3 * rest.length + 3) (nestingLimit - 1) rest
    return (.assign path value, ← readLineEnd? rest)

def readStatements : Nat → List Char → Option (List Statement)
  | 0, _ => none
  | fuel + 1, text => do
    match ← skipLines text.length text with
    | [] => return []
    | text =>
      let (statement, rest) ← readStatement text
      let statements ← readStatements fuel rest
      return statement :: statements

/-! ## Putting statements together -/

/-- What stands under a key while a document is put together. -/
inductive Node where
  | value (value : Value)
  /-- A table. It is implied as long as no header of its own has opened it, and dotted if dotted
  keys made it. -/
  | table (isImplied isDotted : Bool) (entries : List (String × Node))
  | tables (elements : List (List (String × Node)))

structure OpenTable where
  isDotted : Bool
  entries : List (String × Node)

/-- Changes the table that a path leads to. Missing tables on the way are made, and marked as dotted
if keys lead the way; keys do not lead through a table that a header has opened. -/
def changeAt (byKeys : Bool) (change : OpenTable → Option (List (String × Node))) :
    List String → OpenTable → Option (List (String × Node))
  | [], table => change table
  | key :: path, table =>
    match lookup? key table.entries with
    | none =>
      (changeAt byKeys change path ⟨byKeys, []⟩).map fun entries =>
        putEntry key (.table true byKeys entries) table.entries
    | some (.value _) => none
    | some (.table isImplied isDotted entries) =>
      if byKeys && !isImplied then none
      else
        (changeAt byKeys change path ⟨isDotted, entries⟩).map fun entries =>
          putEntry key (.table isImplied isDotted entries) table.entries
    | some (.tables []) => none
    | some (.tables (entries :: elements)) =>
      (changeAt byKeys change path ⟨false, entries⟩).map fun entries =>
        putEntry key (.tables (entries :: elements)) table.entries

def assignIn (path : List String) (value : Value) (entries : List (String × Node)) :
    Option (List (String × Node)) :=
  match path.getLast? with
  | none => none
  | some key =>
    changeAt true
      (fun table =>
        if table.isDotted == path.dropLast.isEmpty then none
        else
          match lookup? key table.entries with
          | none => some (putEntry key (.value value) table.entries)
          | some _ => none)
      path.dropLast ⟨false, entries⟩

/-- Opens the table of a header: a new one, or one that is implied but not dotted. -/
def openTableIn (path : List String) (entries : List (String × Node)) :
    Option (List (String × Node)) :=
  match path.getLast? with
  | none => none
  | some key =>
    changeAt false
      (fun table =>
        match lookup? key table.entries with
        | none => some (putEntry key (.table false false []) table.entries)
        | some (.table true false inner) =>
          some (putEntry key (.table false false inner) table.entries)
        | some _ => none)
      path.dropLast ⟨false, entries⟩

def openElementIn (path : List String) (entries : List (String × Node)) :
    Option (List (String × Node)) :=
  match path.getLast? with
  | none => none
  | some key =>
    changeAt false
      (fun table =>
        match lookup? key table.entries with
        | none => some (putEntry key (.tables [[]]) table.entries)
        | some (.tables elements) => some (putEntry key (.tables ([] :: elements)) table.entries)
        | some _ => none)
      path.dropLast ⟨false, entries⟩

/-- Adds a value to the table that the header with the path `header` has opened last. -/
def assignUnder (header path : List String) (value : Value) (entries : List (String × Node)) :
    Option (List (String × Node)) :=
  changeAt false (fun table => assignIn path value table.entries) header ⟨false, entries⟩

/-- Puts statements together, from the entries so far and the path of the current header. -/
def assemble (header : List String) (entries : List (String × Node)) :
    List Statement → Option (List (String × Node))
  | [] => some entries
  | .assign path value :: statements => do
    assemble header (← assignUnder header path value entries) statements
  | .openTable path :: statements => do
    assemble path (← openTableIn path entries) statements
  | .openElement path :: statements => do
    assemble path (← openElementIn path entries) statements

mutual

def Node.toValue : Node → Value
  | .value value => value
  | .table _ _ entries => .table (nodeEntries entries)
  | .tables elements => .array (nodeTables elements).reverse

def nodeEntries : List (String × Node) → List (String × Value)
  | [] => []
  | (key, node) :: entries => (key, node.toValue) :: nodeEntries entries

def nodeTables : List (List (String × Node)) → List Value
  | [] => []
  | entries :: elements => .table (nodeEntries entries) :: nodeTables elements

end

def skipByteOrderMark : List Char → List Char
  | '\ufeff' :: rest => rest
  | text => text

def read? (text : String) : Option (List (String × Value)) := do
  let text := skipByteOrderMark text.toList
  let statements ← readStatements (text.length + 1) text
  let entries ← assemble [] [] statements
  return nodeEntries entries

end SymbolCache.Toml
