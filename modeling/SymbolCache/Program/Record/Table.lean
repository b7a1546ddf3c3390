import Std.Data.HashMap
import SymbolCache.Program.Record.Value

/-!
# Tables of values

A table has values by their keys, which are texts or whole numbers. Its keys have an order that
hangs on how they were used: they stand in rows, in each of which the one that was used last comes
first. The rows of a table with only numbers as keys are arranged by the numbers until the keys are
needed as texts.
-/

set_option autoImplicit false

namespace SymbolCache.Program.Record

inductive Key where
  | text (text : String)
  | number (number : Int)
  deriving Repr, DecidableEq

def Key.shown : Key → String
  | .text content => content
  | .number value => toString value

structure Table where
  values : Std.HashMap String Value := {}
  texts : Array (List String) := #[]
  numbers : Array (List Int) := #[]
  hasTexts : Bool := false
  /-- Whether the keys are the numbers from one on and are not arranged at all. -/
  isList : Bool := false

namespace Table

def firstRows : Nat := 64

def rowLength : Nat := 12

def hashOf (text : String) : UInt32 :=
  text.toList.foldl (fun hash letter => (hash ^^^ letter.val) * 16777619) 2166136261

def textRow (rows : Nat) (text : String) : Nat :=
  (hashOf text).toNat % rows

def numberRow (rows : Nat) (number : Int) : Nat :=
  (number % rows).toNat

def ofList (values : List Value) : Table where
  values := Std.HashMap.ofList
    ((List.range values.length).map (fun index => toString (index + 1)) |>.zip values)
  isList := !values.isEmpty

def arranged (table : Table) : Table :=
  if table.isList then
    let size := table.values.size
    let rows := (List.range size).foldl
      (fun rows _ => if rows * rowLength < size then 2 * rows else rows) firstRows
    let numbers := (List.range size).foldl
      (fun numbers index =>
        numbers.modify (numberRow rows (index + 1 : Nat)) fun row => (index + 1 : Nat) :: row)
      (Array.replicate rows [])
    { table with isList := false, numbers, texts := Array.replicate rows [] }
  else if table.texts.isEmpty then
    { table with
      texts := Array.replicate firstRows []
      numbers := Array.replicate firstRows [] }
  else table

def withTexts (table : Table) : Table :=
  let table := table.arranged
  if table.hasTexts then table
  else
    let place (texts : Array (List String)) (number : Int) : Array (List String) :=
      let text := toString number
      texts.modify (textRow texts.size text) fun row => text :: row
    { table with
      hasTexts := true
      texts := table.numbers.foldl (fun texts row => row.foldl place texts) table.texts }

def spread {α : Type} (row : Nat → α → Nat) (rows : Array (List α)) : Array (List α) :=
  let size := 2 * rows.size
  let parts (index : Nat) : List (List α) :=
    rows.toList.map fun keys => keys.filter fun key => row size key / rows.size == index
  (parts 0 ++ parts 1).toArray

def grown (table : Table) : Table :=
  if rowLength * table.texts.size < table.values.size then
    { table with
      texts := spread textRow table.texts
      numbers := spread numberRow table.numbers }
  else table

def textInFront (table : Table) (text : String) : Table :=
  { table with
    texts := table.texts.modify (textRow table.texts.size text) fun row =>
      text :: row.filter (· != text) }

def numberInFront (table : Table) (number : Int) : Table :=
  { table with
    numbers := table.numbers.modify (numberRow table.numbers.size number) fun row =>
      number :: row.filter (· != number) }

def addText (table : Table) (text : String) : Table :=
  let table := table.withTexts
  let table :=
    if table.values.contains text then table
    else { table with values := table.values.insert text .missing }.grown
  table.textInFront text

def add (table : Table) : Key → Table
  | .text text => table.addText text
  | .number number =>
    let text := toString number
    if table.isList && table.values.contains text then table
    else
      let table := table.arranged
      let isKnown := (table.numbers[numberRow table.numbers.size number]?.getD []).contains number
      let table :=
        if isKnown then table
        else if table.hasTexts then table.addText text
        else if table.values.contains text then table
        else { table with values := table.values.insert text .missing }.grown
      table.numberInFront number

def contains (table : Table) (key : Key) : Bool :=
  table.values.contains key.shown

def asked (table : Table) (key : Key) : Table :=
  if table.contains key then table.add key
  else
    match key with
    | .text _ => if table.values.isEmpty then table else table.withTexts
    | .number _ => table

def value (table : Table) (key : Key) : Value :=
  table.values.getD key.shown .missing

def put (table : Table) (key : Key) (value : Value) : Table :=
  let table := table.add key
  { table with values := table.values.insert key.shown value }

def erase (table : Table) (key : Key) : Table :=
  let text := key.shown
  if !table.values.contains text then table.asked key
  else
    let table := table.arranged.add key
    let values := table.values.erase text
    if values.isEmpty then {}
    else
      { table with
        values
        texts := table.texts.map fun row => row.filter (· != text)
        numbers := table.numbers.map fun row => row.filter fun number => toString number != text }

/-- The keys of a table in their order, and the table after they have been asked for. -/
def keys (table : Table) : List String × Table :=
  let table := table.withTexts
  (table.texts.toList.flatten, table)

end Table

end SymbolCache.Program.Record
