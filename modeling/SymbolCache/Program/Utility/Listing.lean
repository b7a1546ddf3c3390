import SymbolCache.Program.Permission
import SymbolCache.Program.Utility.Line
import SymbolCache.Program.Utility.Tree

/-!
# Listings

What is in directories, and what is known of files: their kinds, sizes and permissions. All files
are owned by the same user.
-/

set_option autoImplicit false

namespace SymbolCache.Program.Utility

/-! ## What is known of an entry -/

def owner : String := "root"

def Entry.size (entry : Entry) : Nat :=
  match entry.node with
  | .directory => Disk.directorySize
  | .file content => content.size

def blockSize : Nat := 4096

def Entry.room (entry : Entry) (unit : Nat) : Nat :=
  (entry.size + blockSize - 1) / blockSize * (blockSize / unit)

def Entry.permission (disk : Disk) (entry : Entry) : Nat :=
  Permission.of disk entry.location entry.node

def Entry.isPipe (disk : Disk) (entry : Entry) : Bool :=
  Permission.isPipeAt disk entry.location

def Entry.mode (disk : Disk) (entry : Entry) : String :=
  let kind := if entry.isDirectory then "d" else if entry.isPipe disk then "p" else "-"
  kind ++ Permission.text (entry.permission disk)

def Entry.links (disk : Disk) (entry : Entry) : Nat :=
  if entry.isDirectory then
    2 + ((entry.children disk).filter Entry.isDirectory).length
  else 1

/-! ## Forms of listings -/

inductive Arrangement where
  | lines
  | details
  | commas
  /-- In columns, which are filled one after the other or all at once. -/
  | columns (across : Bool)
  deriving Repr, DecidableEq

def Arrangement.ofOptions (options : Options) : Arrangement :=
  let given := options.given.reverse.find? fun option =>
    ['1', 'l', 'n', 'g', 'o', 'm', 'x', 'C'].contains option.1
  match given.map Prod.fst with
  | some 'm' => .commas
  | some 'x' => .columns true
  | some 'C' => .columns false
  | some '1' => if ['l', 'n', 'g', 'o'].any options.has then .details else .lines
  | some _ => .details
  | none => .lines

def shownName (options : Options) (disk : Disk) (entry : Entry) (name : String) : String :=
  let name := if options.has 'Q' then "\"" ++ (name.replace "\"" "\\\"") ++ "\""
    else if options.has 'b' then name.replace " " "\\ " else name
  let mark :=
    if entry.isDirectory then (if options.has 'F' || options.has 'p' then "/" else "")
    else if options.has 'F' && entry.isPipe disk then "|"
    else if options.has 'F' && Permission.isRunnable (entry.permission disk) then "*"
    else ""
  name ++ mark

def lineWidth : Nat := 80

/-- Names with commas between them, in lines of some width. `position` is where the line ends. -/
def withCommas (position : Nat) : List String → String
  | [] => "\n"
  | [name] => name ++ "\n"
  | name :: next :: names =>
    let after := position + name.length + 2
    let isFull := lineWidth ≤ after + next.length
    name ++ (if isFull then ",\n" else ", ") ++
      withCommas (if isFull then 0 else after) (next :: names)

/-- Blanks from one place in a line to another, with tabulators as far as they fit. It is fuelled by
the distance. -/
def blanks : Nat → Nat → Nat → String
  | 0, _, _ => ""
  | fuel + 1, start, goal =>
    if goal ≤ start then ""
    else
      let stop := (start / 8 + 1) * 8
      if (start + 1) / 8 < goal / 8 then "\t" ++ blanks fuel stop goal
      else " " ++ blanks fuel (start + 1) goal

def columnsOf (across : Bool) (count : Nat) (names : List String) : List (List String) :=
  let rows := (names.length + count - 1) / count
  (List.range count).map fun column =>
    (names.zipIdx.filter fun (_, index) =>
      if across then index % count = column else index / rows = column).map Prod.fst

def columnWidth (names : List String) : Nat :=
  names.foldl (fun width name => max width (name.length + 2)) 0

def inColumns (across : Bool) (names : List String) : String :=
  let most := max 1 (min names.length (lineWidth / 3))
  let fits (count : Nat) : Bool :=
    let columns := columnsOf across count names
    columns.all (!·.isEmpty) && Text.total (columns.map columnWidth) - 2 < lineWidth
  let count := (((List.range most).map (· + 1)).reverse.find? fits).getD 1
  let columns := columnsOf across count names
  let rows := (names.length + count - 1) / count
  let row (index : Nat) : String :=
    let cells := columns.filterMap fun column => column[index]?.map fun name =>
      (name, columnWidth column)
    let start : String × Nat × Nat := ("", 0, 0)
    let (line, _, _) := cells.foldl
      (fun (line, position, goal) (name, width) =>
        (line ++ blanks goal position goal ++ name, goal + name.length, goal + width)) start
    line ++ "\n"
  String.join ((List.range rows).map row)

def detailLines (options : Options) (disk : Disk) (entries : List (Entry × String)) : String :=
  let widest (text : Entry → String) : Nat :=
    entries.foldl (fun width (entry, _) => max width (text entry).length) 0
  let right (text : Entry → String) (entry : Entry) : String :=
    String.ofList (alignRight (widest text) (text entry).toList)
  let links (entry : Entry) : String := toString (entry.links disk)
  let size (entry : Entry) : String := toString entry.size
  let who := if options.has 'n' then "0" else owner
  String.join (entries.map fun (entry, name) =>
    " ".intercalate ([entry.mode disk, right links entry] ++
      (if options.has 'g' then [] else [who]) ++ (if options.has 'o' then [] else [who]) ++
      [right size entry, "Jan  1 00:00", name]) ++ "\n")

def listEntries (options : Options) (disk : Disk) (entries : List (Entry × String)) : String :=
  let shown := entries.map fun (entry, name) => (entry, shownName options disk entry name)
  let room (entry : Entry) : String := toString (entry.room 1024)
  let width := shown.foldl (fun width (entry, _) => max width (room entry).length) 0
  let sized := shown.map fun (entry, name) =>
    if options.has 's' then
      (entry, String.ofList (alignRight width (room entry).toList) ++ " " ++ name)
    else (entry, name)
  let names := sized.map Prod.snd
  if names.isEmpty then ""
  else
    match Arrangement.ofOptions options with
    | .lines => String.join (names.map fun name => name ++ "\n")
    | .details => detailLines options disk sized
    | .commas => withCommas 0 names
    | .columns across => inColumns across names

/-! ## Order -/

def endingOf (name : String) : String :=
  match Text.splitLast '.' name.toList with
  | some (_, ending) => "." ++ String.ofList ending
  | none => ""

def inOrder (options : Options) (entries : List (Entry × String)) : List (Entry × String) :=
  let byName := entries.mergeSort fun left right => decide (left.2 ≤ right.2)
  let ordered :=
    if options.has 'S' then byName.mergeSort fun left right => right.1.size ≤ left.1.size
    else if options.has 'X' then
      byName.mergeSort fun left right => decide (endingOf left.2 ≤ endingOf right.2)
    else if options.has 'U' || options.has 'f' then entries
    else byName
  if options.has 'r' then ordered.reverse else ordered

/-! ## Directories -/

/-- The entries in a directory that are shown; those that start with a dot only if asked for. -/
def shownEntries (options : Options) (disk : Disk) (directory : Entry) :
    List (Entry × String) :=
  let children := (directory.children disk).map fun entry => (entry, entry.name)
  let above : Entry := { directory with location := directory.location.dropLast }
  if options.has 'a' || options.has 'f' then
    (directory, ".") :: (above, "..") :: children
  else if options.has 'A' then children
  else children.filter fun (_, name) => !name.startsWith "."

/-- The parts of the text for a directory and, if asked for, for those below it. It is fuelled by
the depth. -/
def directoryParts (options : Options) (disk : Disk) (hasTitle : Bool) :
    Nat → Entry → List String
  | 0, _ => []
  | fuel + 1, directory =>
    let entries := inOrder options (shownEntries options disk directory)
    let room := Text.total (entries.map fun (entry, _) => entry.room 1024)
    let hasRoom := Arrangement.ofOptions options = .details || options.has 's'
    let part := (if hasTitle then directory.path ++ ":\n" else "") ++
      (if hasRoom then "total " ++ toString room ++ "\n" else "") ++
      listEntries options disk entries
    let below :=
      if options.has 'R' then
        (entries.filter fun (entry, name) => entry.isDirectory && name ≠ "." && name ≠ "..").flatMap
          fun (entry, _) => directoryParts options disk hasTitle fuel entry
      else []
    part :: below

def ls : Utility :=
  withOptions
    { name := "ls", status := 2, plain := "aAbcCdfFgGhHilLmnNopqQrRsStuUvxX1", valued := "ITw"
      attached := "k"
      long := [("all", 'a'), ("almost-all", 'A'), ("color", 'k'), ("directory", 'd'),
        ("escape", 'b'), ("quote-name", 'Q'), ("recursive", 'R'), ("reverse", 'r'), ("size", 's')] }
    fun options => do
      let disk := (← get).disk
      let paths := if options.words.isEmpty then ["."] else options.words
      let found := paths.map fun path => (path, entryAt disk path)
      let complaints := found.filterMap fun (path, entry) =>
        match entry with
        | .error error => some (fileFailure 2 "ls" ("cannot access " ++ quoted path) error)
        | .ok _ => none
      let entries := inOrder options (found.filterMap fun (path, entry) =>
        entry.toOption.map fun entry => (entry, path))
      let (directories, files) := entries.partition fun (entry, _) =>
        entry.isDirectory && !options.has 'd'
      let hasTitle := 1 < paths.length || options.has 'R'
      let parts := (if files.isEmpty then [] else [listEntries options disk files]) ++
        directories.flatMap fun (entry, _) =>
          directoryParts options disk hasTitle treeDepth entry
      return (complaints.foldl Outcome.andThen {}).andThen
        (.success (bytes ("\n".intercalate parts)))

/-! ## Facts about files -/

def factOf (disk : Disk) (path : String) (entry : Entry) : Char → String
  | 'n' => path
  | 'N' => quotedIfNeeded path
  | 's' => toString entry.size
  | 'F' =>
    if entry.isDirectory then "directory"
    else if entry.isPipe disk then "fifo"
    else if entry.size = 0 then "regular empty file" else "regular file"
  | 'a' => Permission.octal 1 (entry.permission disk)
  | 'A' => entry.mode disk
  | 'f' =>
    String.ofList (Nat.toDigits 16
      ((if entry.isDirectory then 0x4000 else if entry.isPipe disk then 0x1000 else 0x8000) +
        entry.permission disk))
  | 'U' | 'G' => owner
  | 'u' | 'g' => "0"
  | 'h' => toString (entry.links disk)
  | 'b' => toString (entry.room 512)
  | 'B' => "512"
  | 'o' => toString blockSize
  | 't' | 'T' => "0"
  | 'm' => "/"
  | _ => "?"

/-- The text that a format gives for an entry. Escapes count only if asked for. -/
def formatFacts (hasEscapes : Bool) (fact : Char → String) : List Char → List Char
  | '%' :: '%' :: rest => '%' :: formatFacts hasEscapes fact rest
  | '%' :: letter :: rest => (fact letter).toList ++ formatFacts hasEscapes fact rest
  | '\\' :: letter :: rest =>
    if hasEscapes then
      (match letter with
        | 'n' => ['\n']
        | 't' => ['\t']
        | '0' => ['\x00']
        | '\\' => ['\\']
        | letter => [letter]) ++ formatFacts hasEscapes fact rest
    else '\\' :: formatFacts hasEscapes fact (letter :: rest)
  | character :: rest => character :: formatFacts hasEscapes fact rest
  | [] => []

def stat : Utility :=
  withOptions
    { name := "stat", plain := "Lft", valued := "cp"
      long := [("dereference", 'L'), ("format", 'c'), ("printf", 'p'), ("terse", 't')] }
    fun options =>
      if options.words.isEmpty then return misuse 1 "stat" "missing operand"
      else
        onEach (fun path => do
          let disk := (← get).disk
          match entryAt disk path with
          | .error error => return fileFailure 1 "stat" ("cannot statx " ++ quoted path) error
          | .ok entry =>
            let format := (options.value? 'p').orElse fun () => options.value? 'c'
            let hasEscapes := (options.value? 'p').isSome
            let text := formatFacts hasEscapes (factOf disk path entry)
              (format.getD "  File: %N\n  Size: %s").toList
            return .success
              (characterBytes (if hasEscapes then text else text ++ ['\n']))) options.words

end SymbolCache.Program.Utility
