import SymbolCache.Index.Basic

/-!
# Finding symbols

A query is the start of a name, or a package and the start of a name with a dot between them. The
symbols found are in ascending order of their import paths and then their names.
-/

set_option autoImplicit false

namespace SymbolCache.Index

/-- The names in the index that start with `leading`, in upper or lower case unless case matters.
The keys that start with a text follow one another from the first key that is not below it. -/
def namesWithPrefix (index : Index) (caseSensitive : Bool) (leading : String) : List String :=
  let lower := Text.lowerCase leading
  let entries :=
    (index.byLower.toList.dropWhile fun entry => decide (entry.1 < lower)).takeWhile fun entry =>
      Text.startsWith lower entry.1
  (entries.flatMap fun entry => entry.2.toList).filter fun name =>
    !caseSensitive || Text.startsWith leading name

/-- Whether a package is called `qualifier`: its own name is, or its import path ends so. -/
def isOfPackage (qualifier : String) (symbol : Symbol) : Bool :=
  symbol.packageName == qualifier || ImportPath.endsIn qualifier symbol.packagePath

/-- What a query asks for: the start of a name, in any package or in the packages of one name. -/
structure Query where
  qualifier : Option String
  leading : String
  deriving Repr, DecidableEq

/-- The query that a text stands for, cut at its first dot. -/
def Query.ofText (text : String) : Query :=
  match Text.splitOnce '.' text.toList with
  | some (qualifier, leading) =>
    { qualifier := some (String.ofList qualifier), leading := String.ofList leading }
  | none => { qualifier := none, leading := text }

/-- Whether a symbol is in a package that the query asks for. A query with a package leaves out the
entries for packages. -/
def Query.admits (query : Query) (symbol : Symbol) : Bool :=
  match query.qualifier with
  | some qualifier => symbol.kind != .package && isOfPackage qualifier symbol
  | none => true

/-- Whether a symbol comes before another or ties with it. -/
def symbolAtMost (left right : Symbol) : Bool :=
  decide (left.packagePath < right.packagePath) ||
    (left.packagePath == right.packagePath && decide (left.name ≤ right.name))

def find (index : Index) (caseSensitive : Bool) (text : String) : List Symbol :=
  let query := Query.ofText text
  let candidates :=
    (index.namesWithPrefix caseSensitive query.leading).flatMap fun name =>
      index.symbols.getD name []
  (candidates.filter query.admits).mergeSort symbolAtMost

/-- The import paths of the packages that are called `name`, in ascending order: their paths end in
it or suggest it. -/
def pathsForName (index : Index) (name : String) : List String :=
  index.byPackage.keys.filter fun path =>
    ImportPath.endsIn name path || ImportPath.assumedName path == name

end SymbolCache.Index
