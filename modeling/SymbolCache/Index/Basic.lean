import SymbolCache.Symbol
import SymbolCache.Text.LowerCase
import Std.Data.ExtTreeMap
import Std.Data.ExtTreeSet

/-!
# The symbol index

An index holds the versions of packages and, under every name, the symbols of that name in the order
in which they were added. Two more maps lead from a package to the names of its symbols, and from a
name in lower case to the names that it comes from.
-/

set_option autoImplicit false

namespace SymbolCache

/-- Symbols by name, and versions by package. -/
structure Index where
  /-- The symbols of every name, in the order in which they were added. -/
  symbols : Std.ExtTreeMap String (List Symbol) := ∅
  packages : Std.ExtTreeMap String String := ∅
  /-- The names to which a package contributes symbols. -/
  byPackage : Std.ExtTreeMap String (Std.ExtTreeSet String) := ∅
  byLower : Std.ExtTreeMap String (Std.ExtTreeSet String) := ∅

namespace Index

def empty : Index := {}

def namesAt (names : Std.ExtTreeMap String (Std.ExtTreeSet String)) (key : String) :
    Std.ExtTreeSet String :=
  names.getD key ∅

def insertName (names : Std.ExtTreeMap String (Std.ExtTreeSet String)) (key name : String) :
    Std.ExtTreeMap String (Std.ExtTreeSet String) :=
  names.insert key ((namesAt names key).insert name)

/-- Takes a name from under a key, and the key too once no name is left. -/
def eraseName (names : Std.ExtTreeMap String (Std.ExtTreeSet String)) (key name : String) :
    Std.ExtTreeMap String (Std.ExtTreeSet String) :=
  let rest := (namesAt names key).erase name
  if rest.isEmpty then names.erase key else names.insert key rest

/-! ## Changing an index -/

/-- Adds a symbol at the end of the list for its name, also if it is there already. A symbol that is
not exported is left out. -/
def add (index : Index) (symbol : Symbol) : Index :=
  if symbol.isExported then
    { index with
      symbols :=
        index.symbols.insert symbol.name (index.symbols.getD symbol.name [] ++ [symbol])
      byPackage := insertName index.byPackage symbol.packagePath symbol.name
      byLower := insertName index.byLower (Text.lowerCase symbol.name) symbol.name }
  else index

def addAll (index : Index) (symbols : List Symbol) : Index :=
  symbols.foldl add index

/-- Removes the symbols of a package from the list of one name, and the name itself once its list is
empty. -/
def removeFromName (path : String) (index : Index) (name : String) : Index :=
  match index.symbols[name]? with
  | none => index
  | some symbols =>
    match symbols.filter fun symbol => symbol.packagePath != path with
    | [] =>
      { index with
        symbols := index.symbols.erase name
        byLower := eraseName index.byLower (Text.lowerCase name) name }
    | rest => { index with symbols := index.symbols.insert name rest }

/-- Removes the symbols of a package and keeps its version. -/
def removeSymbols (index : Index) (path : String) : Index :=
  (namesAt index.byPackage path).toList.foldl (removeFromName path)
    { index with byPackage := index.byPackage.erase path }

/-- Removes a package with its symbols and its version. -/
def removePackage (index : Index) (path : String) : Index :=
  let index := index.removeSymbols path
  { index with packages := index.packages.erase path }

def setVersion (index : Index) (path version : String) : Index :=
  { index with packages := index.packages.insert path version }

def mergeVersions (index : Index) (versions : Std.ExtTreeMap String String) : Index :=
  versions.toList.foldl (fun index (path, version) => index.setVersion path version) index

/-- Replaces the symbols of a package and sets its version. -/
def replacePackage (index : Index) (path version : String) (symbols : List Symbol) : Index :=
  ((index.removeSymbols path).setVersion path version).addAll symbols

/-! ## Looking into an index -/

def version? (index : Index) (path : String) : Option String :=
  index.packages[path]?

def get? (index : Index) (name : String) : Option (List Symbol) :=
  index.symbols[name]?

/-- The symbols of a package, by name and then in the order in which they were added. -/
def packageSymbols (index : Index) (path : String) : List Symbol :=
  ((namesAt index.byPackage path).toList.flatMap fun name => index.symbols.getD name []).filter
    fun symbol => symbol.packagePath == path

def packageCount (index : Index) : Nat :=
  index.packages.size

def nameCount (index : Index) : Nat :=
  index.symbols.size

def symbolCount (index : Index) : Nat :=
  (index.symbols.toList.flatMap fun entry => entry.2).length

def isEmpty (index : Index) : Bool :=
  index.symbols.isEmpty && index.packages.isEmpty

end Index

end SymbolCache
