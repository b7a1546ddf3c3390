import SymbolCache.Editor.Cursor
import SymbolCache.Editor.Imports
import SymbolCache.Store.Basic

/-!
# Queries

What a store answers: the first symbols that a query finds, and the completion of what is being
typed. Every answer says which index it comes from.
-/

set_option autoImplicit false

namespace SymbolCache

structure Answered where
  query : String
  symbols : List Symbol
  /-- The generation of the index that the answer comes from. -/
  generation : Nat
  total : Nat
  /-- Whether some of the symbols found are left out. -/
  truncated : Bool
  deriving Repr, DecidableEq

namespace Store

def emptyAnswer (store : Store) (query : String) : Answered where
  query
  symbols := []
  generation := store.generation
  total := 0
  truncated := false

/-- The first `limit` symbols that a query finds. A limit of zero is none. -/
def search (store : Store) (limit : Nat) (query : String) : Answered :=
  let found := store.findSymbols query
  let truncated := decide (0 < limit) && decide (limit < found.length)
  { query
    symbols := if truncated then found.take limit else found
    generation := store.generation
    total := found.length
    truncated }

/-- Whether a document imports a package that is called `name`. -/
def importsPackage (store : Store) (document name : String) : Bool :=
  let imports := Imports.paths document
  (store.index.pathsForName name).any imports.contains

/-- Whether members of the package called `name` are offered in a document. Those of an imported
package are left to others. -/
def offersMembers (store : Store) (document name : String) : Bool :=
  !store.importsPackage document name && store.config.completion.provideForSpecifiedPackages

/-- The completion of the identifier at the end of `line` in a document. There is none in comments
and literals. -/
def complete (store : Store) (limit : Nat) (document line : String) : Answered :=
  if Cursor.isInCommentOrString line then store.emptyAnswer ""
  else
    match Cursor.identifier? line with
    | none => store.emptyAnswer ""
    | some identifier =>
      match Cursor.splitQualified? identifier with
      | none => store.search limit identifier
      | some (qualifier, _) =>
        if store.offersMembers document qualifier then store.search limit identifier
        else store.emptyAnswer identifier

end Store

end SymbolCache
