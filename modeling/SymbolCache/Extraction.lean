import SymbolCache.Documentation
import SymbolCache.Toolchain

/-!
# Extraction

The symbols of a package are what its documentation declares and the package exports, after an entry
for the package itself. A package without documentation has none.
-/

set_option autoImplicit false

namespace SymbolCache.Extraction

def documentationRequest (toolchain : Toolchain) (package : Package) : Request :=
  toolchain.command ["doc", "-all", package.importPath]

def packageSymbol (package : Package) : Symbol :=
  .declare package.name package .package none

def symbolsOfText (package : Package) (text : String) : List Symbol :=
  packageSymbol package ::
    ((Documentation.declarations text).map fun declaration =>
      Symbol.declare declaration.name package declaration.kind declaration.signature).filter
        Symbol.isExported

def symbolsOfAnswer (package : Package) : Answer → List Symbol
  | .ok text => symbolsOfText package text
  | .error _ => []

def extract {σ : Type} (toolchain : Toolchain) (package : Package) : Job σ (List Symbol) := do
  return symbolsOfAnswer package (← .ask (documentationRequest toolchain package))

/-- A package and the symbols extracted for it. -/
abbrev Extracted := Package × List Symbol

/-- Whether the path of one extracted package is at most that of another. -/
def pathAtMost (left right : Extracted) : Bool :=
  decide (left.1.importPath ≤ right.1.importPath)

/-- The extracted packages of answers that come in any order, each with the position of its package,
in ascending order of import paths. -/
def gather (packages : List Package) (answers : List (Nat × Answer)) : List Extracted :=
  (answers.filterMap fun (position, answer) =>
    (packages[position]?).map fun package => (package, symbolsOfAnswer package answer)).mergeSort
      pathAtMost

/-- Extracts the symbols of many packages, at most `width` at once. -/
def extractAll {σ : Type} (toolchain : Toolchain) (width : Nat) (packages : List Package) :
    Job σ (List Extracted) := do
  return gather packages (← .askAll width (packages.map (documentationRequest toolchain)))

end SymbolCache.Extraction
