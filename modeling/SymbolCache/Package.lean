import SymbolCache.Text.Cut

/-!
# Packages

A package is known by its import path, which also suggests the name in its package clause and
whether it belongs to the standard library. What the toolchain reports may differ from the
suggestion.
-/

set_option autoImplicit false

namespace SymbolCache

structure Package where
  importPath : String
  name : String
  standard : Bool
  deriving Repr, DecidableEq

namespace ImportPath

/-- The elements between the slashes of an import path. -/
def elements (importPath : List Char) : List (List Char) :=
  Text.split '/' importPath

def lastElement (importPath : List Char) : List Char :=
  ((elements importPath).getLast?).getD []

/-- A major-version element: `v` and at least one decimal digit, all of them ASCII. -/
def isMajorVersion : List Char → Bool
  | 'v' :: digits => !digits.isEmpty && digits.all Text.isAsciiDigit
  | _ => false

/-- An import path is a standard one if its first element is not empty and has no dot. -/
def isStandard (importPath : String) : Bool :=
  match elements importPath.toList with
  | first :: _ => !first.isEmpty && !first.contains '.'
  | [] => false

/-- The element that names the package: the last one that is not empty, or the one before it if that
is a major version. An import path of slashes alone stands for itself. -/
def namingElement (importPath : List Char) : List Char :=
  let elements := (elements importPath).filter fun element => !element.isEmpty
  let elements :=
    if 1 < elements.length && isMajorVersion (elements.getLast?.getD []) then elements.dropLast
    else elements
  elements.getLast?.getD importPath

def dropVersionSuffix (element : List Char) : List Char :=
  match Text.splitLast '.' element with
  | some (stem, suffix) => if isMajorVersion suffix then stem else element
  | none => element

/-- The name that an import path suggests: the leading run of ASCII letters, digits and underscores
of its naming element, once a version suffix and a `go-` in front are gone. If that run is empty,
all of it. -/
def assumedName (importPath : String) : String :=
  let base := dropVersionSuffix (namingElement importPath.toList)
  let base := (Text.dropPrefix? "go-".toList base).getD base
  let name := base.takeWhile Text.isAsciiWord
  String.ofList (if name.isEmpty then base else name)

/-- Whether the last element of an import path is `name`. -/
def endsIn (name : String) (importPath : String) : Bool :=
  lastElement importPath.toList == name.toList

end ImportPath

def Package.ofImportPath (importPath : String) : Package where
  importPath
  name := ImportPath.assumedName importPath
  standard := ImportPath.isStandard importPath

example : ImportPath.assumedName "gopkg.in/go-yaml.v2/v3" = "yaml" := by decide +kernel

example : ImportPath.assumedName "//" = "//" := by decide +kernel

end SymbolCache

/-!
## Package listings

The toolchain lists packages one a line, each with its import path, its name and whether it is a
standard one.
-/

namespace SymbolCache.Package

def listingFormat : String :=
  "\x7b\x7b.ImportPath\x7d\x7d \x7b\x7b.Name\x7d\x7d \x7b\x7b.Standard\x7d\x7d"

def ofListingLine? (line : List Char) : Option Package :=
  match Text.words line with
  | [importPath, name, standard] =>
    some {
      importPath := String.ofList importPath
      name := String.ofList name
      standard := standard == "true".toList }
  | _ => none

/-- The packages of a listing, in their order. A line of another form is passed over. -/
def ofListing (text : String) : List Package :=
  (Text.lines text.toList).filterMap ofListingLine?

end SymbolCache.Package
