import SymbolCache.Symbol.Record

/-!
# Modules

A module provides the packages whose import paths start with its own. The toolchain lists modules
one a line or describes one as a JSON record. A module without a version is one of the workspace.
-/

set_option autoImplicit false

namespace SymbolCache

structure Module where
  path : String
  version : Option String
  deriving Repr, DecidableEq

namespace Module

/-- The version recorded for packages of the workspace itself. -/
def workspaceVersion : String := "workspace"

def packageVersion (module : Module) : String :=
  module.version.getD workspaceVersion

/-! ## Listings -/

/-- The module of a line: its path, and a version unless a replacement follows at once. -/
def ofListingLine? (line : List Char) : Option Module :=
  match Text.words line with
  | [] => none
  | [path] => some { path := String.ofList path, version := none }
  | path :: version :: _ =>
    some {
      path := String.ofList path
      version := if version = ['=', '>'] then none else some (String.ofList version) }

def ofListing (text : String) : List Module :=
  (Text.lines text.toList).filterMap ofListingLine?

/-- The version that a listing gives for the package at `path` itself. -/
def listedVersion? (path listing : String) : Option String :=
  ((ofListing listing).find? fun module => module.path == path).map packageVersion

/-! ## Records -/

/-- The version that a record gives, or nothing if it is none of a module or has no version. -/
def recordVersion? (path version main : Option Json) : Option String := do
  let _ ← (← path).asString?
  let version ← match version with
    | none => some none
    | some .null => some none
    | some (.string version) => some (some version)
    | some _ => none
  let main ← match main with
    | none => some false
    | some main => main.asBool?
  if main then some workspaceVersion else version

def readRecord? (text : String) : Option String := do
  let tree ← Json.Syntax.read? (String.ofList (Text.trim text.toList))
  match ← tree.record? ["Path", "Version", "Main"] with
  | .object fields =>
    let record : Json := .object fields
    recordVersion? (record.field? "Path") (record.field? "Version") (record.field? "Main")
  | .array [path] => recordVersion? (some path) none none
  | .array [path, version] => recordVersion? (some path) (some version) none
  | .array [path, version, main] => recordVersion? (some path) (some version) (some main)
  | _ => none

/-! ## Ownership -/

/-- Whether an import path is that of the module or lies below it. -/
def owns (module : Module) (importPath : String) : Bool :=
  match Text.dropPrefix? module.path.toList importPath.toList with
  | some [] => true
  | some (next :: _) => next == '/'
  | none => false

/-- How close a module is to the packages that it owns: the longer its path in bytes the closer, and
of equal lengths one of the workspace. -/
def rank (module : Module) : Nat × Bool :=
  (module.path.utf8ByteSize, module.version.isNone)

def rankAtMost (left right : Nat × Bool) : Bool :=
  left.1 < right.1 || (left.1 == right.1 && (!left.2 || right.2))

def closest? : List Module → Option Module
  | [] => none
  | module :: modules =>
    match closest? modules with
    | none => some module
    | some other => if rankAtMost module.rank other.rank then some other else some module

/-- The module that provides an import path: of those that own it, the closest. -/
def owner? (modules : List Module) (importPath : String) : Option Module :=
  closest? (modules.filter fun module => module.owns importPath)

end Module

end SymbolCache
