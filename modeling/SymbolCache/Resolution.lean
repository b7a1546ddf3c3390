import SymbolCache.Module
import SymbolCache.Toolchain
import Std.Data.ExtTreeMap
import Std.Data.ExtTreeSet

/-!
# Version resolution

The version of a package is that of the module that provides it. All modules are listed at once; a
path that none of them owns has the version of the toolchain if it is a standard one, and is asked
for on its own otherwise. A path whose version is not found is left out.
-/

set_option autoImplicit false

namespace SymbolCache

abbrev Versions := Std.ExtTreeMap String String

namespace Resolution

def moduleListing (toolchain : Toolchain) : Request :=
  toolchain.listing ["list", "-m", "all"]

def lineRequest (toolchain : Toolchain) (path : String) : Request :=
  toolchain.command ["list", "-m", path]

/-- The request for the record of the module of one path. -/
def recordRequest (toolchain : Toolchain) (path : String) : Request :=
  toolchain.command ["list", "-m", "-json", path]

/-- The modules of an answer to a listing; none if it failed. -/
def modulesOfAnswer : Answer → List Module
  | .ok output => Module.ofListing output
  | .error _ => []

/-- The version that an answer with a line gives for a path. -/
def versionOfLine? (path : String) : Answer → Option String
  | .ok output => Module.listedVersion? path output
  | .error _ => none

def versionOfRecord? : Answer → Option String
  | .ok output => Module.readRecord? output
  | .error _ => none

/-- The version of a path by the list of modules, or by the standard library. -/
def knownVersion? (modules : List Module) (standardVersion : Option String) (path : String) :
    Option String :=
  match Module.owner? modules path with
  | some owner => some owner.packageVersion
  | none => if ImportPath.isStandard path then standardVersion else none

/-- Asks for the version of one path: for a line first, then for a record. -/
def query {σ : Type} (toolchain : Toolchain) (path : String) : Job σ (Option String) := do
  match versionOfLine? path (← .ask (lineRequest toolchain path)) with
  | some version => return some version
  | none => return versionOfRecord? (← .ask (recordRequest toolchain path))

/-- Asks for the versions of paths, one after the other. -/
def queryAll {σ : Type} (toolchain : Toolchain) (versions : Versions) :
    List String → Job σ Versions
  | [] => return versions
  | path :: paths => do
    match ← query toolchain path with
    | some version => queryAll toolchain (versions.insert path version) paths
    | none => queryAll toolchain versions paths

/-- The versions of the paths that can be told without asking for them one by one. -/
def knownVersions (modules : List Module) (standardVersion : Option String) (paths : List String) :
    Versions :=
  paths.foldl (fun versions path =>
    match knownVersion? modules standardVersion path with
    | some version => versions.insert path version
    | none => versions) ∅

/-- Resolves the versions of a set of paths. `standardVersion` is the version of standard packages,
if it is known. -/
def resolve {σ : Type} (toolchain : Toolchain) (standardVersion : Option String)
    (paths : Std.ExtTreeSet String) : Job σ Versions := do
  let modules := modulesOfAnswer (← .ask (moduleListing toolchain))
  let unknown := paths.toList.filter fun path =>
    (knownVersion? modules standardVersion path).isNone
  queryAll toolchain (knownVersions modules standardVersion paths.toList) unknown

/-- The version of standard packages, by the version of the toolchain. -/
def standardVersion (toolchainVersion : String) : String :=
  "go" ++ toolchainVersion

end Resolution

end SymbolCache
