import Std.Data.ExtTreeMap
import SymbolCache.Package
import SymbolCache.Toolchain

/-!
# Discovery

Which packages a workspace can import. The standard library and the dependencies of the workspace
are listed, each if the configuration includes it; a listing that fails contributes nothing and is
counted. Commands are not importable, nor is what the exclusion patterns match.
-/

set_option autoImplicit false

namespace SymbolCache

structure Discovery where
  packages : List Package
  failedListings : Nat
  deriving Repr, DecidableEq

namespace Discovery

/-- Whether every listing succeeded, so that a package that is missing is gone. -/
def isComplete (discovery : Discovery) : Bool :=
  discovery.failedListings == 0

def standardListing (toolchain : Toolchain) : Request :=
  toolchain.listing ["list", "-f", Package.listingFormat, "std"]

def dependencyListing (toolchain : Toolchain) : Request :=
  toolchain.listing ["list", "-e", "-deps", "-f", Package.listingFormat, "./..."]

/-- The requests for all listings that the configuration includes. -/
def listings (toolchain : Toolchain) (config : Config) : List Request :=
  (if config.indexing.includeStandard then [standardListing toolchain] else []) ++
    (if config.indexing.includeDependencies then [dependencyListing toolchain] else [])

/-- Packages by import path. Of several with one path the first counts. -/
def byPath (packages : List Package) : Std.ExtTreeMap String Package :=
  packages.foldl (fun found package => found.insertIfNew package.importPath package) ∅

def listedPackages (answers : List Answer) : List Package :=
  answers.flatMap fun
    | .ok output => Package.ofListing output
    | .error _ => []

def failures (answers : List Answer) : Nat :=
  answers.countP fun
    | .ok _ => false
    | .error _ => true

/-- What the answers to listings discover, in ascending order of import paths. -/
def ofAnswers (exclude : Glob.Matcher) (answers : List Answer) : Discovery where
  packages := (byPath (listedPackages answers)).toList.map Prod.snd |>.filter fun package =>
    package.name != "main" && !exclude.accepts package.importPath
  failedListings := failures answers

def askEach {σ : Type} : List Request → Job σ (List Answer)
  | [] => return []
  | request :: requests => do
    let answer ← .ask request
    return answer :: (← askEach requests)

/-- Discovers packages. A malformed exclusion pattern is found before anything is listed. -/
def discover {σ : Type} (toolchain : Toolchain) (config : Config) :
    Job σ (Except Failure Discovery) := do
  match config.excludeMatcher with
  | .error failure => return .error failure
  | .ok exclude => return .ok (ofAnswers exclude (← askEach (listings toolchain config)))

end Discovery

/-! ## Describing known packages -/

namespace Package

def descriptionRequest (toolchain : Toolchain) (paths : List String) : Request :=
  toolchain.command (["list", "-e", "-f", listingFormat] ++ paths)

/-- The package at a path: the first one listed there, or what the path suggests. -/
def describedAs (listed : List Package) (path : String) : Package :=
  (listed.find? fun package => package.importPath == path).getD (ofImportPath path)

/-- The packages at some paths, in the order of the paths. -/
def describe {σ : Type} (toolchain : Toolchain) (paths : List String) : Job σ (List Package) := do
  if paths.isEmpty then return []
  else
    let listed :=
      match ← .ask (descriptionRequest toolchain paths) with
      | .ok output => ofListing output
      | .error _ => []
    return paths.map (describedAs listed)

end Package

end SymbolCache
