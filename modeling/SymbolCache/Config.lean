import SymbolCache.Failure
import SymbolCache.Glob.Match
import SymbolCache.Toml.Document

/-!
# Configuration

What a workspace may set: how to run the toolchain, where the snapshot lies, what to index and how
to complete. Every setting has a default, and a document may leave out any of them; settings it does
not know are passed over.
-/

set_option autoImplicit false

namespace SymbolCache

structure ToolchainConfig where
  binary : String := "go"
  commandTimeout : String := "30s"
  listingTimeout : String := "2m"
  deriving Repr, DecidableEq

structure CacheConfig where
  file : String := "symbol-cache.json"
  deriving Repr, DecidableEq

structure IndexingConfig where
  includeStandard : Bool := true
  includeDependencies : Bool := true
  exclude : List String :=
    ["internal", "internal/**", "**/internal", "**/internal/**", "vendor/**", "**/vendor/**"]
  extractConcurrency : Nat := 8
  deriving Repr, DecidableEq

structure CompletionConfig where
  resultLimit : Nat := 100
  provideForSpecifiedPackages : Bool := true
  caseSensitive : Bool := false
  deriving Repr, DecidableEq

structure Config where
  toolchain : ToolchainConfig := {}
  cache : CacheConfig := {}
  indexing : IndexingConfig := {}
  completion : CompletionConfig := {}
  deriving Repr, DecidableEq

namespace Config

/-! ## Reading -/

/-- A field of the content of a section: that of a table by name, that of an array by position. A
date stands for an empty table. -/
def sectionField? (content : Toml.Value) (position : Nat) (name : String) :
    Option (Option Toml.Value) :=
  match content with
  | .table entries => some (Toml.lookup? name entries)
  | .array elements => some elements[position]?
  | .dateTime => some none
  | _ => none

def textField? (content : Toml.Value) (position : Nat) (name default : String) : Option String := do
  match ← sectionField? content position name with
  | none => return default
  | some (.string text) => return text
  | some _ => none

def boolField? (content : Toml.Value) (position : Nat) (name : String) (default : Bool) :
    Option Bool := do
  match ← sectionField? content position name with
  | none => return default
  | some (.boolean value) => return value
  | some _ => none

def countField? (content : Toml.Value) (position : Nat) (name : String) (default : Nat) :
    Option Nat := do
  match ← sectionField? content position name with
  | none => return default
  | some (.integer value) => if 0 ≤ value then return value.toNat else none
  | some _ => none

def texts? (elements : List Toml.Value) : Option (List String) :=
  elements.mapM fun
    | .string text => some text
    | _ => none

def listField? (content : Toml.Value) (position : Nat) (name : String) (default : List String) :
    Option (List String) := do
  match ← sectionField? content position name with
  | none => return default
  | some (.array elements) => texts? elements
  | some _ => none

def readToolchain? (content : Toml.Value) : Option ToolchainConfig := do
  let default : ToolchainConfig := {}
  return {
    binary := ← textField? content 0 "binary" default.binary
    commandTimeout := ← textField? content 1 "command_timeout" default.commandTimeout
    listingTimeout := ← textField? content 2 "listing_timeout" default.listingTimeout }

def readCache? (content : Toml.Value) : Option CacheConfig := do
  let default : CacheConfig := {}
  return { file := ← textField? content 0 "file" default.file }

def readIndexing? (content : Toml.Value) : Option IndexingConfig := do
  let default : IndexingConfig := {}
  return {
    includeStandard := ← boolField? content 0 "include_std" default.includeStandard
    includeDependencies :=
      ← boolField? content 1 "include_dependencies" default.includeDependencies
    exclude := ← listField? content 2 "exclude" default.exclude
    extractConcurrency :=
      ← countField? content 3 "extract_concurrency" default.extractConcurrency }

def readCompletion? (content : Toml.Value) : Option CompletionConfig := do
  let default : CompletionConfig := {}
  return {
    resultLimit := ← countField? content 0 "default_result_limit" default.resultLimit
    provideForSpecifiedPackages :=
      ← boolField? content 1 "provide_for_specified_packages" default.provideForSpecifiedPackages
    caseSensitive := ← boolField? content 2 "case_sensitive" default.caseSensitive }

/-- A section under its key, or its default if the document has none. -/
def readSection? {α : Type} (entries : List (String × Toml.Value)) (key : String) (default : α)
    (read? : Toml.Value → Option α) : Option α :=
  match Toml.lookup? key entries with
  | none => some default
  | some content => read? content

def read? (text : String) : Option Config := do
  let entries ← Toml.read? text
  return {
    toolchain := ← readSection? entries "go" {} readToolchain?
    cache := ← readSection? entries "cache" {} readCache?
    indexing := ← readSection? entries "indexing" {} readIndexing?
    completion := ← readSection? entries "completion" {} readCompletion? }

/-- The configuration of a document, or the failure to decode it. -/
def parse (text : String) : Except Failure Config :=
  match read? text with
  | some config => .ok config
  | none => .error .configParse

/-! ## Derived settings -/

/-- The time limit of a command about one package. A limit that does not parse counts as 30
seconds. -/
def commandLimit (config : Config) : Duration :=
  (Duration.parse? config.toolchain.commandTimeout).getD (.ofSeconds 30)

/-- The time limit of a listing. A limit that does not parse counts as two minutes. -/
def listingLimit (config : Config) : Duration :=
  (Duration.parse? config.toolchain.listingTimeout).getD (.ofSeconds 120)

def excludeMatcher (config : Config) : Except Failure Glob.Matcher :=
  (Glob.Matcher.compile config.indexing.exclude).mapError fun fault => .globPattern fault.message

/-- The document that a new workspace gets. It spells out the defaults. -/
def defaultDocument : String :=
  "# gosym configuration

[go]
# Toolchain executable
binary = \"go\"
# Timeout for per-package commands (e.g., \"30s\", \"1m\")
command_timeout = \"30s\"
# Timeout for bulk listings (go list -m all, go list -deps)
listing_timeout = \"2m\"

[cache]
# Snapshot file name inside .gosym/
file = \"symbol-cache.json\"

[indexing]
# Index the standard library
include_std = true
# Index packages reachable from the workspace module
include_dependencies = true
# Import path patterns to skip (not importable from user code)
exclude = [
    \"internal\",
    \"internal/**\",
    \"**/internal\",
    \"**/internal/**\",
    \"vendor/**\",
    \"**/vendor/**\",
]
# Packages extracted concurrently during a rebuild
extract_concurrency = 8

[completion]
# Maximum suggestions returned per query
default_result_limit = 100
# Offer \x60pkg.Sel\x60 completions for packages that are not imported yet
provide_for_specified_packages = true
# Match symbol names case-sensitively
case_sensitive = false
"

end Config

end SymbolCache
