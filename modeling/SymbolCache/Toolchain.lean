import SymbolCache.Config
import SymbolCache.Job
import SymbolCache.Text.Cut

/-!
# The toolchain

How the toolchain of a workspace is called, and which version of it is in use.
-/

set_option autoImplicit false

namespace SymbolCache

structure Toolchain where
  binary : String
  directory : String
  commandLimit : Duration
  listingLimit : Duration
  deriving Repr, DecidableEq

namespace Toolchain

def ofConfig (config : Config) (directory : String) : Toolchain where
  binary := config.toolchain.binary
  directory
  commandLimit := config.commandLimit
  listingLimit := config.listingLimit

def request (toolchain : Toolchain) (limit : Duration) (arguments : List String) : Request where
  invocation := { program := toolchain.binary, arguments }
  directory := toolchain.directory
  limit

/-- A request about one package or the toolchain itself. -/
def command (toolchain : Toolchain) (arguments : List String) : Request :=
  toolchain.request toolchain.commandLimit arguments

def listing (toolchain : Toolchain) (arguments : List String) : Request :=
  toolchain.request toolchain.listingLimit arguments

/-- The version in what the toolchain says about itself: the first word, without `go` in front. -/
def version? (output : String) : Option String :=
  match Text.words output.toList with
  | [] => none
  | word :: _ =>
    match (Text.dropPrefix? "go".toList word).getD word with
    | [] => none
    | version => some (String.ofList version)

def versionRequest (toolchain : Toolchain) : Request :=
  toolchain.command ["env", "GOVERSION"]

def versionOfAnswer (toolchain : Toolchain) (answer : Answer) : Except Failure String := do
  let output ← answer
  match version? output with
  | some version => return version
  | none =>
    throw (.parse toolchain.versionRequest.invocation.line
      (String.ofList (Text.trim output.toList)))

def detectVersion {σ : Type} (toolchain : Toolchain) : Job σ (Except Failure String) := do
  return toolchain.versionOfAnswer (← .ask toolchain.versionRequest)

end Toolchain

end SymbolCache
