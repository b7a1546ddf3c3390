import SymbolCache.Failure

/-!
# Commands

What is asked of outside programs, and what comes back: the standard output, or why there is none.
-/

set_option autoImplicit false

namespace SymbolCache

/-- A program and its arguments. No shell reads them. -/
structure Invocation where
  program : String
  arguments : List String
  deriving Repr, DecidableEq

/-- The program and its arguments on one line, with a space between them. -/
def Invocation.line (invocation : Invocation) : String :=
  " ".intercalate (invocation.program :: invocation.arguments)

/-- An invocation, the directory it runs in and how long it may take. -/
structure Request where
  invocation : Invocation
  directory : String
  limit : Duration
  deriving Repr, DecidableEq

/-- The standard output of a command that succeeded, or its failure. -/
abbrev Answer := Except Failure String

/-- How outside programs answer: the answer to a request may depend on all requests before it, the
latest of which comes first. -/
abbrev Responder := List Request → Request → Answer

end SymbolCache
