import SymbolCache.CommandLine.Arguments
import SymbolCache.Json.Value
import SymbolCache.Query
import SymbolCache.Store.Refresh
import SymbolCache.Text.Decimal
import SymbolCache.Text.Natural

/-!
# Reports

What the program prints: as lines for people, or as JSON for programs.
-/

set_option autoImplicit false

/-!
## Dates

A point in time as a date and a time of day in UTC, written with the fewest digits after the second
that tell the milliseconds.
-/

namespace SymbolCache.Calendar

structure Date where
  year : Nat
  month : Nat
  day : Nat
  deriving Repr, DecidableEq

/-- The date some days after the first of January 1970. Years are counted from March on, so that a
leap day ends its year; 400 years have 146097 days, and five months from March on have 153. -/
def dateOfDays (days : Nat) : Date :=
  let days := days + 719468
  let era := days / 146097
  let dayOfEra := days % 146097
  let yearOfEra := (dayOfEra - dayOfEra / 1460 + dayOfEra / 36524 - dayOfEra / 146096) / 365
  let dayOfYear := dayOfEra - (365 * yearOfEra + yearOfEra / 4 - yearOfEra / 100)
  let month := (5 * dayOfYear + 2) / 153
  let day := dayOfYear - (153 * month + 2) / 5 + 1
  let year := yearOfEra + era * 400
  if month < 10 then { year, month := month + 3, day }
  else { year := year + 1, month := month - 9, day }

def padded (width value : Nat) : String :=
  let digits := Text.decimal value
  String.ofList (List.replicate (width - digits.length) '0' ++ digits)

/-- The fraction of a second, without zeros at its end; empty if there is none. -/
def fraction (milliseconds : Nat) : String :=
  if milliseconds % 1000 = 0 then ""
  else if milliseconds % 100 = 0 then "." ++ padded 1 (milliseconds % 1000 / 100)
  else if milliseconds % 10 = 0 then "." ++ padded 2 (milliseconds % 1000 / 10)
  else "." ++ padded 3 (milliseconds % 1000)

/-- The date and time some milliseconds after the start of 1970. Years beyond 9999 cannot be
written. -/
def describe? (milliseconds : Nat) : Option String :=
  let seconds := milliseconds / 1000
  let date := dateOfDays (seconds / 86400)
  if 9999 < date.year then none
  else
    some (padded 4 date.year ++ "-" ++ padded 2 date.month ++ "-" ++ padded 2 date.day ++ "T" ++
      padded 2 (seconds / 3600 % 24) ++ ":" ++ padded 2 (seconds / 60 % 60) ++ ":" ++
      padded 2 (seconds % 60) ++ fraction milliseconds ++ "Z")

example : dateOfDays 19782 = { year := 2024, month := 2, day := 29 } := by decide

end SymbolCache.Calendar

namespace SymbolCache.CommandLine

structure Report where
  exitCode : Nat
  output : String := ""
  messages : String := ""
  deriving Repr, DecidableEq

namespace Report

def line (text : String) : String :=
  text ++ "\n"

def labelled (label text : String) : String :=
  line (label ++ ": " ++ text)

def lineIf (holds : Bool) (text : String) : String :=
  if holds then text else ""

def count (value : Nat) : Json :=
  .integer value

def textOrNull (text : Option String) : Json :=
  (text.map .string).getD .null

/-! ## Setting up -/

def setUp : String :=
  line "Created .gosym/config.toml" ++ line "Added .gosym/ to .gitignore"

/-! ## Refreshes -/

def statsToJson (stats : RefreshStats) : Json :=
  .object [("duration_ms", count stats.duration), ("listings_failed", count stats.failedListings),
    ("packages_discovered", count stats.discovered), ("packages_failed", count stats.failed),
    ("packages_indexed", count stats.indexed), ("packages_removed", count stats.removed),
    ("packages_unresolved", count stats.unresolved), ("symbols", count stats.symbols)]

def refresh (json : Bool) (store : Store) (stats : RefreshStats) : String :=
  if json then
    line <| String.ofList <| Json.render <| .object
      [("cache_path", .string store.cachePath), ("generation", count store.generation),
        ("stats", statsToJson stats)]
  else
    labelled "Indexed"
        (toString stats.indexed ++ " packages (" ++ toString stats.symbols ++ " symbols)") ++
      lineIf (0 < stats.removed) (labelled "Removed" (toString stats.removed ++ " packages")) ++
      lineIf (0 < stats.failedListings)
        (labelled "Partial" (toString stats.failedListings ++
          " package listings failed, previous packages kept")) ++
      lineIf (0 < stats.unresolved || 0 < stats.failed)
        (labelled "Skipped" (toString stats.unresolved ++ " unresolved, " ++
          toString stats.failed ++ " failed (retried on next sync)")) ++
      labelled "Cache" (store.cachePath ++ " (" ++ toString stats.duration ++ " ms)")

/-! ## Queries -/

def answerToJson (answer : Answered) : Json :=
  .object [("query", .string answer.query), ("symbols", .array (answer.symbols.map Symbol.toJson)),
    ("generation", count answer.generation), ("total_matches", count answer.total),
    ("truncated", .boolean answer.truncated)]

def symbol (symbol : Symbol) : String :=
  line (symbol.qualifiedName ++ " (" ++ symbol.kind.word ++ ") " ++ symbol.signature.getD "")

def answer (json : Bool) (answer : Answered) : String :=
  if json then line (String.ofList ((answerToJson answer).renderIndented 0))
  else
    String.join (answer.symbols.map symbol) ++
      lineIf answer.truncated
        (line ("... (truncated showing " ++ toString answer.symbols.length ++ " of " ++
          toString answer.total ++ " results)")) ++
      line ("(" ++ toString answer.symbols.length ++ " results)")

/-! ## Status -/

def statusToJson (status : Store.Status) : Json :=
  .object [("state", .string status.readiness.word), ("generation", count status.generation),
    ("toolchain_version", textOrNull status.toolchainVersion),
    ("schema_version", count status.schemaVersion), ("packages", count status.packages),
    ("symbol_names", count status.names), ("symbols", count status.symbols),
    ("cache_path", .string status.cachePath), ("cache_size_bytes", count status.cacheSize),
    ("last_saved", (status.lastSaved.map count).getD .null)]

def status (json : Bool) (status : Store.Status) : String :=
  if json then line (String.ofList ((statusToJson status).renderIndented 0))
  else
    labelled "Cache" (status.cachePath ++ " (" ++ Megabytes.describe status.cacheSize ++ " MB)") ++
      labelled "State" status.readiness.word ++
      labelled "Toolchain" (status.toolchainVersion.getD "unknown") ++
      labelled "Packages" (toString status.packages) ++
      labelled "Symbols"
        (toString status.symbols ++ " (" ++ toString status.names ++ " names)") ++
      labelled "Schema" ("v" ++ toString status.schemaVersion) ++
      ((status.lastSaved.bind Calendar.describe?).map (labelled "Last saved")).getD ""

/-! ## Whole reports -/

def success (output : String) : Report where
  exitCode := 0
  output

def failure (json : Bool) (failure : Failure) : Report where
  exitCode := 1
  messages :=
    if json then
      line <| String.ofList <| Json.render <| .object
        [("code", .string failure.category.word), ("message", .string failure.message)]
    else labelled "Error" failure.message

def usage : String :=
  line "usage: [--root DIR] [--json] [-v] COMMAND" ++
    line "commands: init, index [--force], query PREFIX [--limit N]," ++
    line "  complete LINE [--file FILE] [--limit N], refresh PACKAGE..., status"

def refusal : Refusal → Report
  | .help => { exitCode := 0, output := usage }
  | .invalid => { exitCode := 2, messages := usage }

def ofResult (json : Bool) : Except Failure String → Report
  | .ok output => success output
  | .error reason => failure json reason

end Report

end SymbolCache.CommandLine
