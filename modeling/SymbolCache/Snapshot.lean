import SymbolCache.Failure
import SymbolCache.Index.Basic
import SymbolCache.Symbol.Record

/-!
# Snapshots

A snapshot is an index as a JSON document, stamped with the version of its format, the version of
the toolchain and the time. It is accepted only if both versions fit, every field decodes, and every
symbol is exported and filed under its own name.
-/

set_option autoImplicit false

namespace SymbolCache

structure Snapshot where
  schemaVersion : Nat
  toolchainVersion : String
  /-- When the snapshot was taken, in milliseconds since the start of 1970. -/
  timestamp : Nat
  packages : Std.ExtTreeMap String String
  processedPackages : List String
  symbols : Std.ExtTreeMap String (List Symbol)

namespace Snapshot

def currentSchema : Nat := 1

/-- The snapshot of an index at a time, of which 64 bits are kept. -/
def capture (index : Index) (toolchainVersion : String) (time : Nat) : Snapshot where
  schemaVersion := currentSchema
  toolchainVersion
  timestamp := time % Nat.pow 2 64
  packages := index.packages
  processedPackages := index.packages.keys
  symbols := index.symbols

/-! ## Writing -/

def textsToJson (texts : Std.ExtTreeMap String String) : Json :=
  .object (texts.toList.map fun (key, text) => (key, .string text))

def symbolsToJson (symbols : Std.ExtTreeMap String (List Symbol)) : Json :=
  .object (symbols.toList.map fun (name, list) => (name, .array (list.map Symbol.toJson)))

def toJson (snapshot : Snapshot) : Json :=
  .object [
    ("version", .integer snapshot.schemaVersion),
    ("goVersion", .string snapshot.toolchainVersion),
    ("timestamp", .integer snapshot.timestamp),
    ("packages", textsToJson snapshot.packages),
    ("processedPackages", .array (snapshot.processedPackages.map .string)),
    ("symbols", symbolsToJson snapshot.symbols)]

def text (snapshot : Snapshot) : String :=
  String.ofList snapshot.toJson.render

/-! ## Reading -/

def textsOfJson? : Json → Option (Std.ExtTreeMap String String)
  | .object fields => do
    let entries ← fields.mapM fun (key, value) => value.asString?.map fun text => (key, text)
    return Std.ExtTreeMap.ofList entries compare
  | _ => none

def listOfJson? : Json → Option (List String)
  | .array elements => elements.mapM Json.asString?
  | _ => none

def symbolListOfJson? : Json → Option (List Symbol)
  | .array elements => elements.mapM Symbol.ofJson?
  | _ => none

def symbolsOfJson? : Json → Option (Std.ExtTreeMap String (List Symbol))
  | .object fields => do
    let entries ← fields.mapM fun (name, value) =>
      (symbolListOfJson? value).map fun list => (name, list)
    return Std.ExtTreeMap.ofList entries compare
  | _ => none

def optionalField? {α : Type} (document : Json) (name : String) (default : α)
    (decode? : Json → Option α) : Option α :=
  match document.field? name with
  | none => some default
  | some value => decode? value

def ofJson? (document : Json) : Option Snapshot := do
  return {
    schemaVersion := ← (← document.field? "version").asNat? 32
    toolchainVersion := ← (← document.field? "goVersion").asString?
    timestamp := ← (← document.field? "timestamp").asNat? 64
    packages := ← optionalField? document "packages" ∅ textsOfJson?
    processedPackages := ← optionalField? document "processedPackages" [] listOfJson?
    symbols := ← optionalField? document "symbols" ∅ symbolsOfJson? }

/-- The version of the toolchain in a document; empty if there is none. -/
def statedToolchain (document : Json) : String :=
  ((document.field? "goVersion").bind Json.asString?).getD ""

/-- Checks the version of the format. A version beyond 32 bits is reported as the largest one. -/
def checkSchema (path : String) (document : Json) : Except Failure Unit :=
  match (document.field? "version").bind (Json.asNat? 64) with
  | none => .error (.parse path "missing schema version")
  | some found =>
    if found = currentSchema then .ok ()
    else .error (.schemaVersionMismatch (min found (Nat.pow 2 32 - 1)) currentSchema)

def checkToolchain (toolchainVersion : String) (document : Json) : Except Failure Unit :=
  let found := statedToolchain document
  if found = toolchainVersion then .ok () else .error (.toolchainMismatch found toolchainVersion)

/-- The snapshot in the content of the file at `path`. The two versions are checked before anything
else is decoded, so that a snapshot of another format is reported as such. -/
def read (path toolchainVersion content : String) : Except Failure Snapshot :=
  if (Text.trim content.toList).isEmpty then .error (.parse path "empty snapshot")
  else
    match Json.read? content with
    | none => .error .serialization
    | some document => do
      checkSchema path document
      checkToolchain toolchainVersion document
      match ofJson? document with
      | some snapshot => return snapshot
      | none => throw .serialization

/-! ## Restoring an index -/

/-- Why a symbol cannot be filed under a name, if it cannot. -/
def symbolFault? (name : String) (symbol : Symbol) : Option Failure :=
  if symbol.name ≠ name then
    some (.parse "snapshot" ("symbol " ++ symbol.name ++ " stored under key " ++ name))
  else if symbol.isExported then none
  else some (.parse "snapshot" ("unexported symbol " ++ symbol.qualifiedName))

def restoreSymbols (name : String) : Index → List Symbol → Except Failure Index
  | index, [] => .ok index
  | index, symbol :: symbols =>
    match symbolFault? name symbol with
    | some failure => .error failure
    | none => restoreSymbols name (index.add symbol) symbols

def restoreNames : Index → List (String × List Symbol) → Except Failure Index
  | index, [] => .ok index
  | index, (name, symbols) :: names => do
    let index ← restoreSymbols name index symbols
    restoreNames index names

/-- The index of a snapshot, or the first symbol that does not belong into one. -/
def toIndex (snapshot : Snapshot) : Except Failure Index :=
  restoreNames (Index.empty.mergeVersions snapshot.packages) snapshot.symbols.toList

end Snapshot

end SymbolCache
