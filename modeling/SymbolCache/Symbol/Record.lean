import SymbolCache.Json.Value
import SymbolCache.Symbol

/-!
# Symbol records

The JSON form of a symbol. It is written as an object whose fields are in one fixed order, without a
signature if there is none. It is read from an object with its fields in any order and unknown
fields among them, or from an array of the field values in the fixed order.
-/

set_option autoImplicit false

namespace SymbolCache

namespace Json

mutual

/-- Whether no object of a syntax tree repeats a field. -/
def Syntax.isPlain : Syntax → Bool
  | .null => true
  | .boolean _ => true
  | .number _ => true
  | .string _ => true
  | .array elements => arePlain elements
  | .object fields => decide (fields.map Prod.fst).Nodup && areFieldsPlain fields

/-- Whether no object of an array's elements repeats a field. -/
def arePlain : List Syntax → Bool
  | [] => true
  | element :: elements => element.isPlain && arePlain elements

/-- Whether no object of an object's field values repeats a field. -/
def areFieldsPlain : List (Option String × Syntax) → Bool
  | [] => true
  | (_, value) :: fields => value.isPlain && areFieldsPlain fields

end

/-- The value of a syntax tree in which no object repeats a field. -/
def Syntax.plainValue? (tree : Syntax) : Option Json :=
  if tree.isPlain then ofSyntax? maxDepth tree else none

/-- A record read straight from a syntax tree: an object with the `known` fields alone, each at most
once, or an array. Unknown fields only need a name; their values are passed over, however deep or
large. -/
def Syntax.record? (known : List String) : Syntax → Option Json
  | .object fields => do
    let fields ← fields.mapM fun (name, value) => name.map fun name => (name, value)
    let fields := fields.filter fun (name, _) => known.contains name
    if (fields.map Prod.fst).Nodup then
      let fields ← fields.mapM fun (name, value) => value.plainValue?.map fun value => (name, value)
      return .object fields
    else none
  | .array elements => (elements.mapM Syntax.plainValue?).map .array
  | _ => none

end Json

namespace SymbolKind

/-- The kind that a JSON value stands for: its word, or an object with that one field and null. -/
def ofJson? : Json → Option SymbolKind
  | .string word => ofWord? word
  | .object [(word, .null)] => ofWord? word
  | _ => none

end SymbolKind

namespace Symbol

/-- The names of the fields of a record, in their order. -/
def fieldNames : List String :=
  ["name", "packagePath", "packageName", "kind", "isExported", "signature"]

def toJson (symbol : Symbol) : Json :=
  .object <|
    [("name", .string symbol.name), ("packagePath", .string symbol.packagePath),
      ("packageName", .string symbol.packageName), ("kind", .string symbol.kind.word),
      ("isExported", .boolean symbol.isExported)] ++
    (symbol.signature.map fun signature => ("signature", Json.string signature)).toList

/-- The signature that a field holds; null means none. -/
def signatureOfJson? : Json → Option (Option String)
  | .null => some none
  | .string signature => some (some signature)
  | _ => none

def ofFields? (name packagePath packageName kind isExported : Json) (signature : Option Json) :
    Option Symbol := do
  let name ← name.asString?
  let packagePath ← packagePath.asString?
  let packageName ← packageName.asString?
  let kind ← SymbolKind.ofJson? kind
  let isExported ← isExported.asBool?
  let signature ← (signature.map signatureOfJson?).getD (some none)
  return { name, packagePath, packageName, kind, isExported, signature }

def ofJson? : Json → Option Symbol
  | .array [name, packagePath, packageName, kind, isExported] =>
    ofFields? name packagePath packageName kind isExported none
  | .array [name, packagePath, packageName, kind, isExported, signature] =>
    ofFields? name packagePath packageName kind isExported (some signature)
  | .object fields => do
    let record : Json := .object fields
    ofFields? (← record.field? "name") (← record.field? "packagePath")
      (← record.field? "packageName") (← record.field? "kind") (← record.field? "isExported")
      (record.field? "signature")
  | _ => none

/-- The symbol that the text of one record stands for. A repeated field is refused. -/
def read? (text : String) : Option Symbol := do
  let tree ← Json.Syntax.read? text
  let record ← tree.record? fieldNames
  ofJson? record

theorem ofJson?_toJson (symbol : Symbol) : ofJson? symbol.toJson = some symbol := by
  obtain ⟨name, packagePath, packageName, kind, isExported, signature⟩ := symbol
  cases signature <;>
    simp [toJson, ofJson?, Json.field?, ofFields?, Json.asString?, Json.asBool?,
      SymbolKind.ofJson?, SymbolKind.ofWord?_word, signatureOfJson?]

end Symbol

end SymbolCache
