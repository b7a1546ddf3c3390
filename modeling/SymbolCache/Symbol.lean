import SymbolCache.Package

/-!
# Symbols

A symbol is one declaration of a package, with what is shown when it is offered as a completion.
Several packages may declare the same name.
-/

set_option autoImplicit false

namespace SymbolCache

/-- What a declaration declares. Every package also counts as a symbol of its own. -/
inductive SymbolKind where
  | func
  | method
  | type
  | struct
  | interface
  | const
  | var
  | package
  deriving Repr, DecidableEq

namespace SymbolKind

def word : SymbolKind → String
  | .func => "func"
  | .method => "method"
  | .type => "type"
  | .struct => "struct"
  | .interface => "interface"
  | .const => "const"
  | .var => "var"
  | .package => "package"

/-- The kind that a word stands for. Older snapshots say `function` for `func`. -/
def ofWord? : String → Option SymbolKind
  | "func" => some .func
  | "function" => some .func
  | "method" => some .method
  | "type" => some .type
  | "struct" => some .struct
  | "interface" => some .interface
  | "const" => some .const
  | "var" => some .var
  | "package" => some .package
  | _ => none

theorem ofWord?_word (kind : SymbolKind) : ofWord? kind.word = some kind := by
  cases kind <;> rfl

end SymbolKind

structure Symbol where
  name : String
  packagePath : String
  packageName : String
  kind : SymbolKind
  isExported : Bool
  signature : Option String
  deriving Repr, DecidableEq

namespace Symbol

/-- A name is exported if it starts with an upper-case character. -/
def isExportedName (name : String) : Bool :=
  match name.toList with
  | first :: _ => Text.isUppercase first
  | [] => false

/-- The symbol that a declaration in `package` gives. A package entry is exported whatever its
name. -/
def declare (name : String) (package : Package) (kind : SymbolKind) (signature : Option String) :
    Symbol where
  name
  packagePath := package.importPath
  packageName := package.name
  kind
  isExported := kind = .package || isExportedName name
  signature

/-- The import path and the name, with a dot between them. -/
def qualifiedName (symbol : Symbol) : String :=
  symbol.packagePath ++ "." ++ symbol.name

end Symbol

end SymbolCache
