import SymbolCache.Program.Shell.Builtin.Basic

/-!
# What names stand for

A name stands for a word of the language, another text, a function, a command of the shell or a
program. The programs that were found once are remembered.
-/

set_option autoImplicit false

namespace SymbolCache.Program.Shell.Builtin

def names : List String :=
  specialNames ++ ["[", "alias", "bg", "cd", "chdir", "command", "echo", "false", "fg", "getopts",
    "hash", "jobs", "kill", "local", "printf", "pwd", "read", "test", "true", "type", "ulimit",
    "umask", "unalias", "wait"]

/-! ## Texts in place of names -/

def aliasText (name text : String) : String :=
  name ++ "=" ++ quoted text

def setAliases (words : List String) : Run Unit := do
  let aliases := (← get).scope.aliases
  Run.setStatus 0
  if words.isEmpty then
    printLines ((inTableOrder 39 Prod.fst aliases).map fun (name, text) => aliasText name text)
  else
    for word in words do
      match splitAssignment word with
      | (name, some text) =>
        Run.modifyScope fun scope =>
          let others := scope.aliases.filter fun entry => entry.1 != name
          { scope with aliases := others ++ [(name, text)] }
      | (name, none) =>
        match aliases.find? fun entry => entry.1 == name with
        | some (_, text) =>
          let status := (← get).scope.status
          printLines [aliasText name text]
          Run.setStatus status
        | none => Run.emit (.failure 1 ("alias: " ++ name ++ " not found\n"))

def unsetAliases (words : List String) : Run Unit := do
  let (options, words) ← readOptions "unalias" "a" "" words
  Run.setStatus 0
  if hasOption options 'a' then Run.modifyScope fun scope => { scope with aliases := [] }
  else
    for name in words do
      if (← get).scope.aliases.any fun entry => entry.1 == name then
        Run.modifyScope fun scope =>
          { scope with aliases := scope.aliases.filter fun entry => entry.1 != name }
      else Run.emit (.failure 1 ("unalias: " ++ name ++ " not found\n"))

/-! ## Programs -/

def programPath? (name : String) : Run (Option String) := do
  let searchPath := (← Run.lookup? "PATH").getD ""
  return (System.locateProgram (← get).disk searchPath name).toOption

def remember (name : String) : Run Unit :=
  Run.modifyScope fun scope =>
    if name.toList.contains '/' || scope.found.contains name then scope
    else { scope with found := scope.found ++ [name] }

def hash (words : List String) : Run Unit := do
  let (options, words) ← readOptions "hash" "r" "" words
  Run.setStatus 0
  if hasOption options 'r' then Run.modifyScope fun scope => { scope with found := [] }
  else if words.isEmpty then
    let paths ← (inTableOrder 31 id (← get).scope.found).mapM programPath?
    printLines (paths.filterMap id)
  else
    for name in words do
      if (← programPath? name).isSome then remember name
      else Run.refuse 1 ("hash: " ++ name ++ ": not found")

/-! ## Meanings -/

def isFunction (scope : Scope) (name : String) : Bool :=
  scope.functions.any fun entry => entry.1 == name

def describe (name : String) : Run Unit := do
  let scope := (← get).scope
  match scope.aliases.find? fun entry => entry.1 == name with
  | some (_, text) =>
    if reservedWords.contains name then printLines [name ++ " is a shell keyword"]
    else printLines [name ++ " is an alias for " ++ text]
  | none =>
    if reservedWords.contains name then printLines [name ++ " is a shell keyword"]
    else if isFunction scope name then printLines [name ++ " is a shell function"]
    else if specialNames.contains name then printLines [name ++ " is a special shell builtin"]
    else if names.contains name then printLines [name ++ " is a shell builtin"]
    else
      match ← programPath? name with
      | some path =>
        let isKnown := scope.found.contains name
        printLines [name ++ (if isKnown then " is a tracked alias for " else " is ") ++ path]
        remember name
      | none =>
        let isThere := name.toList.contains '/' && (← get).disk.contains name
        printLines [name ++ if isThere then " is " ++ name else ": not found"]
        Run.setStatus (if isThere then 0 else 127)

def type (words : List String) : Run Unit := do
  let mut status := 0
  for name in words do
    describe name
    if (← get).scope.status ≠ 0 then status := (← get).scope.status
  Run.setStatus status

def tell (name : String) : Run Unit := do
  let scope := (← get).scope
  match scope.aliases.find? fun entry => entry.1 == name with
  | some (_, text) => printLines ["alias " ++ aliasText name text]
  | none =>
    if reservedWords.contains name || isFunction scope name || names.contains name then
      printLines [name]
    else
      let searchPath := (← Run.lookup? "PATH").getD ""
      let disk := (← get).disk
      let isThere := name.toList.contains '/' && disk.contains name
      match System.locateProgram disk searchPath name with
      | .ok path =>
        printLines [path]
        remember name
      | .error _ => if isThere then printLines [name] else Run.setStatus 127

end SymbolCache.Program.Shell.Builtin
