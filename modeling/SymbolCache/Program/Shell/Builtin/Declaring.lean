import SymbolCache.Program.Shell.Builtin.Values
import SymbolCache.Program.Shell.Expansion

/-!
# Declaring names

The commands of the extended language that give values, lists and traits to names, and those that
take them away.
-/

set_option autoImplicit false

namespace SymbolCache.Program.Shell.Builtin

/-! ## Words with names -/

/-- A word that names something and may give a value to it. -/
structure Declared where
  name : String
  key : Option String := none
  adds : Bool := false
  value : Option String := none
  deriving Repr, DecidableEq

def Declared.ofWord? (word : String) : Option Declared := do
  let (name, rest) ← readName? word.toList
  if !isName name then none
  let (key, rest) ← match rest with
    | '[' :: text => do
      let (subscript, rest) ← readSubscript? (text.length + 1) 0 text
      pure (some (String.ofList subscript), rest)
    | rest => pure (none, rest)
  match rest with
  | [] => return { name, key }
  | '=' :: value => return { name, key, value := some (String.ofList value) }
  | '+' :: '=' :: value =>
    return { name, key, adds := true, value := some (String.ofList value) }
  | _ => none

def refuseName (command word : String) : Run Unit :=
  Run.refuse 1 (command ++ ": \x60" ++ word ++ "': not a valid identifier")

/-! ## Covering names -/

/-- Keeps what a name stands for until the end of the function that is run, if it is not kept
already. The name then stands for nothing. -/
def cover (name : String) : Run Unit := do
  let state ← get
  let scope := state.scope
  let isCovered := (scope.hidden.getD []).any fun hidden => hidden.name == name
  if !isCovered then
    let hidden : Hidden :=
      { name
        value := (scope.values.find? fun entry => entry.1 == name).map Prod.snd
        elements := (scope.lists.find? fun entry => entry.1 == name).map Prod.snd
        traits := scope.traitsOf name
        isFixed := scope.fixed.contains name
        isExported := scope.exported.contains name }
    Run.modifyScope fun scope => { scope with hidden := scope.hidden.map (· ++ [hidden]) }
    Run.setValue name none
    Run.setElements name none
    Run.setTraits name []

/-! ## Declaring -/

structure Declaration where
  command : String
  isOn : List Char := []
  isOff : List Char := []
  /-- Whether names are covered until the end of a function. -/
  covers : Bool := false

def makeList (name : String) (isKeyed : Bool) : Run Unit := do
  let elements ← Run.elementsOf name
  Run.setValue name none
  Run.setElements name
    (some (if isKeyed && !elements.isKeyed then { isKeyed } else elements))

def declareWord (declaration : Declaration) (word : String) : Run Unit := do
  match Declared.ofWord? word with
  | none => refuseName declaration.command word
  | some declared =>
    let name := declared.name
    let given? := (← get).scope.given.find? fun list => list.name == name
    let givesValue := declared.value.isSome || given?.isSome
    if (← get).scope.fixed.contains name && (givesValue || declaration.covers) then
      let marks := ["export", "readonly"].contains declaration.command
      Run.refuse 1 ((if marks then "" else declaration.command ++ ": ") ++ name ++
        ": readonly variable")
    else
      if declaration.covers then cover name
      let has (letter : Char) : Bool := declaration.isOn.contains letter
      if has 'A' then makeList name true
      else if has 'a' || given?.isSome then makeList name false
      let before := (← get).scope.traitsOf name
      let added := ['i', 'l', 'u', 'n'].filter has
      Run.setTraits name
        ((added ++ before.filter fun letter => !added.contains letter).filter fun letter =>
          !declaration.isOff.contains letter)
      given?.forM Run.giveList
      declared.value.forM fun value => do
        match declared.key with
        | some key => Run.give (← Run.elementAt name key) declared.adds value
        | none =>
          if has 'n' then Run.setValue name (some value)
          else Run.give { name } declared.adds value
      Run.modifyScope fun scope =>
        let set (letter : Char) (names : List String) : List String :=
          let others := names.filter (· != name)
          if has letter then name :: others
          else if declaration.isOff.contains letter then others
          else names
        { scope with
          fixed := set 'r' scope.fixed
          exported := set 'x' scope.exported }

/-- The letters in front of words that switch something on or off, and the other words. -/
def readLetters : List String → List Char × List Char × List String
  | [] => ([], [], [])
  | word :: words =>
    match word.toList with
    | ['-', '-'] => ([], [], words)
    | '-' :: letter :: letters =>
      let (isOn, isOff, words) := readLetters words
      (letter :: letters ++ isOn, isOff, words)
    | '+' :: letter :: letters =>
      let (isOn, isOff, words) := readLetters words
      (isOn, letter :: letters ++ isOff, words)
    | _ => ([], [], word :: words)

def printDeclarations (command : String) (names : List String) : Run Unit := do
  let mut status := 0
  for name in names do
    let scope := (← get).scope
    let isKnown := (scope.elements? name).isSome || (← Run.lookup? name).isSome ||
      !(Run.traitLetters scope name).isEmpty
    if isKnown then printLines [← Run.declaration name]
    else
      Run.complain (command ++ ": " ++ name ++ ": not found")
      status := 1
  Run.setStatus status

def knownNames (isWanted : Scope → String → Bool) : Run (List String) := do
  let scope := (← get).scope
  let names := scope.values.map Prod.fst ++ scope.lists.map Prod.fst ++ scope.exported
  let order (left right : String) : Bool := decide (left ≤ right)
  return ((names.filter (isWanted scope)).mergeSort order).eraseDups

def declaringLetters : List Char :=
  "aAfFgiIlnprtux".toList

def declareNames (command : String) (words : List String) : Run Unit := do
  let (isOn, isOff, names) := readLetters words
  let isInFunction := (← get).scope.hidden.isSome
  match (isOn ++ isOff).find? fun letter => !declaringLetters.contains letter with
  | some letter =>
    Run.complain (command ++ ": -" ++ String.singleton letter ++ ": invalid option")
    showUsage command
  | none =>
    if command = "local" && !isInFunction then
      Run.refuse 1 "local: can only be used in a function"
    else if isOn.contains 'f' || isOn.contains 'F' then
      let functions := (← get).scope.functions
      let isKnown (name : String) : Bool := functions.any fun entry => entry.1 == name
      if isOn.contains 'F' then
        if names.isEmpty then
          let order (left right : String) : Bool := decide (left ≤ right)
          printLines (((functions.map Prod.fst).mergeSort order).map ("declare -f " ++ ·))
        else printLines (names.filter isKnown)
      Run.setStatus (if names.all isKnown then 0 else 1)
    else if isOn.contains 'p' then
      if names.isEmpty then
        let traits := isOn.filter (· != 'p')
        let known ← knownNames fun scope name =>
          traits.all (Run.traitLetters scope name).toList.contains
        printDeclarations command known
      else printDeclarations command names
    else if names.isEmpty then
      let known ← knownNames fun scope name =>
        isOn.all (Run.traitLetters scope name).toList.contains
      if isOn.isEmpty then
        let values ← known.mapM fun name => do return (name, ← Run.lookup? name)
        printLines (values.filterMap fun (name, value) =>
          value.map fun value => name ++ "=" ++ Quotation.ifNeeded value)
      else printDeclarations command known
    else
      Run.setStatus 0
      let declaration : Declaration :=
        { command, isOn, isOff, covers := isInFunction && !isOn.contains 'g' }
      for word in names do
        declareWord declaration word

def markNames (command : String) (letter : Char) (words : List String) : Run Unit := do
  let (isOn, _, names) := readLetters words
  match isOn.find? fun letter => !"aAfnp".toList.contains letter with
  | some letter =>
    Run.complain (command ++ ": -" ++ String.singleton letter ++ ": invalid option")
    showUsage command
  | none =>
    if isOn.contains 'f' then Run.setStatus 0
    else if names.isEmpty || isOn.contains 'p' then
      let known ← knownNames fun scope name =>
        (Run.traitLetters scope name).toList.contains letter
      printDeclarations command known
    else
      Run.setStatus 0
      let lists := isOn.filter fun letter => letter == 'a' || letter == 'A'
      let declaration : Declaration :=
        if isOn.contains 'n' then { command, isOff := [letter] }
        else { command, isOn := letter :: lists }
      let mut status := 0
      for word in names do
        declareWord declaration word
        if (← get).scope.status ≠ 0 then status := 1
        Run.setStatus 0
      Run.setStatus status

def unsetNames (words : List String) : Run Unit := do
  match ← extendedOptions? "unset" "fvn" "" words with
  | none => return ()
  | some (options, words) =>
    Run.setStatus 0
    for word in words do
      let scope := (← get).scope
      let removesFunction := hasOption options 'f' ||
        !hasOption options 'v' && (← Run.lookup? word).isNone && (scope.elements? word).isNone
      match Declared.ofWord? word with
      | some { name, key := some key, value := none, .. } =>
        if key = "@" || key = "*" then Run.setElements name none
        else
          let target ← Run.elementAt name key
          let elements ← Run.elementsOf name
          Run.setElements name (some (elements.erase (target.key.getD "0")))
      | declared? =>
        let name := if hasOption options 'n' then word
          else (declared?.map fun declared =>
            scope.referred declared.name referenceLimit).getD word
        if scope.fixed.contains name && !hasOption options 'f' then
          Run.refuse 1 ("unset: " ++ name ++ ": cannot unset: readonly variable")
        else if removesFunction && scope.functions.any fun entry => entry.1 == name then
          Run.modifyScope fun scope =>
            { scope with functions := scope.functions.filter fun entry => entry.1 != name }
        else
          Run.setValue name none
          Run.setElements name none
          Run.setTraits name []
          Run.noteValue name none
          Run.modifyScope fun scope => { scope with exported := scope.exported.filter (· != name) }

end SymbolCache.Program.Shell.Builtin
