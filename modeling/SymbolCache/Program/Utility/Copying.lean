import SymbolCache.Program.Utility.Files

/-!
# Copies of files

Utilities that copy and move files and directories.
-/

set_option autoImplicit false

namespace SymbolCache.Program.Utility

/-! ## Targets -/

/-- Where something goes: into the target if that is a directory, else to the target itself. -/
def destination (options : Options) (disk : Disk) (target source : String) : String :=
  if !options.has 'T' && disk.isDirectory target then
    Path.join target (lastName source)
  else target

/-- Runs a utility on words and their target: a directory that an option names, or the last word. -/
def toTarget (name : String) (options : Options)
    (utility : String → String → StateM Surroundings Outcome) : StateM Surroundings Outcome := do
  let disk := (← get).disk
  let (sources, target) := match options.value? 't' with
    | some target => (options.words, some target)
    | none => (options.words.dropLast, options.words.getLast?)
  match sources, target with
  | [], none => return misuse 1 name "missing file operand"
  | [], some source =>
    if (options.value? 't').isSome then return misuse 1 name "missing file operand"
    else return misuse 1 name ("missing destination file operand after " ++ quoted source)
  | sources, target =>
    let target := target.getD ""
    let needsDirectory := 1 < sources.length || (options.value? 't').isSome
    if needsDirectory && options.has 'T' then
      return misuse 1 name ("extra operand " ++ quoted target)
    else if needsDirectory && !disk.isDirectory target then
      let error : FileError := match disk.find target with
        | .error error => error
        | .ok _ => .notDirectory
      let kind := if (options.value? 't').isSome then "target directory " else "target "
      return fileFailure 1 name (kind ++ quoted target) error
    else onEach (utility target) sources

/-- Whether what is at a goal may be replaced. It may not be if an option keeps it, and the user may
be asked. -/
def mayReplace (name : String) (options : Options) (goal : String) :
    StateM Surroundings (Outcome × Bool) := do
  let isThere := (← get).disk.contains goal
  let choice := options.given.reverse.find? fun option => ['f', 'i', 'n'].contains option.1
  match choice.map Prod.fst with
  | some 'n' => return ({}, !isThere)
  | some 'i' => confirmIf isThere (name ++ ": overwrite " ++ quoted goal ++ "? ")
  | _ => return ({}, true)

/-! ## Copying -/

def tellCopy (options : Options) (source goal : String) : Outcome :=
  if options.has 'v' then .success (bytes (quoted source ++ " -> " ++ quoted goal ++ "\n")) else {}

def permissionOfCopy (options : Options) (disk : Disk) (source : Entry) :
    StateM Surroundings Nat := do
  let permission := Permission.of disk source.location source.node
  if ['a', 'c', 'p'].any options.has then return permission
  else return Permission.without (← get).mask permission

def copyFile (options : Options) (source : Entry) (content : ByteArray) (goal : String) :
    StateM Surroundings Outcome := do
  let disk := (← get).disk
  let isNew := !disk.contains goal
  let (question, isMeant) ← mayReplace "cp" options goal
  if !isMeant then return question
  else
    match ← change fun disk => do (← disk.createFile goal).setContent goal content with
    | .ok () =>
      if isNew then setPermission goal (← permissionOfCopy options disk source)
      return question.andThen (tellCopy options source.path goal)
    | .error error =>
      let error : FileError := if error = .isDirectory then .notDirectory else error
      return question.andThen
        (fileFailure 1 "cp" ("cannot create regular file " ++ quoted goal) error)

/-- Copies an entry and all that is below it to a goal, from the disk as it was at the start. It is
fuelled by the depth. -/
def copyTree (options : Options) (start : Disk) (source : Entry) (goal : String) :
    Nat → StateM Surroundings Outcome
  | 0 => return {}
  | fuel + 1 => do
    match source.node, (← get).disk.find goal with
    | .file _, .ok .directory =>
      return complaint 1 "cp"
        ("cannot overwrite directory " ++ quoted goal ++ " with non-directory")
    | .file content, _ => copyFile options source content goal
    | .directory, .ok (.file _) =>
      return complaint 1 "cp" ("cannot overwrite non-directory " ++ quoted goal ++
        " with directory " ++ quoted source.path)
    | .directory, target =>
      let isNew := target.toOption.isNone
      let made ← change fun disk => if isNew then disk.makeDirectory goal else .ok disk
      match made with
      | .error error =>
        return fileFailure 1 "cp" ("cannot create directory " ++ quoted goal) error
      | .ok () =>
        if isNew then setPermission goal (← permissionOfCopy options start source)
        let mut outcome := if isNew then tellCopy options source.path goal else {}
        for child in source.children start do
          outcome := outcome.andThen
            (← copyTree options start child (Path.join goal child.name) fuel)
        return outcome

def copy (options : Options) (target source : String) : StateM Surroundings Outcome := do
  let disk := (← get).disk
  let goal := destination options disk target source
  let isDeep := ['r', 'R', 'a'].any options.has
  match entryAt disk source with
  | .error error => return fileFailure 1 "cp" ("cannot stat " ++ quoted source) error
  | .ok entry =>
    if entry.isDirectory && !isDeep then
      return complaint 1 "cp" ("-r not specified; omitting directory " ++ quoted source)
    else
      let place := (disk.locate goal).toOption
      if place = some entry.location && !entry.isDirectory then
        return complaint 1 "cp"
          (quoted source ++ " and " ++ quoted goal ++ " are the same file")
      else
        let outcome ← copyTree options disk entry goal treeDepth
        if entry.isDirectory && place.any fun place => entry.location.isPrefixOf place then
          return outcome.andThen (complaint 1 "cp" ("cannot copy a directory, " ++ quoted source ++
            ", into itself, " ++ quoted goal))
        else return outcome

def cp : Utility :=
  withOptions
    { name := "cp", plain := "abdfHilLnpPrRsTuvxZ", valued := "tS", attached := "c"
      long := [("archive", 'a'), ("force", 'f'), ("interactive", 'i'), ("no-clobber", 'n'),
        ("no-target-directory", 'T'), ("preserve", 'c'), ("recursive", 'r'),
        ("target-directory", 't'), ("update", 'u'), ("verbose", 'v')] }
    fun options => toTarget "cp" options (copy options)

/-! ## Moving -/

def withMoved (disk : Disk) (origin place : Location) : Disk :=
  let entries := disk.nodes.toList.filter fun (location, _) => origin.isPrefixOf location
  let start := withoutTree (withoutTree disk place) origin
  entries.foldl
    (fun moved (location, node) =>
      let goal := place ++ location.drop origin.length
      Permission.giveWithKind (moved.put goal node) goal (Permission.withKind disk location node))
    start

def move (options : Options) (target source : String) : StateM Surroundings Outcome := do
  let disk := (← get).disk
  let goal := destination options disk target source
  match entryAt disk source with
  | .error error => return fileFailure 1 "mv" ("cannot stat " ++ quoted source) error
  | .ok entry =>
    let refuse (text : String) : StateM Surroundings Outcome := return complaint 1 "mv" text
    let refuseMove (error : FileError) : StateM Surroundings Outcome :=
      return fileFailure 1 "mv" ("cannot move " ++ quoted source ++ " to " ++ quoted goal) error
    match disk.locate goal with
    | .error error => refuseMove error
    | .ok place =>
      let (question, isMeant) ← mayReplace "mv" options goal
      let isFull := !(disk.namesIn place).isEmpty
      if !isMeant then return question
      else if Disk.endsInDots source then refuseMove .busy
      else if place = entry.location then
        if entry.isDirectory then
          refuse ("cannot move " ++ quoted source ++ " to a subdirectory of itself, " ++
            quoted (Path.join goal (lastName source)))
        else refuse (quoted source ++ " and " ++ quoted goal ++ " are the same file")
      else if entry.isDirectory && entry.location.isPrefixOf place then
        refuse ("cannot move " ++ quoted source ++ " to a subdirectory of itself, " ++ quoted goal)
      else
        match entry.isDirectory, disk.node? place with
        | true, some (.file _) =>
          refuse ("cannot overwrite non-directory " ++ quoted goal ++ " with directory " ++
            quoted source)
        | false, some .directory =>
          refuse ("cannot overwrite directory " ++ quoted goal ++ " with non-directory")
        | isDirectory, node =>
          if isDirectory && node.isSome && isFull then
            refuse ("cannot overwrite " ++ quoted goal ++ ": Directory not empty")
          else if !isDirectory && Path.endsInSlash goal then refuseMove .notDirectory
          else
            modify fun surroundings =>
              { surroundings with disk := withMoved surroundings.disk entry.location place }
            let told : Outcome := .success (if options.has 'v' then
              bytes ("renamed " ++ quoted source ++ " -> " ++ quoted goal ++ "\n") else [])
            return question.andThen told

def mv : Utility :=
  withOptions
    { name := "mv", plain := "bfinTuv", valued := "tS"
      long := [("force", 'f'), ("interactive", 'i'), ("no-clobber", 'n'),
        ("no-target-directory", 'T'), ("target-directory", 't'), ("update", 'u'),
        ("verbose", 'v')] }
    fun options => toTarget "mv" options (move options)

/-! ## Installing -/

def installFile (permission : Nat) (options : Options) (target source : String) :
    StateM Surroundings Outcome := do
  let disk := (← get).disk
  let goal := destination options disk target source
  match disk.find source with
  | .error error => return fileFailure 1 "install" ("cannot stat " ++ quoted source) error
  | .ok .directory => return complaint 1 "install" ("omitting directory " ++ quoted source)
  | .ok (.file content) =>
    let above ← if options.has 'D' then
        makeAll "install" (options.has 'v') none ((pathsTo goal).dropLast)
      else pure {}
    match ← change fun disk => do (← disk.createFile goal).setContent goal content with
    | .ok () =>
      setPermission goal permission
      return above.andThen (tellCopy options source goal)
    | .error error =>
      return fileFailure 1 "install" ("cannot create regular file " ++ quoted goal) error

def install : Utility :=
  withOptions
    { name := "install", plain := "bcCdDpsTv", valued := "gmotS"
      long := [("directory", 'd'), ("mode", 'm'), ("no-target-directory", 'T'),
        ("target-directory", 't'), ("verbose", 'v')] }
    fun options =>
      let word := (options.value? 'm').getD "755"
      match Permission.readChange word with
      | none => return complaint 1 "install" ("invalid mode " ++ escaped word)
      | some change =>
        let permission := change.apply 0 false 0
        if options.has 'd' then
          if options.words.isEmpty then return misuse 1 "install" "missing file operand"
          else
            onEach (fun path =>
              makeAll "install" (options.has 'v') (some permission) (pathsTo path)) options.words
        else toTarget "install" options (installFile permission options)

end SymbolCache.Program.Utility
