import SymbolCache.Program.Permission
import SymbolCache.Program.Utility.Line
import SymbolCache.Program.Utility.Tree

/-!
# Files

Utilities that make, change and remove files and directories.
-/

set_option autoImplicit false

namespace SymbolCache.Program.Utility

/-! ## Making directories -/

def setPermission (path : String) (permission : Nat) : StateM Surroundings Unit :=
  modify fun surroundings =>
    match surroundings.disk.locate path with
    | .ok location =>
      { surroundings with disk := Permission.give surroundings.disk location permission }
    | .error _ => surroundings

/-- Makes a directory, and tells about it if asked for. `name` is that of the utility. -/
def makeDirectory (name : String) (tells : Bool) (permission : Option Nat) (path : String) :
    StateM Surroundings Outcome := do
  match ← change fun disk => disk.makeDirectory path with
  | .ok () =>
    permission.forM (setPermission path)
    return if tells then .success (bytes (name ++ ": created directory " ++ quoted path ++ "\n"))
      else {}
  | .error error =>
    return fileFailure 1 name ("cannot create directory " ++ escaped path) error

def pathsTo (path : String) : List String :=
  let text := path.toList
  let isEnd (index : Nat) : Bool :=
    text[index]? != some '/' && (text[index + 1]?.getD '/') == '/'
  (List.range text.length).filterMap fun index =>
    if !isEnd index then none
    else if (text.drop (index + 1)).all (· == '/') then some path
    else some (String.ofList (text.take (index + 1)))

/-- Makes directories, each below the one before, as far as they are not there. -/
def makeAll (name : String) (tells : Bool) (permission : Option Nat) : Utility
  | [] => return {}
  | path :: paths => do
    let disk := (← get).disk
    match disk.find path with
    | .ok .directory => makeAll name tells permission paths
    | .ok (.file _) =>
      let error : FileError := if paths.isEmpty then .alreadyExists else .notDirectory
      return fileFailure 1 name ("cannot create directory " ++ escaped path) error
    | .error _ =>
      let own := if paths.isEmpty then permission else none
      let outcome ← makeDirectory name tells own path
      if outcome.ending = .exited 0 then
        return outcome.andThen (← makeAll name tells permission paths)
      else return outcome

def mkdir : Utility :=
  withOptions
    { name := "mkdir", plain := "pv", valued := "m"
      long := [("mode", 'm'), ("parents", 'p'), ("verbose", 'v')] }
    fun options => do
      let mask := (← get).mask
      let change? := (options.value? 'm').map fun word => (word, Permission.readChange word)
      match options.words, change? with
      | [], _ => return misuse 1 "mkdir" "missing operand"
      | _, some (word, none) =>
        return complaint 1 "mkdir" ("invalid mode " ++ escaped word)
      | words, _ =>
        let permission := (change?.bind Prod.snd).map fun change =>
          change.apply mask true 0o777
        onEach (fun path =>
          if options.has 'p' && !path.isEmpty then
            makeAll "mkdir" (options.has 'v') permission (pathsTo path)
          else makeDirectory "mkdir" (options.has 'v') permission path) words

def mkfifo : Utility :=
  withOptions { name := "mkfifo", plain := "Z", valued := "m", long := [("mode", 'm')] }
    fun options => do
      let mask := (← get).mask
      let change? := (options.value? 'm').map fun word => (word, Permission.readChange word)
      match options.words, change? with
      | [], _ => return misuse 1 "mkfifo" "missing operand"
      | _, some (_, none) => return complaint 1 "mkfifo" "invalid mode"
      | words, _ =>
        let permission := match change?.bind Prod.snd with
          | some change => change.apply mask false 0o666
          | none => Permission.without mask 0o666
        onEach (fun path => do
          let made ← change fun disk => do
            if disk.contains path then throw .alreadyExists
            let location ← disk.locate path
            return Permission.giveWithKind (← disk.createFile path) location
              (Permission.pipeBit + permission)
          match made with
          | .ok () => return {}
          | .error error =>
            return fileFailure 1 "mkfifo" ("cannot create fifo " ++ quoted path) error) words

/-! ## Making files -/

def isTime (word : String) : Bool :=
  word.toList.any Text.isAsciiDigit || ["now", "today", "yesterday", "tomorrow"].contains word

def touch : Utility :=
  withOptions
    { name := "touch", plain := "acfhm", valued := "drt"
      long := [("date", 'd'), ("no-create", 'c'), ("no-dereference", 'h'), ("reference", 'r')] }
    fun options => do
      let disk := (← get).disk
      let time := (options.value? 'd').orElse fun () => options.value? 't'
      let isWrong : Bool := match options.value? 't', time with
        | some word, _ => word.length < 8
        | none, some word => !isTime word
        | none, none => false
      let reference := options.value? 'r'
      if isWrong then
        return complaint 1 "touch" ("invalid date format " ++ escaped (time.getD ""))
      else
        match reference.map fun path => (disk.find path, path) with
        | some (.error error, path) =>
          return fileFailure 1 "touch" ("failed to get attributes of " ++ quoted path) error
        | _ =>
          if options.words.isEmpty then return misuse 1 "touch" "missing file operand"
          else
            onEach (fun path => do
              let made ← change fun disk =>
                if disk.contains path || options.has 'c' then .ok disk else disk.createFile path
              match made with
              | .ok () => return {}
              | .error .isDirectory =>
                return fileFailure 1 "touch" ("setting times of " ++ quoted path) .notFound
              | .error error =>
                return fileFailure 1 "touch" ("cannot touch " ++ quoted path) error)
              options.words

/-! ## Sizes -/

/-- How the size of a file is to change: a sign and a number. -/
structure Resizing where
  sign : Option Char
  size : Nat
  deriving Repr, DecidableEq

def Resizing.ofText? (text : String) : Option Resizing :=
  let (sign, text) : Option Char × List Char := match text.toList with
    | [] => (none, [])
    | sign :: rest =>
      if ['+', '-', '<', '>', '/', '%'].contains sign then (some sign, rest)
      else (none, sign :: rest)
  let digits := text.takeWhile Text.isAsciiDigit
  if digits.isEmpty then none
  else
    (multiple? (text.drop digits.length)).map fun multiple =>
      { sign, size := Text.digitsValue 0 digits * multiple }

def Resizing.apply (resizing : Resizing) (size : Nat) : Nat :=
  let other := resizing.size
  match resizing.sign with
  | some '+' => size + other
  | some '-' => size - other
  | some '<' => min size other
  | some '>' => max size other
  | some '/' => size / other * other
  | some '%' => (size + other - 1) / other * other
  | _ => other

def truncate : Utility :=
  withOptions
    { name := "truncate", plain := "co", valued := "rs"
      long := [("io-blocks", 'o'), ("no-create", 'c'), ("reference", 'r'), ("size", 's')] }
    fun options => do
      let disk := (← get).disk
      let reference := options.value? 'r'
      let resizing := match options.value? 's', reference with
        | some text, _ => Resizing.ofText? text
        | none, some path => (disk.size? path).map fun size => { sign := none, size }
        | none, none => none
      match options.value? 's', reference, resizing with
      | none, none, _ =>
        return misuse 1 "truncate" "you must specify either ‘--size’ or ‘--reference’"
      | some text, _, none =>
        return complaint 1 "truncate" ("Invalid number: " ++ escaped text)
      | none, some path, none =>
        return fileFailure 1 "truncate" ("cannot stat " ++ quoted path) .notFound
      | _, _, some resizing =>
        if options.words.isEmpty then return misuse 1 "truncate" "missing file operand"
        else
          onEach (fun path => do
            let changed ← change fun disk =>
              if options.has 'c' && !disk.contains path then .ok disk
              else do
                let disk ← if disk.contains path then .ok disk else disk.createFile path
                match ← disk.find path with
                | .directory => throw .isDirectory
                | .file content =>
                  let size := resizing.apply content.size
                  let kept := content.toList.take size
                  let content := kept ++ List.replicate (size - kept.length) 0
                  disk.setContent path ⟨content.toArray⟩
            match changed with
            | .ok () => return {}
            | .error error =>
              return fileFailure 1 "truncate"
                ("cannot open " ++ quoted path ++ " for writing") error) options.words

/-! ## Permissions -/

def changeEntry (options : Options) (change : Permission.Change) (entry : Entry) :
    StateM Surroundings Outcome := do
  let surroundings ← get
  let before := Permission.of surroundings.disk entry.location entry.node
  let after := change.apply surroundings.mask entry.isDirectory before
  modify fun surroundings =>
    { surroundings with disk := Permission.give surroundings.disk entry.location after }
  let shown (permission : Nat) : String :=
    Permission.octal 4 permission ++ " (" ++ Permission.text permission ++ ")"
  let tell (text : String) : Outcome :=
    .success (bytes ("mode of " ++ quoted entry.path ++ " " ++ text ++ "\n"))
  return if before = after then
      if options.has 'v' then tell ("retained as " ++ shown after) else {}
    else if options.has 'v' || options.has 'c' then
      tell ("changed from " ++ shown before ++ " to " ++ shown after)
    else {}

def isPermissionWord (word : String) : Bool :=
  match word.toList with
  | '-' :: letter :: letters =>
    (letter :: letters).all fun letter => "rwxXstugoa,+-=01234567".toList.contains letter
  | _ => false

def chmod : Utility := fun words =>
  let own := words.find? isPermissionWord
  withOptions
    { name := "chmod", plain := "Rcfv", valued := "r"
      long := [("changes", 'c'), ("quiet", 'f'), ("recursive", 'R'), ("reference", 'r'),
        ("silent", 'f'), ("verbose", 'v')] }
    (fun options => do
      let disk := (← get).disk
      let reference := (options.value? 'r').map fun path =>
        (entryAt disk path).toOption.map fun entry =>
          Permission.Change.exactly (Permission.of disk entry.location entry.node) false
      let (text, paths) := match own with
        | some word => (word, options.words)
        | none => if reference.isSome then ("", options.words)
          else (options.words.headD "", options.words.drop 1)
      let change? := reference.getD (Permission.readChange text)
      match options.words, paths, change? with
      | [], _, _ => return misuse 1 "chmod" "missing operand"
      | _, [], _ => return misuse 1 "chmod" ("missing operand after " ++ escaped text)
      | _, _, none => return misuse 1 "chmod" ("invalid mode: " ++ escaped text)
      | _, paths, some change =>
        onEach (fun path => do
          match entryAt (← get).disk path with
          | .error error =>
            let tells := options.has 'v'
            return (if options.has 'f' then .ofBool false
              else fileFailure 1 "chmod" ("cannot access " ++ quoted path) error).andThen
              (.success (if tells then bytes (quoted path ++ " could not be accessed\n") else []))
          | .ok entry =>
            let disk := (← get).disk
            let entries := if options.has 'R' then entry.tree disk Entry.isDirectory treeDepth
              else [entry]
            let outcomes ← entries.mapM (changeEntry options change)
            return outcomes.foldl Outcome.andThen {}) paths)
    (words.filter fun word => some word ≠ own)

/-! ## Removing -/

def withoutTree (disk : Disk) (location : Location) : Disk :=
  Permission.forget
    { disk with nodes := disk.nodes.filter fun place _ => !location.isPrefixOf place }
    fun place => location.isPrefixOf place

/-- Asks whether something is to be done, and reads the answer from a line of the input. -/
def confirm (question : String) : StateM Surroundings (Outcome × Bool) := do
  let input := (← get).input
  let line := input.takeWhile (· != 10)
  modify fun surroundings => { surroundings with input := input.drop (line.length + 1) }
  let isYes := [some 121, some 89].contains line.head?
  return ({ written := #[(.messages, bytes question)] }, isYes)

def confirmIf (isWanted : Bool) (question : String) : StateM Surroundings (Outcome × Bool) :=
  if isWanted then confirm question else return ({}, true)

def Options.asks (options : Options) : Bool :=
  (options.given.reverse.find? fun option => ['f', 'i', 'n'].contains option.1).any fun option =>
    option.1 == 'i'

def kindName (entry : Entry) : String :=
  match entry.node with
  | .directory => "directory"
  | .file content => if content.size = 0 then "regular empty file" else "regular file"

def dropEntry (options : Options) (entry : Entry) : StateM Surroundings Outcome := do
  let (question, isMeant) ← confirmIf options.asks
    ("rm: remove " ++ kindName entry ++ " " ++ quoted entry.path ++ "? ")
  if isMeant then
    modify fun surroundings =>
      { surroundings with disk := withoutTree surroundings.disk entry.location }
    let kind := if entry.isDirectory then "directory " else ""
    return question.andThen (if options.has 'v' then
        .success (bytes ("removed " ++ kind ++ quoted entry.path ++ "\n"))
      else {})
  else return question

def removeTree (options : Options) : Nat → Entry → StateM Surroundings Outcome
  | 0, _ => return {}
  | fuel + 1, entry => do
    let children := entry.children (← get).disk
    if children.isEmpty then dropEntry options entry
    else
      let (question, isMeant) ← confirmIf options.asks
        ("rm: descend into directory " ++ quoted entry.path ++ "? ")
      if isMeant then
        let mut outcome := question
        for child in children do
          outcome := outcome.andThen (← removeTree options fuel child)
        if (entry.children (← get).disk).isEmpty then
          return outcome.andThen (← dropEntry options entry)
        else return outcome
      else return question

def remove (options : Options) (path : String) : StateM Surroundings Outcome := do
  let refuse (reason : String) : Outcome :=
    complaint 1 "rm" ("cannot remove " ++ quoted path ++ ": " ++ reason)
  let isDeep := options.has 'r' || options.has 'R'
  match entryAt (← get).disk path with
  | .error error =>
    let isFine := options.has 'f' && (error = .notFound || error = .notDirectory)
    return if isFine then {} else refuse error.reason
  | .ok entry =>
    if !entry.isDirectory then dropEntry options entry
    else if isDeep then
      let name := lastName path
      if entry.location.isEmpty then
        return .failure 1
          ("rm: it is dangerous to operate recursively on " ++ quoted path ++ "\n" ++
            "rm: use --no-preserve-root to override this failsafe\n")
      else if name = "." || name = ".." then
        return complaint 1 "rm" ("refusing to remove '.' or '..' directory: skipping " ++
          quoted path)
      else removeTree options treeDepth entry
    else if !options.has 'd' then return refuse FileError.isDirectory.reason
    else if (entry.children (← get).disk).isEmpty then dropEntry options entry
    else return refuse "Directory not empty"

def rm : Utility :=
  withOptions
    { name := "rm", plain := "dfiIrRv", attached := "p"
      long := [("dir", 'd'), ("force", 'f'), ("no-preserve-root", 'o'), ("preserve-root", 'p'),
        ("recursive", 'r'), ("verbose", 'v')] }
    fun options =>
      if options.words.isEmpty then
        if options.has 'f' then return {} else return misuse 1 "rm" "missing operand"
      else onEach (remove options) options.words

def unlink : Utility :=
  withOptions { name := "unlink" } fun options => do
    match options.words with
    | [] => return misuse 1 "unlink" "missing operand"
    | _ :: extra :: _ => return misuse 1 "unlink" ("extra operand " ++ escaped extra)
    | [path] =>
      let refuse (error : FileError) : Outcome :=
        fileFailure 1 "unlink" ("cannot unlink " ++ quoted path) error
      match entryAt (← get).disk path with
      | .error error => return refuse error
      | .ok entry =>
        if entry.isDirectory then return refuse .isDirectory
        else
          modify fun surroundings =>
            { surroundings with disk := withoutTree surroundings.disk entry.location }
          return {}

def pathsAbove (path : String) : List String :=
  ((pathsTo path).dropLast).reverse

def removeEmpty (options : Options) (isAbove : Bool) (path : String) :
    StateM Surroundings Outcome := do
  let disk := (← get).disk
  let told : Outcome := .success (if options.has 'v' then
    bytes ("rmdir: removing directory, " ++ quoted path ++ "\n") else [])
  let refuse (reason : String) : Outcome :=
    let kind := if isAbove then "directory " else ""
    if options.has 'n' && reason = "Directory not empty" then told
    else
      told.andThen
        (complaint 1 "rmdir" ("failed to remove " ++ kind ++ quoted path ++ ": " ++ reason))
  match entryAt disk path with
  | .error error => return refuse error.reason
  | .ok entry =>
    if !entry.isDirectory then return refuse FileError.notDirectory.reason
    else if lastName path = "." then return refuse "Invalid argument"
    else if (disk.namesIn entry.location).isEmpty then
      modify fun surroundings =>
        { surroundings with disk := withoutTree surroundings.disk entry.location }
      return told
    else return refuse "Directory not empty"

/-- Removes empty directories one after the other, up to one that cannot be removed. -/
def removeAbove (options : Options) : Utility
  | [] => return {}
  | path :: paths => do
    let outcome ← removeEmpty options true path
    if outcome.ending = .exited 0 then
      return outcome.andThen (← removeAbove options paths)
    else return outcome

def rmdir : Utility :=
  withOptions
    { name := "rmdir", plain := "pv"
      long := [("ignore-fail-on-non-empty", 'n'), ("parents", 'p'), ("verbose", 'v')] }
    fun options =>
      if options.words.isEmpty then return misuse 1 "rmdir" "missing operand"
      else
        onEach (fun path => do
          let outcome ← removeEmpty options false path
          if options.has 'p' && outcome.ending = .exited 0 then
            return outcome.andThen (← removeAbove options (pathsAbove path))
          else return outcome) options.words

end SymbolCache.Program.Utility
