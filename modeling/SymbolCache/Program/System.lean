import SymbolCache.Program.Permission
import SymbolCache.Program.Utility

/-!
# The system

The directories, devices and programs that every disk has, and how a program is found by its name.
-/

set_option autoImplicit false

namespace SymbolCache.Program.System

def directories : List Location :=
  [["bin"], ["boot"], ["dev"], ["etc"], ["home"], ["lib"], ["media"], ["mnt"], ["opt"], ["proc"],
    ["root"], ["run"], ["sbin"], ["srv"], ["sys"], ["tmp"], ["usr"], ["usr", "bin"],
    ["usr", "include"], ["usr", "lib"], ["usr", "local"], ["usr", "local", "bin"],
    ["usr", "local", "sbin"], ["usr", "sbin"], ["usr", "share"], ["var"], ["var", "tmp"]]

def programDirectories : List Location :=
  [["bin"], ["usr", "bin"]]

def shellNames : List String :=
  ["bash", "dash", "sh"]

def launcherNames : List String :=
  ["awk", "env", "find", "mawk", "nice", "nohup", "printenv", "timeout", "which", "xargs"]

def programNames : List String :=
  launcherNames ++ shellNames ++ Utility.table.map Prod.fst

def files : List Location :=
  [["dev", "null"], ["dev", "stderr"], ["dev", "stdin"], ["dev", "stdout"], Utility.zeroes,
    ["etc", "hostname"], ["etc", "hosts"], ["etc", "passwd"]]

def withSystem (disk : Disk) : Disk :=
  let programs := programDirectories.flatMap fun directory =>
    programNames.map fun name => directory ++ [name]
  let nodes := directories.map (fun location => (location, Node.directory)) ++
    (files ++ programs).map fun location => (location, .file .empty)
  nodes.foldl
    (fun disk (location, node) =>
      if (disk.node? location).isSome then disk else disk.put location node) disk

def isProgram (location : Location) : Bool :=
  programDirectories.contains location.dropLast && programNames.contains (location.getLastD "")

def homes : List (String × String) :=
  [("root", "/root"), ("daemon", "/usr/sbin"), ("bin", "/bin"), ("sys", "/dev"), ("sync", "/bin"),
    ("games", "/usr/games"), ("man", "/var/cache/man"), ("lp", "/var/spool/lpd"),
    ("mail", "/var/mail"), ("news", "/var/spool/news"), ("uucp", "/var/spool/uucp"),
    ("proxy", "/bin"), ("www-data", "/var/www"), ("backup", "/var/backups"), ("list", "/var/list"),
    ("nobody", "/nonexistent")]

def homeOf? (user : String) : Option String :=
  (homes.find? fun entry => entry.1 == user).map Prod.snd

/-! ## Finding programs -/

/-- The directories in which programs are looked for unless a value says otherwise. -/
def searchPath : String := "/usr/local/sbin:/usr/local/bin:/usr/sbin:/usr/bin:/sbin:/bin"

inductive Executable where
  | program (name : String)
  | script (content : ByteArray)

/-- What can be run at the place that a path leads to. A file is a script if somebody may run it. -/
def executableAt (disk : Disk) (path : String) : Except FileError Executable := do
  let location ← disk.locate path
  match ← disk.find path with
  | .directory => throw .permissionDenied
  | .file content =>
    if isProgram location then return .program (location.getLastD "")
    else if Permission.isRunnable (Permission.of disk location (.file content)) then
      return .script content
    else throw .permissionDenied

/-- The path of the interpreter of a script and perhaps a word for it, if the first line of the
script tells them. -/
def interpreter? (content : ByteArray) : Option (String × Option String) :=
  match (Text.decodeLossy content.toList).toList with
  | '#' :: '!' :: text =>
    let isBlank (character : Char) : Bool := character == ' ' || character == '\t'
    let line := Text.trimEndWhere isBlank ((text.takeWhile (· != '\n')).dropWhile isBlank)
    let path := line.takeWhile fun character => !isBlank character
    let word := (line.drop path.length).dropWhile isBlank
    if path.isEmpty then none
    else some (String.ofList path, if word.isEmpty then none else some (String.ofList word))
  | _ => none

/-- The path of a program of some name in one of some directories. What is there but cannot be run
counts only if there is nothing else. -/
def search (disk : Disk) (name : String) (error : FileError) :
    List String → Except FileError String
  | [] => .error error
  | directory :: directories =>
    let path := Path.join directory name
    match executableAt disk path with
    | .ok _ => .ok path
    | .error .permissionDenied => search disk name .permissionDenied directories
    | .error _ => search disk name error directories

/-- The path of a program. A name without a slash is looked for in the directories of a search
path. -/
def locateProgram (disk : Disk) (searchPath : String) (name : String) : Except FileError String :=
  if name.isEmpty then .error .notFound
  else if name.toList.contains '/' then (executableAt disk name).map fun _ => name
  else if Disk.nameLimit < name.utf8ByteSize then .error .nameTooLong
  else
    search disk name .notFound ((Text.split ':' searchPath.toList).map fun directory =>
      if directory.isEmpty then "." else String.ofList directory)

end SymbolCache.Program.System
