import SymbolCache.Store.Basic

/-!
# Workspaces

A workspace keeps its configuration and its snapshot in a directory of its own, which it has version
control ignore.
-/

set_option autoImplicit false

namespace SymbolCache.Workspace

/-- A sequence of changes to the disk that may also fail for other reasons than the disk. -/
abbrev Setup (α : Type) := ExceptT Failure (StateM Disk) α

def Setup.ofFiling {α : Type} (filing : Filing α) : Setup α :=
  filing.adapt Failure.file

/-- The directory with the configuration and the snapshot. -/
def directory (root : String) : String :=
  Path.join root Store.directoryName

def configPath (root : String) : String :=
  Path.join (directory root) Store.configName

/-! ## Ignoring the directory -/

def ignorePath (root : String) : String :=
  Path.join root ".gitignore"

def ignoreEntry : String := "# gosym symbol cache\n.gosym/\n"

def ignoresDirectory (line : List Char) : Bool :=
  let line := Text.trim line
  line == ".gosym".toList || line == ".gosym/".toList

/-- Has version control ignore the directory, unless it does. -/
def ignoreDirectory (root : String) : Filing Unit := do
  if (← get).contains (ignorePath root) then
    let content ← .read fun disk => disk.readText (ignorePath root)
    if (Text.lines content.toList).any ignoresDirectory then return ()
    else .change fun disk => disk.append (ignorePath root) ("\n" ++ ignoreEntry).toUTF8
  else .writeFile (ignorePath root) ignoreEntry.toUTF8

/-! ## Setting up and opening -/

/-- Sets up the workspace in a directory with the default configuration, and gives the path of that.
A workspace that has a configuration keeps it. -/
def setUp (root : String) : Setup String := do
  let path := configPath root
  if (← get).contains path then throw (.configExists path)
  else
    .ofFiling (.makeDirectories (directory root))
    .ofFiling (.writeFile path Config.defaultDocument.toUTF8)
    .ofFiling (ignoreDirectory root)
    return path

/-- The configuration at a path; the default one if there is none. -/
def configAt (disk : Disk) (path : String) : Except Failure Config :=
  if disk.contains path then do
    let content ← (disk.readText path).mapError Failure.file
    Config.parse content
  else .ok {}

def openStore (disk : Disk) (root : String) : Except Failure Store :=
  (configAt disk (configPath root)).map (Store.create root)

end SymbolCache.Workspace
