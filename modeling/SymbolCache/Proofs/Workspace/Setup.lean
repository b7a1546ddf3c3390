import SymbolCache.Proofs.Disk.Confinement
import SymbolCache.Workspace

/-!
# Setting up workspaces

A workspace is set up in three steps: its directory is made, the default configuration is written,
and version control is told to ignore the directory. Up to the second step a failure leaves nothing
behind but directories. The third one fails where the list of what is ignored is there but cannot be
read as a text; then the configuration is left behind, and another attempt is refused because of it.
In a directory where none of this is in the way, setting up succeeds.
-/

set_option autoImplicit false

namespace SymbolCache

theorem Store.isPlain_directoryName : IsPlain Store.directoryName := by decide

theorem Store.isPlain_configName : IsPlain Store.configName := by decide

namespace Workspace

variable {root : String} {before after : Disk}

/-! ## The files of a workspace -/

theorem isPlain_ignoreName : IsPlain ".gitignore" := by decide

theorem place_configPath_ne (disk : Disk) (root : String) :
    disk.place (configPath root) ≠ disk.place (ignorePath root) := by
  rw [configPath, Disk.place_join _ _ Store.isPlain_configName, directory,
    Disk.place_join _ _ Store.isPlain_directoryName, ignorePath,
    Disk.place_join _ _ isPlain_ignoreName]
  intro same
  have lengths := congrArg List.length same
  simp at lengths

private theorem enters_of_find_configPath {node : Node}
    (found : before.find (configPath root) = .ok node) :
    before.Enters root := by
  obtain ⟨-, enters, -⟩ := (Disk.find_join Store.isPlain_configName).mp found
  exact ((Disk.enters_join Store.isPlain_directoryName).mp enters).1

/-- Where the path of the configuration is not too long, that of something with a shorter name
beside its directory is not either. -/
theorem isPath_join {name : String} (plain : IsPlain name)
    (shorter : name.utf8ByteSize ≤ Store.configName.utf8ByteSize)
    (valid : name.toList.contains '\x00' = false) (path : Disk.IsPath (configPath root)) :
    Disk.IsPath (Path.join root name) := by
  obtain ⟨link, joined⟩ := Path.exists_join root
  obtain ⟨link', joined'⟩ := Path.exists_join (directory root)
  have config : configPath root =
      root ++ link ++ Store.directoryName ++ link' ++ Store.configName := by
    rw [configPath, joined' Store.isPlain_configName, directory, joined Store.isPlain_directoryName]
  have size : Store.configName.utf8ByteSize ≤ Disk.nameLimit := by decide
  constructor
  case filled =>
    have filled := Path.join_ne_empty root plain
    simpa [String.isEmpty_iff] using filled
  case valid =>
    have whole := path.valid
    rw [config] at whole
    rw [joined plain]
    simp_all
  case short =>
    have short := path.short
    rw [config] at short
    rw [joined plain]
    simp only [String.utf8ByteSize_append] at short ⊢
    omega
  case names =>
    have names := path.names
    rw [configPath, Disk.names_join _ Store.isPlain_configName, directory,
      Disk.names_join _ Store.isPlain_directoryName] at names
    rw [Disk.names_join _ plain]
    intro other member
    rcases List.mem_append.mp member with above | last
    · exact names other (by simp [above])
    · rw [List.mem_singleton.mp last]
      exact Nat.le_trans shorter size

private theorem isPath_directory (path : Disk.IsPath (configPath root)) :
    Disk.IsPath (directory root) :=
  isPath_join Store.isPlain_directoryName (by decide) (by decide) path

private theorem isPath_ignorePath (path : Disk.IsPath (configPath root)) :
    Disk.IsPath (ignorePath root) :=
  isPath_join isPlain_ignoreName (by decide) (by decide) path

/-! ## Ignoring the directory -/

def ignoring : Option String → String
  | none => ignoreEntry
  | some text =>
    if (Text.lines text.toList).any ignoresDirectory then text else text ++ ("\n" ++ ignoreEntry)

private theorem any_ignoresDirectory_ignoring (old : Option String) :
    (Text.lines (ignoring old).toList).any ignoresDirectory = true := by
  have entry : (Text.lines ignoreEntry.toList).any ignoresDirectory = true := by decide +kernel
  cases old with
  | none => exact entry
  | some text =>
      rw [ignoring]
      split
      case isTrue ignored => exact ignored
      case isFalse =>
        rw [String.toList_append, String.toList_append]
        change (Text.lines (text.toList ++ '\n' :: ignoreEntry.toList)).any ignoresDirectory = true
        rw [Text.lines_append, List.any_append, entry, Bool.or_true]

/-- What the list had in it stays at its start. -/
theorem exists_ignoring_eq_append (text : String) :
    ∃ added, ignoring (some text) = text ++ added := by
  rw [ignoring]
  split
  · exact ⟨"", (String.append_empty).symm⟩
  · exact ⟨_, rfl⟩

/-- In a directory that is there, ignoring fails only if the list is there and is no text. -/
theorem run_ignoreDirectory (enters : before.Enters root) (path : Disk.IsPath (ignorePath root)) :
    (∃ error, before.contains (ignorePath root) = true ∧
      before.readText (ignorePath root) = .error error ∧
        (ignoreDirectory root).run.run before = (.error error, before)) ∨
      ∃ old after, before.node? (before.place (ignorePath root)) =
          old.map (fun text : String => .file text.toUTF8) ∧
        (ignoreDirectory root).run.run before = (.ok (), after) ∧
          before.Writes (ignorePath root) (ignoring old).toUTF8 after := by
  rw [ignoreDirectory, FilingOn.run_get_bind]
  cases there : before.contains (ignorePath root) with
  | false =>
      rw [if_neg Bool.false_ne_true]
      have free := Disk.free_of_contains_eq_false isPlain_ignoreName path enters there
      have located := (Disk.locate_join isPlain_ignoreName).mpr ⟨path, enters, rfl⟩
      rw [← Disk.place_join _ _ isPlain_ignoreName] at located
      obtain ⟨made, creates⟩ := Disk.exists_createFile located (by rw [free]; exact nofun)
        (Path.endsInSlash_join root isPlain_ignoreName)
      rcases Filing.run_writeFile (ignorePath root) ignoreEntry.toUTF8 before with
        ⟨error, fails, -⟩ | ⟨after, runs, writes⟩
      · cases creates.symm.trans fails
      · exact .inr ⟨none, after, free, runs, writes⟩
  | true =>
      rw [if_pos rfl, FilingOn.run_bind, Filing.run_read]
      cases reads : before.readText (ignorePath root) with
      | error error => exact .inl ⟨error, rfl, rfl, rfl⟩
      | ok text =>
          have found := Disk.find_of_readText reads
          obtain ⟨_, located, lies, -⟩ := Disk.find_eq_file_iff.mp found
          obtain rfl := Disk.eq_place_of_locate located
          dsimp only
          split
          case isTrue ignored =>
            refine .inr ⟨some text, before, lies, rfl, ?_⟩
            rw [ignoring, if_pos ignored]
            exact .of_find found
          case isFalse missing =>
            obtain ⟨after, changed, writes⟩ :=
              Disk.exists_append found ("\n" ++ ignoreEntry).toUTF8
            refine .inr ⟨some text, after, lies, ?_, ?_⟩
            · rw [Filing.run_change, changed]
            · rw [ignoring, if_neg missing]
              exact writes

/-! ## The steps -/

theorem Setup.run_get_bind {α : Type} (next : Disk → Setup α) (before : Disk) :
    (get >>= next).run.run before = (next before).run.run before := by
  rw [ExceptT.run_bind, StateT.run_bind]
  rfl

theorem Setup.run_ofFiling_bind {α β : Type} (filing : Filing α) (next : α → Setup β)
    (before : Disk) :
    (Setup.ofFiling filing >>= next).run.run before =
      match filing.run.run before with
      | (.ok value, between) => (next value).run.run between
      | (.error error, between) => (.error (.file error), between) := by
  rw [ExceptT.run_bind, StateT.run_bind, Setup.ofFiling, ExceptT.run_adapt, StateT.run_map]
  generalize filing.run.run before = result
  obtain ⟨error | value, between⟩ := result
  · rfl
  · rfl

/-- A workspace that has a configuration is left alone. -/
theorem run_setUp_of_contains (there : before.contains (configPath root) = true) :
    (setUp root).run.run before = (.error (.configExists (configPath root)), before) := by
  rw [setUp, Setup.run_get_bind, if_pos there]
  rfl

private theorem run_setUp_of_free (free : before.contains (configPath root) = false) :
    (setUp root).run.run before =
      match (Filing.makeDirectories (directory root)).run.run before with
      | (.error error, made) => (.error (.file error), made)
      | (.ok (), made) =>
        match (Filing.writeFile (configPath root) Config.defaultDocument.toUTF8).run.run made with
        | (.error error, written) => (.error (.file error), written)
        | (.ok (), written) =>
          match (ignoreDirectory root).run.run written with
          | (.error error, ignored) => (.error (.file error), ignored)
          | (.ok (), ignored) => (.ok (configPath root), ignored) := by
  rw [setUp, Setup.run_get_bind, if_neg (by simp [free]), Setup.run_ofFiling_bind]
  generalize (Filing.makeDirectories (directory root)).run.run before = result
  obtain ⟨error | value, made⟩ := result
  · rfl
  · dsimp only
    rw [Setup.run_ofFiling_bind]
    generalize (Filing.writeFile (configPath root) _).run.run made = result
    obtain ⟨error | value, written⟩ := result
    · rfl
    · dsimp only
      rw [Setup.run_ofFiling_bind]
      generalize (ignoreDirectory root).run.run written = result
      obtain ⟨error | value, ignored⟩ := result
      · rfl
      · rfl

/-! ## What is left -/

/-- Nothing is another thing than before but what is at some paths, except that there are new
directories. -/
def KeepsBut (paths : List String) (before after : Disk) : Prop :=
  ∀ location, (∀ path ∈ paths, location ≠ before.place path) →
    after.node? location = before.node? location ∨
      before.node? location = none ∧ after.node? location = some .directory

theorem KeepsBut.writes {paths : List String} {path : String} {content : ByteArray}
    {between : Disk} (keeps : KeepsBut paths before between)
    (directories : before.KeepsDirectories between) (writes : between.Writes path content after) :
    KeepsBut (path :: paths) before after := by
  intro location apart
  obtain ⟨first, others⟩ := List.forall_mem_cons.mp apart
  rw [writes.others location (by rwa [directories.place])]
  exact keeps location others

structure SetsUp (root : String) (before after : Disk) : Prop where
  configured : after.find (configPath root) = .ok (.file Config.defaultDocument.toUTF8)
  ignores : ∃ text, after.readText (ignorePath root) = .ok text ∧
    (Text.lines text.toList).any ignoresDirectory = true
  extended : ∀ old, before.node? (before.place (ignorePath root)) = some (.file old) →
    ∃ added, after.find (ignorePath root) = .ok (.file (old ++ added))
  others : KeepsBut [ignorePath root, configPath root] before after

/-- No file was made or changed. In a directory that is there, another attempt is refused only if
this one was, which is because there is a configuration. -/
structure LeavesNothing (root : String) (before : Disk) (failure : Failure) (after : Disk) :
    Prop where
  makes : before.MakesDirectories after
  refused : failure = .configExists (configPath root) ↔ before.contains (configPath root) = true
  ready : before.IsTree → before.isDirectory root = true →
    after.contains (configPath root) = before.contains (configPath root)

/-- The configuration was written, but the list of what is ignored is there and cannot be read.
Another attempt is refused, also once the list has been put in order. -/
structure LeavesConfig (root : String) (before : Disk) (error : FileError) (after : Disk) :
    Prop where
  unreadable : after.contains (ignorePath root) = true ∧
    after.readText (ignorePath root) = .error error
  listed : before.isDirectory root = true → before.contains (ignorePath root) = true ∧
    before.readText (ignorePath root) = .error error
  configured : after.find (configPath root) = .ok (.file Config.defaultDocument.toUTF8)
  others : KeepsBut [configPath root] before after
  again : ∀ later : Disk, later.find (configPath root) = after.find (configPath root) →
    (setUp root).run.run later = (.error (.configExists (configPath root)), later)

private theorem leavesNothing_of_made (free : before.contains (configPath root) = false)
    (error : FileError) :
    LeavesNothing root before (.file error)
      ((Filing.makeDirectories (directory root)).run.run before).2 where
  makes := Filing.makes_makeDirectories _ before
  refused := by simp [free]
  ready tree directory := by
    have enters := Disk.enters_of_isDirectory directory
    have confined := Filing.confined_makeDirectories enters Store.isPlain_directoryName []
    rw [free, ← Bool.not_eq_true, Disk.contains_eq_true_iff]
    rintro ⟨node, found⟩
    have found' := (confined.find_inside tree enters Store.isPlain_directoryName
      Store.isPlain_configName List.not_mem_nil).mp found
    rw [configPath, Workspace.directory] at free
    rw [Disk.contains_eq_true_iff.mpr ⟨node, found'⟩] at free
    cases free

/-- In a directory that is there, the first two steps leave the list of what is ignored as it was.
-/
theorem find_ignorePath_of_written {made written : Disk} {node : Node}
    (isDirectory : before.isDirectory root = true)
    (makes : made = ((Filing.makeDirectories (directory root)).run.run before).2)
    (writes : made.Writes (configPath root) Config.defaultDocument.toUTF8 written)
    (found : written.find (ignorePath root) = .ok node) :
    before.find (ignorePath root) = .ok node := by
  have enters := Disk.enters_of_isDirectory isDirectory
  have confined := Filing.confined_makeDirectories enters Store.isPlain_directoryName []
  rw [← directory, ← makes] at confined
  have places := (confined.directories.trans writes.directories).place root
  obtain ⟨path, -, there⟩ := (Disk.find_join isPlain_ignoreName).mp found
  refine (Disk.find_join isPlain_ignoreName).mpr ⟨path, enters, ?_⟩
  have apart : made.place (ignorePath root) ≠ made.place (configPath root) :=
    (place_configPath_ne made root).symm
  have ignore : made.place (ignorePath root) = before.place root ++ [".gitignore"] := by
    rw [confined.directories.place, ignorePath, Disk.place_join _ _ isPlain_ignoreName]
  rw [ignore] at apart
  have other : ".gitignore" ≠ Store.directoryName := by decide
  rwa [places, writes.others _ apart, confined.node?_eq (by simp) (by simp [other])] at there

/-- What comes of the last step, once the configuration has been written. -/
theorem ignoring_outcome {made written : Disk}
    (makes : made = ((Filing.makeDirectories (directory root)).run.run before).2)
    (writes : made.Writes (configPath root) Config.defaultDocument.toUTF8 written) :
    match (ignoreDirectory root).run.run written with
    | (.error error, after) => LeavesConfig root before error after
    | (.ok (), after) => SetsUp root before after := by
  obtain ⟨path, -, -⟩ := (Disk.find_join Store.isPlain_configName).mp writes.found
  have enters := enters_of_find_configPath writes.found
  have made' : before.MakesDirectories made := makes ▸ Filing.makes_makeDirectories _ before
  have keeps : KeepsBut [] before made := fun location _ => made'.node?_eq_or location
  have others := keeps.writes made'.keepsDirectories writes
  have directories := made'.keepsDirectories.trans writes.directories
  rcases run_ignoreDirectory enters (isPath_ignorePath path) with
    ⟨error, there, fails, runs⟩ | ⟨old, after, lies, runs, ignores⟩
  · rw [runs]
    refine ⟨⟨there, fails⟩, fun isDirectory => ?_, writes.found, others, fun later same => ?_⟩
    · obtain ⟨node, found⟩ := Disk.contains_eq_true_iff.mp there
      have found' := find_ignorePath_of_written isDirectory makes writes found
      rw [Disk.readText, found] at fails
      rw [Disk.readText, found']
      exact ⟨Disk.contains_eq_true_iff.mpr ⟨node, found'⟩, fails⟩
    · exact run_setUp_of_contains (Disk.contains_eq_true_iff.mpr ⟨_, same.trans writes.found⟩)
  · rw [runs]
    refine ⟨(ignores.spares (place_configPath_ne written root)).find writes.found,
      ⟨ignoring old, Disk.readText_of_find ignores.found, any_ignoresDirectory_ignoring old⟩,
      fun bytes there => ?_, others.writes directories ignores⟩
    have apart := (place_configPath_ne made root).symm
    have kept := (made'.spares.file bytes).mpr there
    rw [← made'.keepsDirectories.place, ← writes.others _ apart, ← writes.directories.place,
      lies] at kept
    cases old with
    | none => cases kept
    | some text =>
        obtain ⟨added, longer⟩ := exists_ignoring_eq_append text
        obtain rfl := Node.file.inj (Option.some.inj kept)
        refine ⟨added.toUTF8, ?_⟩
        rw [ignores.found, longer, String.toUTF8_eq_toByteArray, String.toByteArray_append]
        rfl

/-- A directory in which a workspace can be set up: it has no configuration, no file where its own
directory goes, and no list of what is ignored that is not a text. -/
structure Prepared (root : String) (disk : Disk) : Prop where
  tree : disk.IsTree
  isDirectory : disk.isDirectory root = true
  path : Disk.IsPath (configPath root)
  free : disk.contains (configPath root) = false
  noFile : ∀ content, disk.find (directory root) ≠ .ok (.file content)
  readable : disk.contains (ignorePath root) = true →
    ∃ text, disk.readText (ignorePath root) = .ok text

/-- In a prepared directory the first two steps succeed. -/
theorem exists_written_of_prepared (prepared : Prepared root before) :
    ∃ made written, (Filing.makeDirectories (directory root)).run.run before = (.ok (), made) ∧
      (Filing.writeFile (configPath root) Config.defaultDocument.toUTF8).run.run made =
          (.ok (), written) ∧
        made.Writes (configPath root) Config.defaultDocument.toUTF8 written := by
  have enters := Disk.enters_of_isDirectory prepared.isDirectory
  have noFile : ∀ content, before.node? (before.place root ++ [Store.directoryName]) ≠
      some (.file content) := fun content there =>
    prepared.noFile content ((Disk.find_join Store.isPlain_directoryName).mpr
      ⟨isPath_directory prepared.path, enters, there⟩)
  obtain ⟨made, makes, there⟩ := Filing.exists_makeDirectories_join enters
    Store.isPlain_directoryName (isPath_directory prepared.path) noFile
  rw [← directory] at makes
  have directories := (Filing.makes_makeDirectories (directory root) before).keepsDirectories
  have ready := (leavesNothing_of_made prepared.free .notFound).ready prepared.tree
    prepared.isDirectory
  rw [makes] at directories ready
  have enters' : made.Enters (directory root) := by
    rw [directory, Disk.enters_join Store.isPlain_directoryName, directories.place]
    exact ⟨directories.enters enters, there⟩
  have located := (Disk.locate_join Store.isPlain_configName).mpr ⟨prepared.path, enters', rfl⟩
  have free := Disk.free_of_contains_eq_false Store.isPlain_configName prepared.path enters'
    (ready.trans prepared.free)
  rw [← Disk.place_join _ _ Store.isPlain_configName] at located
  obtain ⟨_, creates⟩ := Disk.exists_createFile located (by rw [free]; exact nofun)
    (Path.endsInSlash_join _ Store.isPlain_configName)
  rcases Filing.run_writeFile (configPath root) Config.defaultDocument.toUTF8 made with
    ⟨error, fails, -⟩ | ⟨written, runs, writes⟩
  · cases creates.symm.trans fails
  · exact ⟨made, written, makes, runs, writes⟩

private theorem setUp_of_prepared (prepared : Prepared root before) :
    ((setUp root).run.run before).1 = .ok (configPath root) := by
  obtain ⟨made, written, makes, runs, writes⟩ := exists_written_of_prepared prepared
  rw [run_setUp_of_free prepared.free, makes]
  dsimp only
  rw [runs]
  rcases run_ignoreDirectory (enters_of_find_configPath writes.found)
      (isPath_ignorePath prepared.path) with ⟨error, there, fails, -⟩ | ⟨_, _, -, ignored, -⟩
  · obtain ⟨node, found⟩ := Disk.contains_eq_true_iff.mp there
    have found' := find_ignorePath_of_written prepared.isDirectory
      (congrArg Prod.snd makes).symm writes found
    obtain ⟨text, reads⟩ := prepared.readable (Disk.contains_eq_true_iff.mpr ⟨node, found'⟩)
    obtain rfl := Except.ok.inj (found'.symm.trans (Disk.find_of_readText reads))
    cases (Disk.readText_of_find found).symm.trans fails
  · dsimp only
    rw [ignored]

/-- Setting up a workspace succeeds as a whole or leaves no file behind, unless there is a list of
what is ignored that cannot be read. It succeeds in every directory that is prepared for it. -/
theorem setUp_outcome (root : String) (before : Disk) :
    (match (setUp root).run.run before with
      | (.ok path, after) => path = configPath root ∧ SetsUp root before after
      | (.error failure, after) =>
          LeavesNothing root before failure after ∨
            ∃ error, failure = .file error ∧ LeavesConfig root before error after) ∧
      (Prepared root before → ((setUp root).run.run before).1 = .ok (configPath root)) := by
  refine ⟨?_, setUp_of_prepared⟩
  cases there : before.contains (configPath root) with
  | true =>
      rw [run_setUp_of_contains there]
      exact .inl ⟨.refl, by simp [there], fun _ _ => rfl⟩
  | false =>
      have nothing := leavesNothing_of_made there
      rw [run_setUp_of_free there]
      generalize steps : (Filing.makeDirectories (directory root)).run.run before = result
        at nothing
      obtain ⟨error | value, made⟩ := result
      · exact .inl (nothing error)
      · dsimp only
        rcases Filing.run_writeFile (configPath root) Config.defaultDocument.toUTF8 made with
          ⟨error, -, runs⟩ | ⟨written, runs, writes⟩
        · rw [runs]
          exact .inl (nothing error)
        · rw [runs]
          have outcome := ignoring_outcome (congrArg Prod.snd steps).symm writes
          dsimp only
          generalize (ignoreDirectory root).run.run written = result at outcome ⊢
          obtain ⟨error | value, after⟩ := result
          · exact .inr ⟨error, rfl, outcome⟩
          · exact ⟨rfl, outcome⟩

def listedDisk : Disk :=
  (({} : Disk).put ["work"] .directory).put ["work", ".gitignore"] (.file "target".toUTF8)

/-- The list keeps its only line, and another one in it ignores the directory. -/
theorem setUp_outcome_example :
    let result := (setUp "/work").run.run listedDisk
    result.1 = .ok (configPath "/work") ∧
      (∃ text, result.2.readText (ignorePath "/work") = .ok text ∧
        (Text.lines text.toList).any ignoresDirectory = true) ∧
      ∃ added, result.2.find (ignorePath "/work") = .ok (.file ("target".toUTF8 ++ added)) := by
  intro result
  have tree : listedDisk.IsTree :=
    (Disk.isTree_empty.put [] "work" .directory rfl rfl).put ["work"] ".gitignore"
      (.file "target".toUTF8) rfl rfl
  have path : Disk.IsPath (configPath "/work") := by
    constructor <;> decide +kernel
  have noDirectory : listedDisk.contains (directory "/work") = false := by decide +kernel
  have prepared : Prepared "/work" listedDisk := by
    refine ⟨tree, by decide +kernel, path, by decide +kernel, fun content found => ?_, fun _ => ?_⟩
    · rw [Disk.contains_eq_true_iff.mpr ⟨_, found⟩] at noDirectory
      cases noDirectory
    · exact ⟨"target", by decide +kernel⟩
  obtain ⟨outcome, succeeds⟩ := setUp_outcome "/work" listedDisk
  have done : result.1 = .ok (configPath "/work") := succeeds prepared
  generalize ran : result = attempt at done ⊢
  rw [show (setUp "/work").run.run listedDisk = attempt from ran] at outcome
  obtain ⟨ended, after⟩ := attempt
  obtain rfl : ended = .ok (configPath "/work") := done
  obtain ⟨-, setsUp⟩ := outcome
  have place : listedDisk.place (ignorePath "/work") = ["work", ".gitignore"] := by decide +kernel
  exact ⟨rfl, setsUp.ignores, setsUp.extended _ (by rw [place]; rfl)⟩

def undecodableDisk : Disk :=
  (({} : Disk).put ["work"] .directory).put ["work", ".gitignore"] (.file ⟨#[0xff]⟩)

def failedAttempt : Except Failure String × Disk := (setUp "/work").run.run undecodableDisk

def laterAttempt : Except Failure String × Disk :=
  (setUp "/work").run.run (failedAttempt.2.put ["work", ".gitignore"] (.file .empty))

/-- The first attempt fails for the list and leaves the configuration behind. The later one fails
for the configuration, and the directory is still not ignored. -/
theorem setUp_leaves_config :
    undecodableDisk.contains (configPath "/work") = false ∧
      failedAttempt.1 = .error (.file .invalidText) ∧
        failedAttempt.2.contains (configPath "/work") = true ∧
          failedAttempt.2.isDirectory (configPath "/work") = false ∧
            laterAttempt.1 = .error (.configExists "/work/.gosym/config.toml") ∧
              laterAttempt.2.readText (ignorePath "/work") = .ok "" := by
  have free : undecodableDisk.contains (configPath "/work") = false := by decide +kernel
  have fails : failedAttempt.1 = .error (.file .invalidText) := by decide +kernel
  have left : failedAttempt.2.contains (configPath "/work") = true := by decide +kernel
  have file : failedAttempt.2.isDirectory (configPath "/work") = false := by decide +kernel
  have refused : laterAttempt.1 = .error (.configExists "/work/.gosym/config.toml") := by
    decide +kernel
  have unlisted : laterAttempt.2.readText (ignorePath "/work") = .ok "" := by decide +kernel
  exact ⟨free, fails, left, file, refused, unlisted⟩

end Workspace

end SymbolCache
