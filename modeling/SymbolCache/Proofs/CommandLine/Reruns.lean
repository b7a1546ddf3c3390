import SymbolCache.Proofs.CommandLine.Roots
import SymbolCache.Proofs.Store.Starting

/-!
# Running a command again

A command that asks for symbols reports the same when it is run again, whether the second run loads
what the first one has saved or builds the index once more because that could not be saved.
-/

set_option autoImplicit false

namespace SymbolCache.CommandLine

open Job hiding run_bind
open Operation

/-- An answer that depends on what a store serves and on its configuration alone. -/
def ReadsServed (ask : Store → Nat → Answered) : Prop :=
  ∀ first second : Store, second.index = first.index → second.generation = first.generation →
    second.config = first.config → ask second = ask first

private theorem findSymbols_congr {first second : Store} (index : second.index = first.index)
    (config : second.config = first.config) (text : String) :
    second.findSymbols text = first.findSymbols text := by
  rw [Store.findSymbols, Store.findSymbols, index, config]

private theorem readsServed_search (text : String) :
    ReadsServed fun store limit => store.search limit text := by
  intro first second index generation config
  funext limit
  simp only [Store.search, findSymbols_congr index config, generation]

private theorem readsServed_complete (document line : String) :
    ReadsServed fun store limit => store.complete limit document line := by
  intro first second index generation config
  funext limit
  have empty : ∀ query, second.emptyAnswer query = first.emptyAnswer query := by
    intro query
    rw [Store.emptyAnswer, Store.emptyAnswer, generation]
  have offers : ∀ name, second.offersMembers document name = first.offersMembers document name := by
    intro name
    rw [Store.offersMembers, Store.offersMembers, Store.importsPackage, Store.importsPackage,
      index, config]
  have search : ∀ query, second.search limit query = first.search limit query := fun query =>
    congrFun (readsServed_search query first second index generation config) limit
  simp only [Store.complete, empty, offers, search]

/-! ## Operations -/

section

variable (answer : Request → Answer) (json : Bool) (limit : Option Nat)
  (ask : Store → Nat → Answered) {session : Session} (new : session.store.IsNew)

include new

theorem evaluate_answerWith :
    match session.served answer with
    | .error failure => ∃ ended, ended.disk = session.disk ∧
      (answerWith json limit ask).run.evaluate answer session = (.error failure, ended)
    | .ok index => ∃ ended, session.Ready answer index ended ∧
      (answerWith json limit ask).run.evaluate answer session =
        (.ok (Report.answer json (ask ended.store
          (limit.getD ended.store.config.completion.resultLimit))), ended) := by
  have starts := Session.start_of_served answer new
  simp only [answerWith, prepare, run_bind, evaluate_bind]
  generalize start.run.evaluate answer session = started at starts
  obtain ⟨result, ended⟩ := started
  cases serves : session.served answer with
  | error failure =>
      rw [serves] at starts
      obtain ⟨rfl, disk⟩ := starts
      exact ⟨ended, disk, rfl⟩
  | ok index =>
      rw [serves] at starts
      obtain ⟨⟨outcome, rfl⟩, ready⟩ := starts
      exact ⟨ended, ready, rfl⟩

/-- An answer leaves the disk alone unless the store got ready for it. -/
theorem disk_answerWith :
    ((answerWith json limit ask).run.evaluate answer session).2.disk = session.disk ∨
      ∃ index, session.served answer = .ok index ∧
        session.Ready answer index ((answerWith json limit ask).run.evaluate answer session).2 := by
  have evaluates := evaluate_answerWith answer json limit ask new
  cases serves : session.served answer with
  | error failure =>
      rw [serves] at evaluates
      obtain ⟨ended, disk, evaluates⟩ := evaluates
      rw [evaluates]
      exact .inl disk
  | ok index =>
      rw [serves] at evaluates
      obtain ⟨ended, ready, evaluates⟩ := evaluates
      rw [evaluates]
      exact .inr ⟨index, rfl, ready⟩

/-- A session like the one that was asked gives the same answer on the disk that this one has
left. -/
theorem answerWith_again {ask} (reads : ReadsServed ask) {root file : String}
    (housed : ∀ index, session.served answer = .ok index → session.Housed root file)
    (later : Session) (store : later.store = session.store)
    (disk : later.disk = ((answerWith json limit ask).run.evaluate answer session).2.disk) :
    ((answerWith json limit ask).run.evaluate answer later).1 =
      ((answerWith json limit ask).run.evaluate answer session).1 := by
  have evaluates := evaluate_answerWith answer json limit ask new
  have evaluates' := evaluate_answerWith answer json limit ask (store ▸ new : later.store.IsNew)
  cases serves : session.served answer with
  | error failure =>
      rw [serves] at evaluates
      obtain ⟨ended, disk', evaluates⟩ := evaluates
      rw [evaluates] at disk ⊢
      rw [Session.served_congr answer store (disk.trans disk'), serves] at evaluates'
      obtain ⟨ended', _, evaluates'⟩ := evaluates'
      rw [evaluates']
  | ok index =>
      rw [serves] at evaluates
      obtain ⟨ended, ready, evaluates⟩ := evaluates
      rw [evaluates] at disk ⊢
      rw [Session.served_again answer (housed index serves) serves ready store disk] at evaluates'
      obtain ⟨ended', ready', evaluates'⟩ := evaluates'
      have config : ended'.store.config = ended.store.config := by
        rw [ready'.config, ready.config, store]
      have same := reads ended.store ended'.store (ready'.serves.trans ready.serves.symm)
        (by rw [ready'.generation, ready.generation, store]) config
      rw [evaluates', config, same]

end

section

variable (answer : Request → Answer)

/-! ## Commands -/

def opened (now : Nat) (disk : Disk) (arguments : Arguments) (operation : Operation String) :
    Report × Disk :=
  match Workspace.openStore disk (rootOf disk arguments.root) with
  | .error failure => (.failure arguments.json failure, disk)
  | .ok store =>
    let (result, ended) := operation.run.evaluate answer { store, disk, now }
    (.ofResult arguments.json result, ended.disk)

theorem run_of_plan (now : Nat) {disk : Disk} {line : List String} {arguments : Arguments}
    {operation : Operation String} (parses : Arguments.parse line = .ok arguments)
    (plans : plan arguments disk = onStore arguments disk operation) :
    run (fun _ request => answer request) now disk line =
      opened answer now disk arguments operation := by
  unfold onStore at plans
  unfold run opened
  rw [parses]
  dsimp only
  cases opens : Workspace.openStore disk (rootOf disk arguments.root) with
  | error failure =>
      rw [opens] at plans
      rw [plans]
  | ok store =>
      rw [opens] at plans
      rw [plans]
      dsimp only
      rw [evaluate_eq_run]

def housing (disk : Disk) (given : Option String) : Location :=
  disk.place (Workspace.directory (rootOf disk given))

def configured (disk : Disk) (given : Option String) : Except Failure Config :=
  Workspace.configAt disk (Workspace.configPath (rootOf disk given))

/-- A workspace whose snapshot has a file of its own: it is no other file of the directory, and none
by which a root is found from where the command is run. -/
structure KeepsSnapshot (disk : Disk) (given : Option String) : Prop where
  plain : ∀ config, configured disk given = .ok config → IsPlain config.cache.file
  notConfig : ∀ config, configured disk given = .ok config → config.cache.file ≠ Store.configName
  notMark : given = none → housing disk none <+: disk.workingDirectory →
    ∀ config, configured disk none = .ok config → config.cache.file ∉ rootMarks

def StartsIn (disk : Disk) : Prop :=
  ∀ request, disk.isDirectory request.directory = false → ∃ failure, answer request = .error failure

variable {answer} {disk : Disk}

private theorem configName_ne_temporary (name : String) : Store.configName ≠ name ++ ".tmp" := by
  intro same
  have last := getLast?_temporary name
  rw [← same] at last
  exact absurd last (by decide)

private theorem configAt_congr {after : Disk} {path : String}
    (found : ∀ node, after.find path = .ok node ↔ disk.find path = .ok node) :
    Workspace.configAt after path = Workspace.configAt disk path := by
  unfold Workspace.configAt Disk.contains Disk.readText
  cases finds : disk.find path with
  | ok node => rw [(found node).mpr finds]
  | error error =>
      cases finds' : after.find path with
      | error error' => rfl
      | ok node =>
          rw [(found node).mp finds'] at finds
          cases finds

private theorem enters_of_served {session : Session} (starts : StartsIn answer session.disk)
    {index : Index}
    (serves : session.served answer = .ok index) :
    session.disk.Enters session.store.toolchain.directory := by
  refine Disk.enters_of_isDirectory ?_
  by_contra missing
  rw [Bool.not_eq_true] at missing
  obtain ⟨failure, fails⟩ := starts session.store.toolchain.versionRequest missing
  have undetected : Refresh.detected answer session.store.toolchain = .error failure := by
    rw [Refresh.detected, fails]
    rfl
  rw [Session.served, undetected] at serves
  cases serves

/-- A change to the file of the snapshot, or to the temporary file beside it, leaves the root of a
workspace and its configuration as they are. -/
theorem opens_after {after : Disk} {given : Option String} (tree : disk.IsTree)
    (keeps : KeepsSnapshot disk given) {config : Config}
    (opens : configured disk given = .ok config)
    (enters : disk.Enters (rootOf disk given))
    (confined : disk.Confined (housing disk given)
      [config.cache.file, config.cache.file ++ ".tmp"] after) :
    rootOf after given = rootOf disk given ∧ configured after given = .ok config := by
  have sameRoot : rootOf after given = rootOf disk given := by
    cases given with
    | some root => rfl
    | none =>
        obtain ⟨root, nearest, found⟩ := exists_isNearest disk
        have plain : ∀ name ∈ root, IsPlain name := fun name member =>
          tree.plain name (nearest.leads.subset member)
        have houses : housing disk none = root ++ [Store.directoryName] := by
          rw [housing, found, Workspace.directory, Disk.place_join _ _ Store.isPlain_directoryName,
            Disk.place_ofElements _ plain]
        have leaves : ¬ root ++ [Store.directoryName] <+: disk.workingDirectory ∨
            config.cache.file ∉ rootMarks := by
          rw [← houses, ← imp_iff_not_or]
          exact fun leads => keeps.notMark rfl leads config opens
        rw [houses] at confined
        rw [found, (isNearest_after confined leaves tree nearest).rootOf]
  refine ⟨sameRoot, ?_⟩
  have found : ∀ node, after.find (Workspace.configPath (rootOf disk given)) = .ok node ↔
      disk.find (Workspace.configPath (rootOf disk given)) = .ok node := fun node => by
    rw [housing, Workspace.directory, Disk.place_join _ _ Store.isPlain_directoryName] at confined
    refine confined.find_inside tree enters Store.isPlain_directoryName Store.isPlain_configName ?_
    simp only [List.mem_cons, List.not_mem_nil, or_false, not_or]
    exact ⟨Ne.symm (keeps.notConfig config opens), configName_ne_temporary _⟩
  rw [← opens, configured, configured, sameRoot]
  exact configAt_congr found

def unasked (now : Nat) (disk : Disk) (given : Option String) (config : Config) : Session where
  disk
  now
  store := .create (rootOf disk given) config

private theorem opened_of_configured (now : Nat) {arguments : Arguments} {config : Config}
    (opens : configured disk arguments.root = .ok config) (operation : Operation String) :
    opened answer now disk arguments operation =
      let (result, ended) := operation.run.evaluate answer (unasked now disk arguments.root config)
      (.ofResult arguments.json result, ended.disk) := by
  unfold configured at opens
  unfold opened Workspace.openStore
  rw [opens]
  rfl

private theorem opened_of_error (now : Nat) {arguments : Arguments} {failure : Failure}
    (fails : configured disk arguments.root = .error failure) (operation : Operation String) :
    opened answer now disk arguments operation = (.failure arguments.json failure, disk) := by
  unfold configured at fails
  unfold opened Workspace.openStore
  rw [fails]
  rfl

section

variable {given : Option String} {config : Config}

private theorem isNew_unasked (now : Nat) : (unasked now disk given config).store.IsNew :=
  ⟨rfl, rfl, rfl, rfl⟩

variable (tree : disk.IsTree) (keeps : KeepsSnapshot disk given)
  (opens : configured disk given = .ok config)

include tree keeps opens

private theorem housed_unasked (now : Nat) (starts : StartsIn answer disk) {index : Index}
    (serves : (unasked now disk given config).served answer = .ok index) :
    (unasked now disk given config).Housed (rootOf disk given) config.cache.file := by
  have enters : disk.Enters (rootOf disk given) := by
    refine enters_of_served ?_ serves
    exact starts
  exact ⟨tree, enters, rfl, keeps.plain config opens, rfl⟩

/-- Where the session has got ready, the same workspace is opened afterwards. -/
theorem opens_after_ready {now : Nat} {index : Index} {ended : Session}
    (housed : (unasked now disk given config).Housed (rootOf disk given) config.cache.file)
    (ready : (unasked now disk given config).Ready answer index ended) :
    (∃ names, disk.Confined (housing disk given) names ended.disk) ∧
      rootOf ended.disk given = rootOf disk given ∧ configured ended.disk given = .ok config := by
  have confined := ready.confined answer housed
  rw [← Disk.place_join _ _ Store.isPlain_directoryName] at confined
  exact ⟨⟨_, confined⟩, opens_after tree keeps opens housed.enters confined⟩

end

/-- What a command reports that asks a store does not change when it is run again, and nothing
changes but what lies beside the configuration. -/
theorem opened_again (json : Bool) (limit : Option Nat) {ask : Store → Nat → Answered}
    (reads : ReadsServed ask) (now later : Nat) (tree : disk.IsTree)
    (starts : StartsIn answer disk) {arguments : Arguments}
    (keeps : KeepsSnapshot disk arguments.root) {first : Report × Disk}
    (runs : opened answer now disk arguments (answerWith json limit ask) = first) :
    (opened answer later first.2 arguments (answerWith json limit ask)).1 = first.1 ∧
      ∃ names, disk.Confined (housing disk arguments.root) names first.2 := by
  cases opens : configured disk arguments.root with
  | error failure =>
      rw [opened_of_error now opens] at runs
      cases runs
      rw [opened_of_error later opens]
      exact ⟨rfl, [], .refl _ _ _⟩
  | ok config =>
      have new : (unasked now disk arguments.root config).store.IsNew := isNew_unasked now
      have housed : ∀ index, (unasked now disk arguments.root config).served answer = .ok index →
          (unasked now disk arguments.root config).Housed (rootOf disk arguments.root)
            config.cache.file :=
        fun _ => housed_unasked tree keeps opens now starts
      have changes := disk_answerWith answer json limit ask new
      have again := answerWith_again answer json limit new reads housed
      rw [opened_of_configured now opens] at runs
      generalize (answerWith json limit ask).run.evaluate answer _ = ran at runs again changes
      obtain ⟨result, ended⟩ := ran
      cases runs
      obtain ⟨confined, sameRoot, reopens⟩ : (∃ names, disk.Confined (housing disk arguments.root)
          names ended.disk) ∧ rootOf ended.disk arguments.root = rootOf disk arguments.root ∧
            configured ended.disk arguments.root = .ok config := by
        rcases changes with same | ⟨index, serves, ready⟩
        · have same : ended.disk = disk := same
          rw [same]
          exact ⟨⟨[], .refl _ _ _⟩, rfl, opens⟩
        · exact opens_after_ready tree keeps opens (housed index serves) ready
      refine ⟨?_, confined⟩
      rw [opened_of_configured later reopens]
      refine congrArg (Report.ofResult arguments.json) (again _ ?_ rfl)
      rw [unasked, sameRoot]
      rfl

/-! ## Running again -/

private theorem readText_outside {directory : Location} {names : List String} {after : Disk}
    (confined : disk.Confined directory names after) {path document : String}
    (reads : disk.readText path = .ok document)
    (outside : ∀ location, disk.locate path = .ok location → ¬ directory <+: location) :
    after.readText path = .ok document := by
  obtain ⟨bytes, found, decoded⟩ := Disk.readText_eq_ok_iff.mp reads
  obtain ⟨location, located, _⟩ := Disk.find_eq_ok_iff.mp found
  rw [← confined.find_outside located (outside location located)] at found
  exact Disk.readText_eq_ok_iff.mpr ⟨bytes, found, decoded⟩

section

variable {given : Option String} {json : Bool} {text path : String} {limit : Option Nat}

private theorem plan_of_readText {document : String} (reads : disk.readText path = .ok document) :
    plan ⟨given, json, .complete text (some path) limit⟩ disk =
      onStore ⟨given, json, .complete text (some path) limit⟩ disk
        (answerWith json limit fun store limit => store.complete limit document text) := by
  unfold plan
  dsimp only
  rw [reads]

/-- A document that cannot be read is reported, and nothing else is done. -/
theorem run_of_unreadable (answer : Request → Answer) (now : Nat) {line : List String}
    (parses : Arguments.parse line = .ok ⟨given, json, .complete text (some path) limit⟩)
    {error : FileError} (fails : disk.readText path = .error error) :
    run (fun _ request => answer request) now disk line =
      (.failure json (.file error), disk) := by
  have plans : plan ⟨given, json, .complete text (some path) limit⟩ disk =
      .report (.failure json (.file error)) disk := by
    unfold plan
    dsimp only
    rw [fails]
  unfold run
  rw [parses]
  dsimp only
  rw [plans]

end

def Command.asks : Command → Bool
  | .query _ _ | .complete _ _ _ => true
  | _ => false

def Command.document? : Command → Option String
  | .complete _ file _ => file
  | _ => none

/-- A command that asks for symbols and that reads nothing, apart from the snapshot, that is touched
when the snapshot is replaced. -/
structure AsksApart (disk : Disk) (arguments : Arguments) : Prop where
  asks : arguments.command.asks = true
  snapshot : KeepsSnapshot disk arguments.root
  document : ∀ path, arguments.command.document? = some path → ∀ location,
    disk.locate path = .ok location → ¬ housing disk arguments.root <+: location

/-- What is served from the cache is what would be served without. A command that asks for symbols
reports the same, with the same exit code and the same counter, when it is run again on the disk
that its first run has left, at whatever time and whatever the first run could save. -/
theorem run_again (answer : Request → Answer) (now later : Nat) {disk : Disk} (tree : disk.IsTree)
    (starts : StartsIn answer disk) {line : List String}
    (apart : ∀ arguments, Arguments.parse line = .ok arguments → AsksApart disk arguments) :
    (run (fun _ request => answer request) later
        (run (fun _ request => answer request) now disk line).2 line).1 =
      (run (fun _ request => answer request) now disk line).1 := by
  cases parses : Arguments.parse line with
  | error refusal =>
      unfold run
      rw [parses]
  | ok arguments =>
      obtain ⟨asks, keeps, outside⟩ := apart arguments parses
      obtain ⟨given, json, command⟩ := arguments
      cases command with
      | query text limit =>
          rw [run_of_plan answer now parses rfl, run_of_plan answer later parses rfl]
          exact (opened_again json limit (readsServed_search text) now later tree starts keeps
            rfl).1
      | complete text file limit =>
          cases file with
          | none =>
              rw [run_of_plan answer now parses rfl, run_of_plan answer later parses rfl]
              exact (opened_again json limit (readsServed_complete "" text) now later tree starts
                keeps rfl).1
          | some path =>
              cases reads : disk.readText path with
              | error error =>
                  rw [run_of_unreadable answer now parses reads,
                    run_of_unreadable answer later parses reads]
              | ok document =>
                  have first := run_of_plan answer now parses (plan_of_readText reads)
                  have asked := opened_again json limit (readsServed_complete document text) now
                    later tree starts keeps rfl
                  obtain ⟨again, names, confined⟩ := asked
                  rw [← first] at again confined
                  have reads' := readText_outside confined reads (outside path rfl)
                  rw [run_of_plan answer later parses (plan_of_readText reads')]
                  exact again
      | init => cases asks
      | index force => cases asks
      | refresh packages => cases asks
      | status => cases asks

end

/-! ### A snapshot that is named like a mark -/

def markedConfig : String :=
  "[cache]\nfile = \"go.mod\"\n[indexing]\ninclude_std = false\nexclude = []\n" ++
    "[completion]\ncase_sensitive = true\n"

def markedDisk (directory : Location) : Disk :=
  { ((({} : Disk).put ["work"] .directory).put ["work", ".gosym"] .directory).put
      ["work", ".gosym", "config.toml"] (.file markedConfig.toUTF8) with
    workingDirectory := directory }

def markedAnswer (request : Request) : Answer :=
  if request.directory = "/work" ∨ request.directory = "/work/.gosym" then
    match request.invocation.arguments with
    | ["env", "GOVERSION"] => .ok "go1.22\n"
    | "list" :: "-e" :: _ => .ok "lib.org/c c false\n"
    | ["list", "-m", "all"] => .ok "work\nlib.org/c v1.0.0\n"
    | ["doc", "-all", "lib.org/c"] => .ok "func Open() int\n"
    | _ => .error .toolchainUnknown
  else .error .toolchainUnknown

section

variable {directory : Location} (member : directory ∈ [["work"], ["work", ".gosym"]])

include member

private theorem isTree_markedDisk : (markedDisk directory).IsTree := by
  have work := Disk.isTree_empty.put [] "work" .directory rfl rfl
  have hidden := work.put ["work"] ".gosym" .directory rfl rfl
  have whole := hidden.put ["work", ".gosym"] "config.toml" (.file markedConfig.toUTF8) rfl rfl
  have isPlain : IsPlain "work" := by decide
  rcases List.mem_pair.mp member with rfl | rfl
  · exact whole.enter rfl (List.forall_mem_singleton.mpr isPlain)
  · exact whole.enter rfl (List.forall_mem_cons.mpr
      ⟨isPlain, List.forall_mem_singleton.mpr Store.isPlain_directoryName⟩)

private theorem startsIn_markedAnswer : StartsIn markedAnswer (markedDisk directory) := by
  intro request missing
  have outside : ¬ (request.directory = "/work" ∨ request.directory = "/work/.gosym") := by
    rintro (same | same)
    all_goals
      rw [same] at missing
      rcases List.mem_pair.mp member with rfl | rfl
      all_goals exact absurd missing (by decide +kernel)
  exact ⟨_, if_neg outside⟩

end

/-- Run beside the snapshot, the second run finds another root than the first one, by the snapshot
that this has saved. -/
theorem run_again_beside_snapshot :
    (markedDisk ["work", ".gosym"]).IsTree ∧
      StartsIn markedAnswer (markedDisk ["work", ".gosym"]) ∧
      (run (fun _ request => markedAnswer request) 0 (markedDisk ["work", ".gosym"])
          ["query", "open"]).1 = .success "(0 results)\n" ∧
        (run (fun _ request => markedAnswer request) 0
          (run (fun _ request => markedAnswer request) 0 (markedDisk ["work", ".gosym"])
            ["query", "open"]).2 ["query", "open"]).1 =
          .success "lib.org/c.Open (func) func() int\n(1 results)\n" := by
  have member : ["work", ".gosym"] ∈ [["work"], ["work", ".gosym"]] := by decide
  exact ⟨isTree_markedDisk member, startsIn_markedAnswer member, by decide +kernel⟩

/-- Run above it, the second run reports the same as the first one. -/
theorem run_again_above_snapshot :
    (markedDisk ["work"]).IsTree ∧ StartsIn markedAnswer (markedDisk ["work"]) ∧
      (run (fun _ request => markedAnswer request) 1
          (run (fun _ request => markedAnswer request) 0 (markedDisk ["work"])
            ["query", "Open"]).2 ["query", "Open"]).1 =
        (run (fun _ request => markedAnswer request) 0 (markedDisk ["work"])
          ["query", "Open"]).1 := by
  have member : ["work"] ∈ [["work"], ["work", ".gosym"]] := List.mem_cons_self
  have tree := isTree_markedDisk member
  have starts := startsIn_markedAnswer member
  have file : ∀ config, configured (markedDisk ["work"]) none = .ok config →
      config.cache.file = "go.mod" := by
    have configures : (configured (markedDisk ["work"]) none).map (fun config =>
        config.cache.file) = .ok "go.mod" := by decide +kernel
    intro config opens
    rw [opens] at configures
    exact Except.ok.inj configures
  refine ⟨tree, starts, run_again markedAnswer 0 1 tree starts fun arguments parses => ?_⟩
  obtain rfl : (⟨none, false, .query "Open" none⟩ : Arguments) = arguments :=
    Except.ok.inj (Eq.trans (by decide +kernel) parses)
  refine ⟨rfl, ⟨fun config opens => ?_, fun config opens => ?_, fun _ beside => ?_⟩, nofun⟩
  · rw [file config opens]
    decide
  · rw [file config opens]
    decide
  · exact absurd beside (by decide +kernel)

end SymbolCache.CommandLine
