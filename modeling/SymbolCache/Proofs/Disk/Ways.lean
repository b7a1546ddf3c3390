import Mathlib.Data.List.Infix
import SymbolCache.Proofs.Disk.Preservation

/-!
# The ways of paths

A path leads to the place that its names spell out, if every name before the last one leads to a
directory. A plain name behind a path leads one step further.
-/

set_option autoImplicit false

namespace SymbolCache

structure IsPlain (name : String) : Prop where
  filled : name ≠ ""
  no_slash : '/' ∉ name.toList
  not_here : name ≠ "."
  not_up : name ≠ ".."

instance (name : String) : Decidable (IsPlain name) :=
  decidable_of_iff (name ≠ "" ∧ '/' ∉ name.toList ∧ name ≠ "." ∧ name ≠ "..")
    ⟨fun ⟨filled, noSlash, notHere, notUp⟩ => ⟨filled, noSlash, notHere, notUp⟩,
      fun plain => ⟨plain.filled, plain.no_slash, plain.not_here, plain.not_up⟩⟩

variable {base name : String}

/-! ## Names behind paths -/

namespace Path

theorem isAbsolute_of_plain (plain : IsPlain name) : isAbsolute name = false := by
  rw [isAbsolute]
  cases characters : name.toList with
  | nil => rfl
  | cons first rest =>
      have other : first ≠ '/' := by
        rintro rfl
        exact plain.no_slash (by rw [characters]; exact List.mem_cons_self)
      simp [other]

/-- A plain name stands behind a path after one slash, which may be the last one of the path. -/
theorem join_cases (base : String) (plain : IsPlain name) :
    base = "" ∧ join base name = name ∨
      (∃ before, base.toList = before ++ ['/'] ∧
        (join base name).toList = before ++ '/' :: name.toList) ∨
      base ≠ "" ∧ (join base name).toList = base.toList ++ '/' :: name.toList := by
  have relative := isAbsolute_of_plain plain
  by_cases empty : base = ""
  · refine .inl ⟨empty, ?_⟩
    simp [join, relative, empty]
  · have filled : base.isEmpty = false := by
      simpa [String.isEmpty_iff] using empty
    cases slash : endsInSlash base with
    | true =>
        obtain ⟨before, parts⟩ := List.getLast?_eq_some_iff.mp (eq_of_beq slash)
        refine .inr (.inl ⟨before, parts, ?_⟩)
        simp [join, relative, slash, parts]
    | false =>
        refine .inr (.inr ⟨empty, ?_⟩)
        simp [join, relative, slash, filled]

/-- Between a path and any plain name behind it stands the same text. -/
theorem exists_join (base : String) :
    ∃ link, ∀ {name : String}, IsPlain name → join base name = base ++ link ++ name := by
  refine ⟨if base.isEmpty || endsInSlash base then "" else "/", fun plain => ?_⟩
  rw [join, if_neg (by simp [isAbsolute_of_plain plain])]
  split
  · rw [String.append_empty]
  · rfl

theorem isAbsolute_join (base : String) (plain : IsPlain name) :
    isAbsolute (join base name) = isAbsolute base := by
  rcases join_cases base plain with ⟨rfl, joined⟩ | ⟨before, parts, joined⟩ | ⟨filled, joined⟩
  · rw [joined, isAbsolute_of_plain plain]
    rfl
  · rw [isAbsolute, isAbsolute, joined, parts]
    cases before <;> rfl
  · obtain ⟨first, rest, parts⟩ := List.exists_cons_of_ne_nil fun empty =>
      filled (String.toList_eq_nil_iff.mp empty)
    rw [isAbsolute, isAbsolute, joined, parts]
    rfl

theorem endsInSlash_join (base : String) (plain : IsPlain name) :
    endsInSlash (join base name) = false := by
  obtain ⟨link, joined⟩ := exists_join base
  have parts : (join base name).toList = (base ++ link).toList ++ name.toList := by
    rw [joined plain, String.toList_append]
  have filled : name.toList ≠ [] := fun empty => plain.filled (String.toList_eq_nil_iff.mp empty)
  rw [endsInSlash, parts, List.getLast?_append_of_ne_nil _ filled]
  cases last : name.toList.getLast? with
  | none => rfl
  | some character =>
      rw [beq_eq_false_iff_ne]
      rintro ⟨⟩
      exact plain.no_slash (List.mem_of_getLast? last)

end Path

namespace Disk

def pieces (text : List Char) : List String :=
  ((Text.split '/' text).filter fun name => !name.isEmpty).map String.ofList

theorem pieces_append (before after : List Char) :
    pieces (before ++ '/' :: after) = pieces before ++ pieces after := by
  rw [pieces, Text.split_append, List.filter_append, List.map_append]
  rfl

theorem pieces_plain (plain : IsPlain name) : pieces name.toList = [name] := by
  have filled : name.toList.isEmpty = false := by
    rw [List.isEmpty_eq_false_iff]
    exact fun empty => plain.filled (String.toList_eq_nil_iff.mp empty)
  rw [pieces, Text.split_of_not_mem plain.no_slash]
  simp [filled]

theorem names_join (base : String) (plain : IsPlain name) :
    names (Path.join base name) = names base ++ [name] := by
  change pieces (Path.join base name).toList = pieces base.toList ++ [name]
  rcases Path.join_cases base plain with
    ⟨rfl, joined⟩ | ⟨before, parts, joined⟩ | ⟨filled, joined⟩
  · rw [joined, pieces_plain plain]
    rfl
  · rw [joined, parts, pieces_append, pieces_append, pieces_plain plain]
    exact congrArg (· ++ [name]) (List.append_nil (pieces before)).symm
  · rw [joined, pieces_append, pieces_plain plain]

theorem step_plain (plain : IsPlain name) (location : Location) :
    step location name = location ++ [name] := by
  rw [step, if_neg plain.not_here, if_neg plain.not_up]

theorem place_join (disk : Disk) (base : String) (plain : IsPlain name) :
    disk.place (Path.join base name) = disk.place base ++ [name] := by
  rw [place, place, names_join base plain, Path.isAbsolute_join base plain, List.foldl_append,
    List.foldl_cons, List.foldl_nil, step_plain plain]

/-! ## Absolute paths -/

private theorem pieces_intercalate {list : List String} (plain : ∀ name ∈ list, IsPlain name) :
    pieces (List.intercalate ['/'] (list.map String.toList)) = list := by
  induction list with
  | nil => rfl
  | cons name list ih =>
      obtain ⟨first, others⟩ := List.forall_mem_cons.mp plain
      cases list with
      | nil =>
          rw [List.map_singleton, List.intercalate_singleton, pieces_plain first]
      | cons next list =>
          rw [List.map_cons, List.map_cons, List.intercalate_cons_cons, ← List.map_cons,
            List.append_assoc, List.singleton_append, pieces_append, pieces_plain first, ih others]
          rfl

private theorem names_ofElements {list : List String} (plain : ∀ name ∈ list, IsPlain name) :
    names (Path.ofElements true list) = list := by
  have text : (Path.ofElements true list).toList =
      [] ++ '/' :: List.intercalate ['/'] (list.map String.toList) := by
    simp [Path.ofElements]
  change pieces (Path.ofElements true list).toList = list
  rw [text, pieces_append, pieces_intercalate plain]
  rfl

private theorem foldl_step_plain {list : List String} (plain : ∀ name ∈ list, IsPlain name)
    (start : Location) : list.foldl step start = start ++ list := by
  induction list generalizing start with
  | nil => exact (List.append_nil start).symm
  | cons name list ih =>
      obtain ⟨first, others⟩ := List.forall_mem_cons.mp plain
      rw [List.foldl_cons, step_plain first, ih others, ← List.append_cons]

theorem place_ofElements (disk : Disk) {location : Location}
    (plain : ∀ name ∈ location, IsPlain name) :
    disk.place (Path.ofElements true location) = location := by
  have absolute : Path.isAbsolute (Path.ofElements true location) = true := by
    simp [Path.isAbsolute, Path.ofElements]
  rw [place, names_ofElements plain, absolute, if_pos rfl, foldl_step_plain plain,
    List.nil_append]

/-! ## Following -/

variable {disk before after : Disk}

def Through (disk : Disk) : Location → List String → Prop
  | _, [] => True
  | start, name :: names =>
    disk.node? (step start name) = some .directory ∧ disk.Through (step start name) names

private theorem through_append {start : Location} {names others : List String} :
    disk.Through start (names ++ others) ↔
      disk.Through start names ∧ disk.Through (names.foldl step start) others := by
  induction names generalizing start with
  | nil => exact (true_and _).symm.to_iff
  | cons name names ih =>
      rw [List.cons_append, Through, Through, ih, List.foldl_cons, and_assoc]

private theorem follow_concat {start goal : Location} {names : List String} {last : String} :
    disk.follow start (names ++ [last]) = .ok goal ↔
      (∀ name ∈ names ++ [last], name.utf8ByteSize ≤ nameLimit) ∧ disk.Through start names ∧
        goal = step (names.foldl step start) last := by
  induction names generalizing start with
  | nil =>
      rw [List.nil_append, follow]
      split
      case isTrue long => simp [Nat.not_le.mpr long]
      case isFalse short => simp [Nat.not_lt.mp short, Through, eq_comm]
  | cons name names ih =>
      obtain ⟨next, rest, parts⟩ : ∃ next rest, names ++ [last] = next :: rest :=
        List.exists_cons_of_ne_nil (List.append_ne_nil_of_right_ne_nil names (by simp))
      rw [List.cons_append, parts, follow, List.forall_mem_cons, ← parts, Through]
      split
      case isTrue long => simp [Nat.not_le.mpr long]
      case isFalse short =>
        cases there : disk.node? (step start name) with
        | none => simp
        | some node =>
            cases node with
            | file content => simp
            | directory =>
                rw [ih]
                simp [Nat.not_lt.mp short]

structure IsPath (path : String) : Prop where
  filled : path.isEmpty = false
  valid : path.toList.contains '\x00' = false
  short : path.utf8ByteSize ≤ pathLimit
  names : ∀ name ∈ names path, name.utf8ByteSize ≤ nameLimit

def origin (disk : Disk) (path : String) : Location :=
  if Path.isAbsolute path then [] else disk.workingDirectory

def Enters (disk : Disk) (path : String) : Prop :=
  disk.Through (disk.origin path) (names path)

theorem enters_join (plain : IsPlain name) :
    disk.Enters (Path.join base name) ↔
      disk.Enters base ∧ disk.node? (disk.place base ++ [name]) = some .directory := by
  rw [Enters, Enters, names_join base plain, through_append, origin, origin,
    Path.isAbsolute_join base plain, Through, step_plain plain, Through, and_true]
  rfl

theorem locate_eq_ok_iff {path : String} {goal : Location} :
    disk.locate path = .ok goal ↔
      path.isEmpty = false ∧ path.toList.contains '\x00' = false ∧
        path.utf8ByteSize ≤ pathLimit ∧ disk.follow (disk.origin path) (names path) = .ok goal := by
  unfold locate
  split
  case isTrue empty => simp [empty]
  case isFalse filled =>
    split
    case isTrue invalid =>
      refine iff_of_false nofun fun usable => ?_
      rw [usable.2.1] at invalid
      exact Bool.false_ne_true invalid
    case isFalse valid =>
      split
      case isTrue long => simp [Nat.not_le.mpr long]
      case isFalse short =>
        rw [Bool.not_eq_true] at filled valid
        rw [← origin]
        exact ⟨fun follows => ⟨filled, valid, Nat.not_lt.mp short, follows⟩,
          fun usable => usable.2.2.2⟩

/-- A plain name behind a path leads into the directory that the path leads to. -/
theorem locate_join {goal : Location} (plain : IsPlain name) :
    disk.locate (Path.join base name) = .ok goal ↔
      IsPath (Path.join base name) ∧ disk.Enters base ∧ goal = disk.place base ++ [name] := by
  have origins : disk.origin (Path.join base name) = disk.origin base := by
    rw [origin, origin, Path.isAbsolute_join base plain]
  rw [locate_eq_ok_iff, names_join base plain, follow_concat, step_plain plain, origins]
  constructor
  · rintro ⟨filled, valid, short, names, through, goal⟩
    refine ⟨⟨filled, valid, short, ?_⟩, through, goal⟩
    rwa [names_join base plain]
  · rintro ⟨path, through, goal⟩
    refine ⟨path.filled, path.valid, path.short, ?_, through, goal⟩
    rw [← names_join base plain]
    exact path.names

theorem find_join (plain : IsPlain name) {node : Node} :
    disk.find (Path.join base name) = .ok node ↔
      IsPath (Path.join base name) ∧ disk.Enters base ∧
        disk.node? (disk.place base ++ [name]) = some node := by
  rw [find_eq_ok_iff]
  constructor
  · rintro ⟨location, located, there, _⟩
    obtain ⟨path, enters, rfl⟩ := (locate_join plain).mp located
    exact ⟨path, enters, there⟩
  · rintro ⟨path, enters, there⟩
    exact ⟨_, (locate_join plain).mpr ⟨path, enters, rfl⟩, there, fun _ =>
      Path.endsInSlash_join base plain⟩

theorem contains_eq_true_iff {path : String} :
    disk.contains path = true ↔ ∃ node, disk.find path = .ok node := by
  unfold contains
  cases disk.find path <;> simp

/-- Where a path leads and nothing is found, nothing is. -/
theorem free_of_contains_eq_false (plain : IsPlain name) (path : IsPath (Path.join base name))
    (enters : disk.Enters base) (missing : disk.contains (Path.join base name) = false) :
    disk.node? (disk.place (Path.join base name)) = none := by
  rw [place_join _ _ plain, Option.eq_none_iff_forall_ne_some]
  intro node there
  have found := (find_join plain).mpr ⟨path, enters, there⟩
  rw [contains_eq_true_iff.mpr ⟨node, found⟩] at missing
  cases missing

theorem isDirectory_eq_true_iff {path : String} :
    disk.isDirectory path = true ↔ disk.find path = .ok .directory := by
  unfold isDirectory
  split
  · next found => simp [found]
  · next other => simpa using other

/-- What is known to be a directory is led to through directories. -/
theorem enters_of_isDirectory {path : String} (directory : disk.isDirectory path = true) :
    disk.Enters path := by
  obtain ⟨location, located, there, _⟩ := find_eq_ok_iff.mp (isDirectory_eq_true_iff.mp directory)
  obtain ⟨_, _, _, follows⟩ := locate_eq_ok_iff.mp located
  rw [Enters]
  rcases List.eq_nil_or_concat (names path) with empty | ⟨front, last, parts⟩
  · rw [empty]
    exact trivial
  · rw [parts, List.concat_eq_append] at follows ⊢
    obtain ⟨_, through, rfl⟩ := follow_concat.mp follows
    exact through_append.mpr ⟨through, there, trivial⟩

/-! ## Trees -/

/-- Everything is in directories up to the root, and so is the working directory, whose names are
those of elements of paths. -/
structure IsTree (disk : Disk) : Prop where
  above : ∀ location node, disk.node? location = some node →
    ∀ upper, upper <+: location → upper ≠ location → disk.node? upper = some .directory
  working : disk.node? disk.workingDirectory = some .directory
  plain : ∀ name ∈ disk.workingDirectory, IsPlain name

theorem IsTree.directory_of_isPrefix (tree : disk.IsTree) {location upper : Location}
    (directory : disk.node? location = some .directory) (leads : upper <+: location) :
    disk.node? upper = some .directory := by
  by_cases same : upper = location
  · rwa [same]
  · exact tree.above location _ directory upper leads same

theorem IsTree.through (tree : disk.IsTree) {start : Location} {list : List String}
    (plain : ∀ name ∈ list, IsPlain name)
    (directory : disk.node? (start ++ list) = some .directory) : disk.Through start list := by
  induction list generalizing start with
  | nil => exact trivial
  | cons name list ih =>
      obtain ⟨first, others⟩ := List.forall_mem_cons.mp plain
      rw [Through, step_plain first]
      rw [List.append_cons] at directory
      exact ⟨tree.directory_of_isPrefix directory (List.prefix_append _ _), ih others directory⟩

theorem IsTree.enters_ofElements (tree : disk.IsTree) {location : Location}
    (plain : ∀ name ∈ location, IsPlain name)
    (directory : disk.node? location = some .directory) :
    disk.Enters (Path.ofElements true location) := by
  have absolute : disk.origin (Path.ofElements true location) = [] := by
    simp [origin, Path.isAbsolute, Path.ofElements]
  rw [Enters, absolute, names_ofElements plain]
  exact tree.through plain (by rwa [List.nil_append])

theorem isTree_empty : ({} : Disk).IsTree where
  above location node there upper leads different := by
    cases location with
    | nil => exact absurd (List.prefix_nil.mp leads) different
    | cons name names =>
        change (∅ : Std.ExtTreeMap Location Node Location.order)[name :: names]? = _ at there
        rw [Std.ExtTreeMap.getElem?_empty] at there
        cases there
  working := rfl
  plain := List.forall_mem_nil _

/-- A disk stays a tree when something new is put into a directory. -/
theorem IsTree.put (tree : disk.IsTree) (directory : Location) (name : String) (node : Node)
    (there : disk.node? directory = some .directory)
    (free : disk.node? (directory ++ [name]) = none) :
    (disk.put (directory ++ [name]) node).IsTree where
  above location node' there' upper leads different := by
    refine (keepsDirectories_put node (by simp [free])).directory upper ?_
    by_cases root : location = []
    · rw [root] at leads different
      exact absurd (List.prefix_nil.mp leads) different
    · rw [node?_put _ _ _ _ root] at there'
      split at there'
      case isTrue same =>
        rw [← same] at leads different
        have within : upper <+: directory :=
          (List.prefix_concat_iff.mp leads).resolve_left different
        exact tree.directory_of_isPrefix there within
      case isFalse => exact tree.above location node' there' upper leads different
  working := (keepsDirectories_put node (by simp [free])).directory _ tree.working
  plain := tree.plain

/-- The working directory of a tree may be any of its directories. -/
theorem IsTree.enter (tree : disk.IsTree) {location : Location}
    (there : disk.node? location = some .directory) (plain : ∀ name ∈ location, IsPlain name) :
    ({ disk with workingDirectory := location } : Disk).IsTree where
  above := tree.above
  working := there
  plain := plain

/-! ## Changes -/

theorem KeepsDirectories.origin (keeps : before.KeepsDirectories after) (path : String) :
    after.origin path = before.origin path := by
  rw [Disk.origin, Disk.origin, keeps.workingDirectory]

theorem KeepsDirectories.through (keeps : before.KeepsDirectories after) {start : Location}
    {names : List String} (through : before.Through start names) : after.Through start names := by
  induction names generalizing start with
  | nil => exact trivial
  | cons name names ih => exact ⟨keeps.directory _ through.1, ih through.2⟩

theorem KeepsDirectories.enters (keeps : before.KeepsDirectories after) {path : String}
    (enters : before.Enters path) : after.Enters path := by
  rw [Enters, keeps.origin]
  exact keeps.through enters

end Disk

end SymbolCache
