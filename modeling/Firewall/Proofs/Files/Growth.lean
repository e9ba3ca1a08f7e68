import Firewall.Files.Tree
import Firewall.Proofs.Build.Outcome

/-!
# How a file tree grows

A run only adds to a file tree: directories are made where nothing is, and files are put where no
directory is.  So a path that leads to a place goes on leading there, whatever is added
(`FileTree.locate_of_grows`).  To make directories leaves all files as they are
(`FileTree.made_of_ensureAll`), and to write a file leaves the others as they are
(`FileTree.content?_put_file`).
-/

namespace Firewall.FileTree

/-- What is in the file at a place, if there is one. -/
def content? (tree : FileTree) (place : Place) : Option (List UInt8) :=
  match tree.node? place with
  | some (.file bytes) => some bytes
  | _ => none

/-- All directories stay where they are. -/
structure Grows (tree later : FileTree) : Prop where
  working : later.working = tree.working
  directories : ∀ place, tree.node? place = some .directory →
    later.node? place = some .directory

variable {tree later last : FileTree} {path : Path} {place : Place}

theorem grows_refl (tree : FileTree) : Grows tree tree := ⟨rfl, fun _ => id⟩

theorem Grows.trans (first : Grows tree later) (second : Grows later last) : Grows tree last where
  working := second.working.trans first.working
  directories := fun place isDirectory =>
    second.directories place (first.directories place isDirectory)

/-! ## Paths -/

theorem enter_of_grows (grows : Grows tree later) {part : String} {next : Place}
    (entered : tree.enter place part = .ok next) : later.enter place part = .ok next := by
  rw [enter] at entered
  cases found : tree.node? place with
  | none =>
      rw [found] at entered
      contradiction
  | some node =>
      rw [found] at entered
      cases node with
      | file bytes => contradiction
      | directory =>
          rw [enter, grows.directories place found]
          exact entered

theorem foldlM_enter_of_grows (grows : Grows tree later) {parts : List String} {start : Place}
    (entered : parts.foldlM tree.enter start = .ok place) :
    parts.foldlM later.enter start = .ok place := by
  induction parts generalizing start with
  | nil => exact entered
  | cons part rest ih =>
      rw [List.foldlM_cons] at entered ⊢
      obtain ⟨next, first, behind⟩ := bind_eq_ok_iff.mp entered
      rw [enter_of_grows grows first]
      exact ih behind

/-- What a path must be like to lead anywhere. -/
def Passes (path : Path) : Prop :=
  Text.unencodableName? path.text = none ∧ path.text.toList.contains '\x00' = false ∧
    ¬ longestPath < (Text.Utf8.encode path.text).length

def start (tree : FileTree) (path : Path) : Place :=
  if path.root.isEmpty then tree.working else []

theorem locate_eq_ok_iff :
    tree.locate path = .ok place ↔
      Passes path ∧ path.parts.foldlM tree.enter (tree.start path) = .ok place := by
  rw [locate, Passes, start]
  cases Text.unencodableName? path.text with
  | some found => simp
  | none =>
      cases path.text.toList.contains '\x00' with
      | true => simp
      | false =>
          by_cases long : longestPath < (Text.Utf8.encode path.text).length
          · simp [long]
          · simp only [long]
            cases path.parts.foldlM tree.enter (if path.root.isEmpty then tree.working else []) with
            | error fault => simp [Except.mapError]
            | ok found => simp [Except.mapError]

/-- A path leads to the same place when more is there. -/
theorem locate_of_grows (grows : Grows tree later) (located : tree.locate path = .ok place) :
    later.locate path = .ok place := by
  rw [locate_eq_ok_iff] at located ⊢
  rw [start, grows.working, ← start]
  exact ⟨located.1, foldlM_enter_of_grows grows located.2⟩

/-! ## Nodes -/

def put (tree : FileTree) (place : Place) (node : Node) : FileTree :=
  { tree with nodes := tree.nodes.put place node }

theorem node?_put (tree : FileTree) (place other : Place) (node : Node) :
    (tree.put place node).node? other =
      if other = [] then some .directory
      else if place = other then some node else tree.node? other := by
  rw [node?, put, node?, Table.get?_put]
  simp only [List.isEmpty_iff]
  split <;> rfl

theorem ne_nil_of_node? (other : tree.node? place ≠ some .directory) : place ≠ [] := by
  rintro rfl
  exact other rfl

theorem grows_put (other : tree.node? place ≠ some .directory) (node : Node) :
    Grows tree (tree.put place node) where
  working := rfl
  directories := by
    intro known isDirectory
    rw [node?_put]
    by_cases same : place = known
    · rw [same] at other
      contradiction
    · rw [if_neg same, isDirectory]
      split <;> rfl

theorem content?_put_file (other : tree.node? place ≠ some .directory) (bytes : List UInt8)
    (known : Place) :
    (tree.put place (.file bytes)).content? known =
      if place = known then some bytes else tree.content? known := by
  rw [content?, content?, node?_put]
  by_cases same : place = known
  · subst same
    rw [if_neg (ne_nil_of_node? other), if_pos rfl, if_pos rfl]
  · rw [if_neg same, if_neg same]
    by_cases top : known = []
    · rw [if_pos top, top]
      rfl
    · rw [if_neg top]

theorem content?_put_directory (free : tree.node? place = none) (known : Place) :
    (tree.put place .directory).content? known = tree.content? known := by
  rw [content?, content?, node?_put]
  by_cases top : known = []
  · rw [if_pos top, top]
    rfl
  · rw [if_neg top]
    by_cases same : place = known
    · rw [if_pos same, ← same, free]
    · rw [if_neg same]

theorem read_of_content? {bytes : List UInt8} (located : tree.locate path = .ok place)
    (found : tree.content? place = some bytes) : tree.read path = .ok bytes := by
  rw [content?] at found
  rw [read, located]
  split at found
  case h_1 same =>
    cases found
    simp only [same]
  case h_2 => contradiction

/-! ## Making directories -/

/-- Directories are added, down to the one at a path, and the files stay as they are. -/
structure Made (tree : FileTree) (path : Path) (later : FileTree) : Prop where
  grows : Grows tree later
  contents : ∀ place, later.content? place = tree.content? place
  located : ∃ place, later.locate path = .ok place ∧ later.node? place = some .directory

theorem made_of_make (done : tree.make path = .ok later) : Made tree path later := by
  rw [make] at done
  cases located : tree.locate path with
  | error error =>
      rw [located] at done
      contradiction
  | ok place =>
      rw [located] at done
      cases free : tree.node? place with
      | some node =>
          simp only [free] at done
          contradiction
      | none =>
          simp only [free] at done
          cases done
          have other : tree.node? place ≠ some .directory := by simp [free]
          have grows : Grows tree (tree.put place .directory) := grows_put other .directory
          refine ⟨grows, content?_put_directory free, place, locate_of_grows grows located, ?_⟩
          change (tree.put place .directory).node? place = some .directory
          rw [node?_put, if_neg (ne_nil_of_node? other), if_pos rfl]

theorem made_of_ensure (done : tree.ensure path = .ok later) : Made tree path later := by
  rw [ensure] at done
  cases first : tree.make path with
  | ok made =>
      rw [first] at done
      cases done
      exact made_of_make first
  | error error =>
      rw [first] at done
      by_cases there : tree.isDirectory path = true
      · simp only [there, if_true] at done
        cases done
        refine ⟨grows_refl tree, fun _ => rfl, ?_⟩
        rw [isDirectory] at there
        cases located : tree.locate path with
        | error error =>
            rw [located] at there
            contradiction
        | ok place =>
            rw [located] at there
            exact ⟨place, rfl, eq_of_beq there⟩
      · simp only [there] at done
        contradiction

/-- Making a directory and those above it adds directories, and nothing else. -/
theorem made_of_ensureAll (done : tree.ensureAll path = .ok later) : Made tree path later := by
  fun_induction ensureAll tree path generalizing later with
  | case1 => contradiction
  | case2 path missing failed some ih =>
      obtain ⟨between, above, below⟩ := bind_eq_ok_iff.mp done
      have first := ih above
      have second := made_of_ensure below
      exact ⟨first.grows.trans second.grows,
        fun place => (second.contents place).trans (first.contents place), second.located⟩
  | case3 path other => exact made_of_ensure done

/-! ## Writing files -/

theorem write_eq_ok_iff {bytes : List UInt8} :
    tree.write path bytes = .ok later ↔
      ∃ place, tree.locate path = .ok place ∧ tree.node? place ≠ some .directory ∧
        later = tree.put place (.file bytes) := by
  rw [write]
  cases tree.locate path with
  | error error => simp
  | ok place =>
      cases found : tree.node? place with
      | none => simp [found, put, eq_comm]
      | some node => cases node <;> simp [found, put, eq_comm]

end Firewall.FileTree
