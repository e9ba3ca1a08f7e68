import Firewall.Proofs.CommandLine.Loading
import Firewall.Proofs.CommandLine.Writing
import Firewall.Proofs.Compile.Repetition

/-!
# What a run delivers

A run that cannot load the policy or the services ends with code 1 and leaves nothing behind.  Any
other run compiles the selected hosts and delivers the rulesets of those that do not fail, either to
standard output or each to a file of its own; its code tells whether a host has failed.
`run_comesTo` says so of all runs for which the compilation comes to its end and the files can be
written.  One thing still breaks off such a run: a ruleset without a UTF-8 form.  It is not printed,
and its file is made but stays empty (`small_run_breaks_off`).
-/

namespace Firewall.CommandLine

open FileTree

/-- The exit code of a run that comes to its end. -/
def Run.code? (done : Run) : Option Nat := done.ending.toOption.map Ending.code

/-- A directory takes the files of compiled hosts: it can be made, the files can be put into it, and
each is the file of no other selected host. -/
structure Receives (tree : FileTree) (directory : Path) (selected compiled : List String) :
    Prop where
  writable : ∃ made, tree.ensureAll directory = .ok made ∧
    ∀ host ∈ compiled, ∃ later, made.write (rulesPath directory host) [] = .ok later
  plain : ∀ host ∈ selected, '/' ∉ host.toList
  apart : ∀ host ∈ compiled, ∀ other ∈ selected, fileName host = fileName other → host = other

/-- Whether a directory can be made and takes files for some hosts. -/
def takesFiles (tree : FileTree) (directory : Path) (compiled : List String) : Bool :=
  match tree.ensureAll directory with
  | .error _ => false
  | .ok made => compiled.all fun host => (made.write (rulesPath directory host) []).isOk

theorem takesFiles_iff {tree : FileTree} {directory : Path} {compiled : List String} :
    takesFiles tree directory compiled = true ↔
      ∃ made, tree.ensureAll directory = .ok made ∧
        ∀ host ∈ compiled, ∃ later, made.write (rulesPath directory host) [] = .ok later := by
  have written (made : FileTree) (host : String) :
      (made.write (rulesPath directory host) []).isOk = true ↔
        ∃ later, made.write (rulesPath directory host) [] = .ok later := by
    cases made.write (rulesPath directory host) [] <;> simp [Except.isOk, Except.toBool]
  rw [takesFiles]
  cases tree.ensureAll directory with
  | error error => simp
  | ok made => simp [written]

instance (tree : FileTree) (directory : Path) (selected compiled : List String) :
    Decidable (Receives tree directory selected compiled) :=
  decidable_of_iff
    (takesFiles tree directory compiled = true ∧ (∀ host ∈ selected, '/' ∉ host.toList) ∧
      ∀ host ∈ compiled, ∀ other ∈ selected, fileName host = fileName other → host = other)
    ⟨fun all => ⟨takesFiles_iff.mp all.1, all.2.1, all.2.2⟩,
      fun all => ⟨takesFiles_iff.mpr all.writable, all.plain, all.apart⟩⟩

/-- Rulesets are in a directory: the file of each host holds its text, and a place that is not one
of these files has what it had before. -/
structure Fills (before after : FileTree) (directory : Path) (rulesets : Table String String) :
    Prop where
  written : ∀ host text, rulesets.get? host = some text →
    after.read (rulesPath directory host) = .ok (Text.Utf8.encode text)
  kept : ∀ place,
    (∀ host, (rulesets.get? host).isSome →
      after.locate (rulesPath directory host) ≠ .ok place) →
    after.content? place = before.content? place

variable {surroundings : Surroundings} {order : Order}

namespace Loaded

/-- The compilation comes to its end, and the directory takes the files if one is given. -/
structure IsReady (loaded : Loaded surroundings order) : Prop where
  returns : loaded.compilation.ended = none
  receives : ∀ directory ∈ order.directory,
    Receives surroundings.tree (Path.read directory) loaded.selected
      loaded.compilation.rulesets.keys

/-- The rulesets can be delivered: all of them have a UTF-8 form. -/
def IsDeliverable (loaded : Loaded surroundings order) : Prop :=
  ∀ host text, loaded.compilation.rulesets.get? host = some text → Text.isWhole text = true

/-- What a run has printed that breaks off: the texts in front of the first one without a UTF-8
form. -/
structure BreaksOff (loaded : Loaded surroundings order) (done : Run) : Prop where
  untouched : done.tree = surroundings.tree
  printed : ∃ front text back,
    (distinct loaded.selected).filterMap loaded.compilation.rulesets.get? = front ++ text :: back ∧
      (∀ earlier ∈ front, Text.isWhole earlier = true) ∧ Text.isWhole text = false ∧
      done.output = String.join front

/-- What a run leaves behind that comes to its end with what is loaded. -/
structure Delivers (loaded : Loaded surroundings order) (done : Run) : Prop where
  compiled : ∀ host, (loaded.compilation.rulesets.get? host).isSome ↔
    host ∈ loaded.selected ∧ ¬ loaded.compiler.Fails host
  failed : done.code? = some 2 ↔ ∃ host ∈ loaded.selected, loaded.compiler.Fails host
  succeeded : done.code? = some 0 ↔ ∀ host ∈ loaded.selected, ¬ loaded.compiler.Fails host
  /-- Without a directory, the texts are printed in the order of first selection. -/
  printed : order.directory = none →
    done.tree = surroundings.tree ∧
      done.output = String.join
        ((distinct loaded.selected).filterMap loaded.compilation.rulesets.get?)
  written : ∀ directory ∈ order.directory,
    done.output = "" ∧
      Fills surroundings.tree done.tree (Path.read directory) loaded.compilation.rulesets
  /-- The file of a host that fails is as it was before, be it there or not. -/
  spared : ∀ directory ∈ order.directory, ∀ host ∈ loaded.selected, loaded.compiler.Fails host →
    ∀ place, done.tree.locate (rulesPath (Path.read directory) host) = .ok place →
      done.tree.content? place = surroundings.tree.content? place

end Loaded

/-- What a run comes to. -/
structure ComesTo (surroundings : Surroundings) (order : Order) (done : Run) : Prop where
  unloaded : done.code? = some 1 ↔ ¬ Nonempty (Loaded surroundings order)
  nothing : done.code? = some 1 → done.output = "" ∧ done.tree = surroundings.tree
  ends : ∀ loaded : Loaded surroundings order, done.code?.isSome ↔ loaded.IsDeliverable
  delivers : ∀ loaded : Loaded surroundings order, done.code?.isSome → loaded.Delivers done
  breaksOff : ∀ loaded : Loaded surroundings order, done.code? = none → order.directory = none →
    loaded.BreaksOff done

namespace Loaded

variable {loaded : Loaded surroundings order}

theorem comprises (returned : loaded.compilation.ended = none) :
    loaded.compiler.Comprises loaded.selected loaded.compilation :=
  Compiler.run_comprises rfl (Compiler.start_comprises rfl) returned

/-- What writing the rulesets leaves behind. -/
def written (loaded : Loaded surroundings order) : Written :=
  write surroundings.tree order.directory loaded.compilation.rulesets.entries

/-- How the run ends after that. -/
def ending (loaded : Loaded surroundings order) : Except RunError Ending :=
  match loaded.written.error with
  | some error => .error (.file error)
  | none => .ok (endingOf loaded.compilation.report)

theorem run_of_returned (returned : loaded.compilation.ended = none) :
    ∃ events, run surroundings order.options =
      ⟨loaded.ending, loaded.written.output, events, loaded.written.tree⟩ := by
  -- The run has noted that it loads its files before it compiles, with no answers known.
  obtain ⟨returnedAgain, rulesets, report⟩ := Compiler.compile_again .empty
    ⟨Table.empty, .loadingPolicy order.policy :: loaded.events⟩ rfl rfl rfl returned
  have same : (⟨loaded.policy, ⟨⟨loaded.policy.addresses, some surroundings.system⟩,
      loaded.services⟩, surroundings.time, true⟩ : Compiler) = loaded.compiler := rfl
  rw [run_of_loaded loaded, compileAndWrite, hosts_options, directory_options, same]
  simp only [stopping?_options returnedAgain, rulesets, report, ending, written, compilation]
  generalize write surroundings.tree order.directory
    (loaded.compiler.compile order.hosts .empty).rulesets.entries = written
  cases written.error with
  | some error => exact ⟨_, rfl⟩
  | none => exact ⟨_, rfl⟩

theorem code?_isSome_iff (returned : loaded.compilation.ended = none) :
    (run surroundings order.options).code?.isSome ↔ loaded.written.error = none := by
  obtain ⟨events, isRun⟩ := run_of_returned returned
  rw [isRun, Run.code?, ending]
  cases loaded.written.error <;> simp [Except.toOption]

theorem code?_of_written (returned : loaded.compilation.ended = none)
    (success : loaded.written.error = none) :
    (run surroundings order.options).code? = some (endingOf loaded.compilation.report).code := by
  obtain ⟨events, isRun⟩ := run_of_returned returned
  rw [isRun, Run.code?, ending, success]
  rfl

theorem code_endingOf_iff (returned : loaded.compilation.ended = none) :
    ((endingOf loaded.compilation.report).code = 2 ↔
        ∃ host ∈ loaded.selected, loaded.compiler.Fails host) ∧
      ((endingOf loaded.compilation.report).code = 0 ↔
        ∀ host ∈ loaded.selected, ¬ loaded.compiler.Fails host) := by
  have failed := Compiler.report_has_error_iff (comprises returned)
  rw [endingOf]
  cases has : loaded.compilation.report.has .error <;> simp_all [Ending.code]

theorem ruleset_iff (returned : loaded.compilation.ended = none) (host : String) :
    (loaded.compilation.rulesets.get? host).isSome ↔
      host ∈ loaded.selected ∧ ¬ loaded.compiler.Fails host :=
  Compiler.ruleset_isSome_iff (comprises returned) host

theorem selected_of_key (returned : loaded.compilation.ended = none) {host : String}
    (isKey : host ∈ loaded.compilation.rulesets.keys) : host ∈ loaded.selected :=
  ((ruleset_iff returned host).mp ((Table.mem_keys_iff _).mp isKey)).1

end Loaded

/-! ## Writing -/

section Directory

variable {before made after : FileTree} {directory : Path} {base : Place}
variable {rulesets : Table String String}

/-- The file of a host whose ruleset is written is where it could be put. -/
theorem locate_of_hasWritten (located : made.locate directory = .ok base)
    (written : HasWritten made after base rulesets.entries) {host : String}
    (noSlash : '/' ∉ host.toList) (writable : IsWritable made (rulesPath directory host)) :
    after.locate (rulesPath directory host) = .ok (base ++ [fileName host]) := by
  obtain ⟨place, found, free⟩ := writable
  rw [place_of_rulesPath located noSlash found] at found
  exact locate_of_grows written.grows found

theorem fills_of_hasWritten (contents : ∀ place, made.content? place = before.content? place)
    (located : made.locate directory = .ok base)
    (noSlash : ∀ host ∈ rulesets.keys, '/' ∉ host.toList)
    (writable : ∀ host ∈ rulesets.keys, IsWritable made (rulesPath directory host))
    (written : HasWritten made after base rulesets.entries) :
    Fills before after directory rulesets := by
  have found : ∀ entry ∈ rulesets.entries,
      after.locate (rulesPath directory entry.1) = .ok (base ++ [fileName entry.1]) := by
    intro entry member
    have isKey : entry.1 ∈ rulesets.keys := List.mem_map_of_mem member
    exact locate_of_hasWritten located written (noSlash entry.1 isKey) (writable entry.1 isKey)
  constructor
  case written =>
    intro host text isText
    have member := rulesets.mem_entries_iff.mpr isText
    exact read_of_content? (found (host, text) member) (written.written (host, text) member)
  case kept =>
    intro place elsewhere
    rw [← contents]
    apply written.untouched
    intro entry member same
    have isText := rulesets.mem_entries_iff.mp member
    refine elsewhere entry.1 (by simp [isText]) ?_
    rw [same]
    exact found entry member

end Directory

namespace Loaded

variable {loaded : Loaded surroundings order}

/-- What is left when the rulesets are written into a directory. -/
def files (loaded : Loaded surroundings order) (directory : String) (made : FileTree) :
    FileTree × List Event × Option FileError :=
  writeFiles made (filesOf (Path.read directory) loaded.compilation.rulesets.entries)

theorem isDeliverable_iff :
    loaded.IsDeliverable ↔
      ∀ entry ∈ loaded.compilation.rulesets.entries, Text.isWhole entry.2 = true := by
  constructor
  · intro deliverable entry member
    exact deliverable entry.1 entry.2 (loaded.compilation.rulesets.mem_entries_iff.mp member)
  · intro whole host text isText
    exact whole (host, text) (loaded.compilation.rulesets.mem_entries_iff.mpr isText)

theorem isDeliverable_of_files {directory : String} {made : FileTree}
    (done : (loaded.files directory made).2.2 = none) : loaded.IsDeliverable := by
  rw [isDeliverable_iff]
  intro entry member
  exact isWhole_of_writeFiles done (rulesPath (Path.read directory) entry.1, entry.2)
    (List.mem_map.mpr ⟨entry, member, rfl⟩)

section Directory

variable {directory : String} {made : FileTree} {base : Place}

theorem files_hasWritten (ready : loaded.IsReady) (given : order.directory = some directory)
    (writable : ∀ host ∈ loaded.compilation.rulesets.keys,
      IsWritable made (rulesPath (Path.read directory) host))
    (located : made.locate (Path.read directory) = .ok base)
    (deliverable : loaded.IsDeliverable) :
    (loaded.files directory made).2.2 = none ∧
      HasWritten made (loaded.files directory made).1 base
        loaded.compilation.rulesets.entries := by
  have isKey : ∀ entry ∈ loaded.compilation.rulesets.entries,
      entry.1 ∈ loaded.compilation.rulesets.keys := fun entry member => List.mem_map_of_mem member
  have isSelected : ∀ entry ∈ loaded.compilation.rulesets.entries, entry.1 ∈ loaded.selected :=
    fun entry member => selected_of_key ready.returns (isKey entry member)
  have receives := ready.receives directory given
  apply writeFiles_hasWritten located
  case noSlash => exact fun entry member => receives.plain entry.1 (isSelected entry member)
  case whole => exact isDeliverable_iff.mp deliverable
  case writable => exact fun entry member => writable entry.1 (isKey entry member)
  case apart =>
    apply List.Pairwise.imp_of_mem _ (List.pairwise_map.mp loaded.compilation.rulesets.keysDistinct)
    intro first second isFirst isSecond different same
    exact different
      (receives.apart first.1 (isKey first isFirst) second.1 (isSelected second isSecond) same)

/-- The file of a host that fails is none of those that are written. -/
theorem spared_of_fills {before after : FileTree} (ready : loaded.IsReady)
    (given : order.directory = some directory)
    (located : after.locate (Path.read directory) = .ok base)
    (fills : Fills before after (Path.read directory) loaded.compilation.rulesets) {host : String}
    (isSelected : host ∈ loaded.selected) (fails : loaded.compiler.Fails host) {place : Place}
    (found : after.locate (rulesPath (Path.read directory) host) = .ok place) :
    after.content? place = before.content? place := by
  apply fills.kept
  intro other isText same
  have receives := ready.receives directory given
  obtain ⟨otherSelected, compiles⟩ := (ruleset_iff ready.returns other).mp isText
  have atHost := place_of_rulesPath located (receives.plain host isSelected) found
  have atOther := place_of_rulesPath located (receives.plain other otherSelected) same
  -- Both files are right in the directory, so they are one only if their names are.
  have sameFile : fileName other = fileName host := by
    rw [atHost] at atOther
    exact (List.cons.inj (List.append_cancel_left atOther)).1.symm
  have sameHost := receives.apart other ((Table.mem_keys_iff _).mpr isText) host isSelected sameFile
  rw [sameHost] at compiles
  exact compiles fails

end Directory

theorem written_eq_printAll (given : order.directory = none) :
    loaded.written.error = (printAll loaded.compilation.rulesets.entries).2.2 ∧
      loaded.written.output = (printAll loaded.compilation.rulesets.entries).1 ∧
      loaded.written.tree = surroundings.tree := by
  rw [written, given]
  exact ⟨rfl, rfl, rfl⟩

/-- The files and what writing them is made of, where the directory can be made. -/
theorem written_eq {directory : String} {made : FileTree}
    (given : order.directory = some directory)
    (ensured : surroundings.tree.ensureAll (Path.read directory) = .ok made) :
    loaded.written.error = (loaded.files directory made).2.2 ∧
      loaded.written.output = "" ∧
      loaded.written.tree = (loaded.files directory made).1 := by
  rw [written, given, write]
  dsimp only
  rw [ensured]
  exact ⟨rfl, rfl, rfl⟩

/-- Where the files can be written, the rulesets are in the directory afterwards, unless one of them
has no UTF-8 form. -/
theorem written_fills (ready : loaded.IsReady) {directory : String}
    (given : order.directory = some directory) (deliverable : loaded.IsDeliverable) :
    loaded.written.error = none ∧ loaded.written.output = "" ∧
      Fills surroundings.tree loaded.written.tree (Path.read directory)
        loaded.compilation.rulesets ∧
      ∃ base, loaded.written.tree.locate (Path.read directory) = .ok base := by
  have receives := ready.receives directory given
  obtain ⟨made, ensured, puts⟩ := receives.writable
  obtain ⟨-, contents, base, located, -⟩ := made_of_ensureAll ensured
  obtain ⟨error, output, tree⟩ := loaded.written_eq given ensured
  have writable : ∀ host ∈ loaded.compilation.rulesets.keys,
      IsWritable made (rulesPath (Path.read directory) host) := by
    intro host isKey
    obtain ⟨later, put⟩ := puts host isKey
    exact isWritable_of_write put
  have noSlash : ∀ host ∈ loaded.compilation.rulesets.keys, '/' ∉ host.toList :=
    fun host isKey => receives.plain host (selected_of_key ready.returns isKey)
  obtain ⟨done, hasWritten⟩ := files_hasWritten ready given writable located deliverable
  rw [error, output, tree]
  exact ⟨done, rfl, fills_of_hasWritten contents located noSlash writable hasWritten,
    base, locate_of_grows hasWritten.grows located⟩

/-- A run ends with a code unless a ruleset has no UTF-8 form. -/
theorem written_iff (ready : loaded.IsReady) :
    loaded.written.error = none ↔ loaded.IsDeliverable := by
  cases given : order.directory with
  | none =>
      rw [(written_eq_printAll given).1, printAll_error_iff, isDeliverable_iff]
  | some directory =>
      constructor
      · obtain ⟨made, ensured, -⟩ := (ready.receives directory given).writable
        rw [(loaded.written_eq given ensured).1]
        exact isDeliverable_of_files
      · exact fun deliverable => (written_fills ready given deliverable).1

theorem code?_of_not_isDeliverable (ready : loaded.IsReady) (broken : ¬ loaded.IsDeliverable) :
    (run surroundings order.options).code? = none := by
  rw [← Option.not_isSome_iff_eq_none, code?_isSome_iff ready.returns, written_iff ready]
  exact broken

theorem delivers_of_written (ready : loaded.IsReady) (success : loaded.written.error = none) :
    loaded.Delivers (run surroundings order.options) := by
  have deliverable := (written_iff ready).mp success
  have code := code?_of_written ready.returns success
  have ends := loaded.code_endingOf_iff ready.returns
  obtain ⟨events, isRun⟩ := loaded.run_of_returned ready.returns
  constructor
  case compiled => exact ruleset_iff ready.returns
  case failed => rw [code, Option.some_inj, ends.1]
  case succeeded => rw [code, Option.some_inj, ends.2]
  case printed =>
    intro given
    obtain ⟨-, output, tree⟩ := loaded.written_eq_printAll given
    have whole := printAll_of_whole (isDeliverable_iff.mp deliverable)
    rw [isRun, output, tree, whole.1, Compiler.texts_of_comprises (comprises ready.returns)]
    exact ⟨rfl, rfl⟩
  case written =>
    intro directory given
    obtain ⟨-, output, fills, -⟩ := written_fills ready given deliverable
    rw [isRun]
    exact ⟨output, fills⟩
  case spared =>
    intro directory given host isSelected fails place found
    obtain ⟨-, -, fills, base, located⟩ := written_fills ready given deliverable
    rw [isRun] at found ⊢
    exact spared_of_fills ready given located fills isSelected fails found

/-- Where the rulesets are printed and one cannot be, those in front of it are there. -/
theorem breaksOff_of_written (ready : loaded.IsReady) (given : order.directory = none)
    (failed : loaded.written.error ≠ none) :
    loaded.BreaksOff (run surroundings order.options) := by
  obtain ⟨error, output, tree⟩ := loaded.written_eq_printAll given
  rw [error, Ne, printAll_error_iff] at failed
  obtain ⟨events, isRun⟩ := loaded.run_of_returned ready.returns
  obtain ⟨front, host, text, back, split, whole, broken⟩ :=
    (whole_or_broken loaded.compilation.rulesets.entries).resolve_left failed
  rw [isRun]
  constructor
  case untouched => exact tree
  case printed =>
    refine ⟨front.map Prod.snd, text, back.map Prod.snd, ?_, ?_, broken, ?_⟩
    · rw [← Compiler.texts_of_comprises (comprises ready.returns), split, List.map_append,
        List.map_cons]
    · exact List.forall_mem_map.mpr whole
    · dsimp only
      rw [output, split, (printAll_of_broken whole broken).1]

end Loaded

/-! ## Runs -/

theorem code?_ne_one (loaded : Loaded surroundings order) (ready : loaded.IsReady) :
    (run surroundings order.options).code? ≠ some 1 := by
  intro one
  have success := (loaded.code?_isSome_iff ready.returns).mp (by rw [one]; rfl)
  rw [loaded.code?_of_written ready.returns success, endingOf] at one
  split at one <;> contradiction

/-- What a run comes to for which everything is ready. -/
theorem run_comesTo (surroundings : Surroundings) (order : Order)
    (ready : ∀ loaded : Loaded surroundings order, loaded.IsReady) :
    ComesTo surroundings order (run surroundings order.options) := by
  have unloaded : (run surroundings order.options).code? = some 1 ↔
      ¬ Nonempty (Loaded surroundings order) := by
    constructor
    · rintro one ⟨loaded⟩
      exact code?_ne_one loaded (ready loaded) one
    · intro unloaded
      obtain ⟨events, isRun⟩ := run_of_unloaded unloaded
      rw [isRun]
      rfl
  have ends (loaded : Loaded surroundings order) :
      (run surroundings order.options).code?.isSome ↔ loaded.IsDeliverable :=
    (loaded.code?_isSome_iff (ready loaded).returns).trans (loaded.written_iff (ready loaded))
  constructor
  case unloaded => exact unloaded
  case nothing =>
    intro one
    obtain ⟨events, isRun⟩ := run_of_unloaded (unloaded.mp one)
    rw [isRun]
    exact ⟨rfl, rfl⟩
  case ends => exact ends
  case delivers =>
    intro loaded hasCode
    have success := (loaded.code?_isSome_iff (ready loaded).returns).mp hasCode
    exact loaded.delivers_of_written (ready loaded) success
  case breaksOff =>
    intro loaded noCode given
    apply loaded.breaksOff_of_written (ready loaded) given
    rw [Ne, ← loaded.code?_isSome_iff (ready loaded).returns, noCode]
    exact Bool.false_ne_true

/-! ## Two runs -/

/-- A policy file with one host, for which something comes in with a protocol. -/
def smallPolicy (protocol : String) : String :=
  "\x7b\"hosts\": \x7b\"web\": \x7b\"rules\": [\x7b\"action\": \"pass\", \"dir\": \"in\", " ++
    "\"proto\": \"" ++ protocol ++ "\"\x7d]\x7d\x7d\x7d"

/-- A working directory with that policy file and a services file; no name is known. -/
def smallSurroundings (protocol : String) : Surroundings where
  tree :=
    { working := .ofNames ["home"]
      nodes := Table.ofList [(.ofNames ["home"], .directory),
        (.ofNames ["home", "policy.json"], .file (Text.Utf8.encode (smallPolicy protocol))),
        (.ofNames ["home", "services"], .file (Text.Utf8.encode "http 80/tcp"))] }
  system := fun _ => .failure .unknownHost
  time := ⟨2000, 1, 1, 0, 0, 0⟩

/-- The host is selected twice, beside one that is not defined. -/
def smallOrder (directory : Option String) : Order where
  policy := "policy.json"
  hosts := some ["web", "ghost", "web"]
  directory
  services := "services"
  verbose := false

/-- The hosts with a ruleset when the selected hosts are compiled, and whether the ruleset has a
UTF-8 form. -/
def smallView (protocol : String) (policy : Policy) (services : Services) :
    Option (List (String × Bool)) :=
  let done := (compilerFor (smallSurroundings protocol) policy services).compile
    (some ["web", "ghost", "web"]) .empty
  if done.ended.isSome then none
  else some (done.rulesets.entries.map fun entry => (entry.1, Text.isWhole entry.2))

theorem small_isReady {protocol : String} {whole : Bool} {directory : Option String}
    (viewed : viewLoaded (smallSurroundings protocol) (smallOrder none) (smallView protocol) =
      some (some [("web", whole)]))
    (receives : ∀ name ∈ directory, Receives (smallSurroundings protocol).tree (Path.read name)
      ["web", "ghost", "web"] ["web"]) :
    Nonempty (Loaded (smallSurroundings protocol) (smallOrder directory)) ∧
      ∀ loaded : Loaded (smallSurroundings protocol) (smallOrder directory),
        loaded.IsReady ∧ (loaded.IsDeliverable ↔ whole = true) := by
  -- What is loaded does not depend on where the rulesets go.
  have viewedAlso : viewLoaded (smallSurroundings protocol) (smallOrder directory)
      (smallView protocol) = some (some [("web", whole)]) := viewed
  obtain ⟨isLoaded, seen⟩ := loaded_of_view viewedAlso
  refine ⟨isLoaded, fun loaded => ?_⟩
  have compiled := seen loaded
  rw [smallView] at compiled
  change (if loaded.compilation.ended.isSome then none else _) = _ at compiled
  split at compiled
  case isTrue => contradiction
  case isFalse goesOn =>
    obtain ⟨entry, entries, same⟩ := List.map_eq_singleton_iff.mp (Option.some.inj compiled)
    obtain ⟨isWeb, isWhole⟩ := Prod.mk.inj same
    change loaded.compilation.rulesets.entries = [entry] at entries
    constructor
    · constructor
      case returns => simpa using goesOn
      case receives =>
        intro name given
        rw [Table.keys, entries, List.map_singleton, isWeb]
        exact receives name given
    · rw [Loaded.isDeliverable_iff, entries, List.forall_mem_singleton, isWhole]

/-- The defined host has its file, and the other has none. -/
theorem small_run_comesTo :
    (∀ loaded : Loaded (smallSurroundings "tcp") (smallOrder (some "out")), loaded.IsReady) ∧
      Nonempty (Loaded (smallSurroundings "tcp") (smallOrder (some "out"))) ∧
      ComesTo (smallSurroundings "tcp") (smallOrder (some "out"))
        (run (smallSurroundings "tcp") (smallOrder (some "out")).options) ∧
      (run (smallSurroundings "tcp") (smallOrder (some "out")).options).code? = some 2 := by
  have receives : Receives (smallSurroundings "tcp").tree (Path.read "out")
      ["web", "ghost", "web"] ["web"] := by
    decide +kernel
  obtain ⟨isLoaded, ready⟩ := @small_isReady "tcp" true (some "out") (by decide +kernel)
    (by rintro name ⟨⟩; exact receives)
  have isReady := fun loaded => (ready loaded).1
  exact ⟨isReady, isLoaded, run_comesTo _ _ isReady, by decide +kernel⟩

/-- A protocol may be half of a surrogate pair.  Then the ruleset has no UTF-8 form, so that the run
breaks off with an empty file, or without printing anything. -/
theorem small_run_breaks_off :
    ((∀ loaded : Loaded (smallSurroundings "\\ud800") (smallOrder (some "out")), loaded.IsReady) ∧
      Nonempty (Loaded (smallSurroundings "\\ud800") (smallOrder (some "out"))) ∧
      (run (smallSurroundings "\\ud800") (smallOrder (some "out")).options).code? = none ∧
      ((run (smallSurroundings "\\ud800") (smallOrder (some "out")).options).tree.read
        (Path.read "out/web.rules")).toOption = some []) ∧
    (∀ loaded : Loaded (smallSurroundings "\\ud800") (smallOrder none), loaded.IsReady) ∧
      Nonempty (Loaded (smallSurroundings "\\ud800") (smallOrder none)) ∧
      (run (smallSurroundings "\\ud800") (smallOrder none).options).code? = none ∧
      (run (smallSurroundings "\\ud800") (smallOrder none).options).output = "" := by
  have viewed : viewLoaded (smallSurroundings "\\ud800") (smallOrder none)
      (smallView "\\ud800") = some (some [("web", false)]) := by
    decide +kernel
  have receives : Receives (smallSurroundings "\\ud800").tree (Path.read "out")
      ["web", "ghost", "web"] ["web"] := by
    decide +kernel
  obtain ⟨intoFiles, readyForFiles⟩ := @small_isReady _ _ (some "out") viewed
    (by rintro name ⟨⟩; exact receives)
  obtain ⟨toPrint, readyToPrint⟩ := @small_isReady _ _ none viewed nofun
  have noCode {directory : Option String}
      (loaded : Loaded (smallSurroundings "\\ud800") (smallOrder directory))
      (ready : loaded.IsReady ∧ (loaded.IsDeliverable ↔ false = true)) :
      (run (smallSurroundings "\\ud800") (smallOrder directory).options).code? = none :=
    loaded.code?_of_not_isDeliverable ready.1 (mt ready.2.mp Bool.false_ne_true)
  refine ⟨⟨fun loaded => (readyForFiles loaded).1, intoFiles, ?_, by decide +kernel⟩,
    fun loaded => (readyToPrint loaded).1, toPrint, ?_, by decide +kernel⟩
  · obtain ⟨loaded⟩ := intoFiles
    exact noCode loaded (readyForFiles loaded)
  · obtain ⟨loaded⟩ := toPrint
    exact noCode loaded (readyToPrint loaded)

end Firewall.CommandLine
