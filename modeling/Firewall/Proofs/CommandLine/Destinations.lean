import Firewall.Proofs.CommandLine.Writing

/-!
# Where rulesets go

The name of a host is read as a path.  What stands behind its last slash names the file, and what
stands in front leads to the folder of the file: from the output directory, or from the top if the
name starts with a slash (`destination`).  Writing without an error puts every ruleset at its
destination, and the last one stays that goes there (`Lands`).

So rulesets have files of their own in the output directory exactly if all names lead back to the
directory and their files have different names (`write_keepsInside_iff`).  Names without slashes
lead nowhere else; other names may lead outside, or to the file of another host.
-/

namespace Firewall

/-! ## Names of hosts as paths -/

/-- What is added without a separator is added to the last field. -/
theorem Text.exists_fields_append {separator : Char} {suffix : List Char}
    (absent : separator ∉ suffix) (text : List Char) :
    ∃ front last, fields separator text = front ++ [last] ∧
      fields separator (text ++ suffix) = front ++ [last ++ suffix] := by
  induction text with
  | nil => exact ⟨[], [], rfl, fields_of_notMem absent⟩
  | cons character rest ih =>
      obtain ⟨front, last, ofRest, ofMore⟩ := ih
      rw [List.cons_append, fields, fields, ofRest, ofMore]
      by_cases same : character = separator
      · rw [if_pos same, if_pos same]
        exact ⟨[] :: front, last, rfl, rfl⟩
      · rw [if_neg same, if_neg same]
        cases front with
        | nil => exact ⟨[], character :: last, rfl, rfl⟩
        | cons field others => exact ⟨(character :: field) :: others, last, rfl, rfl⟩

/-- What is added behind does not change the slashes in front. -/
theorem Path.rootOf_append {suffix : List Char} (noSlash : '/' ∉ suffix) (text : List Char) :
    rootOf (text ++ suffix) = rootOf text := by
  cases suffix with
  | nil => rw [List.append_nil]
  | cons character rest =>
      have other : character ≠ '/' := fun same => noSlash (same ▸ List.mem_cons_self)
      -- At most the three characters in front count, and the suffix may stand for one of them.
      fun_cases rootOf text with
      | case1 => rfl
      | case2 behind => cases behind <;> simp_all [rootOf]
      | case3 behind => cases behind <;> simp_all [rootOf]
      | case4 => cases text <;> simp_all [rootOf]

namespace CommandLine

open FileTree

/-- The names in front of the last slash. -/
def folderParts (host : String) : List String :=
  ((Text.fields '/' host.toList).dropLast.filter fun part => part ≠ [] ∧ part ≠ ['.']).map
    String.ofList

/-- What stands behind the last slash. -/
def lastPart (host : String) : String :=
  String.ofList ((Text.fields '/' host.toList).getLast (Text.fields_ne_nil '/' host.toList))

/-- The place to which a name leads, if the way is there. -/
def lead (place : Place) (part : String) : Place :=
  if part = ".." then place.dropLast else place ++ [Text.Utf8.encode part]

/-- The folder of the file of a host. -/
def folder (base : Place) (host : String) : Place :=
  (folderParts host).foldl lead (if (Path.rootOf host.toList).isEmpty then base else [])

/-- The place of the file of a host. -/
def destination (base : Place) (host : String) : Place :=
  folder base host ++ [fileName (lastPart host)]

theorem read_host (host : String) :
    Path.read (host ++ ".rules") =
      ⟨Path.rootOf host.toList, folderParts host ++ [lastPart host ++ ".rules"]⟩ := by
  have noSlash : '/' ∉ ".rules".toList := by decide
  obtain ⟨front, last, split, longer⟩ := Text.exists_fields_append noSlash host.toList
  have isName : last ++ ".rules".toList ≠ [] ∧ last ++ ".rules".toList ≠ ['.'] := by
    constructor
    · simp
    · intro same
      have length := congrArg List.length same
      simp at length
  have kept : [last ++ ".rules".toList].filter (fun part => part ≠ [] ∧ part ≠ ['.']) =
      [last ++ ".rules".toList] := List.filter_cons_of_pos (decide_eq_true isName)
  have lastName : String.ofList (last ++ ".rules".toList) = String.ofList last ++ ".rules" := by
    rw [String.ofList_append, String.ofList_toList]
  rw [Path.read, String.toList_append, Path.rootOf_append noSlash, longer, List.filter_append,
    kept, List.map_append, List.map_singleton, lastName]
  simp only [folderParts, lastPart, split, List.dropLast_concat, List.getLast_concat]

theorem foldl_lead_host (start : Place) (host : String) :
    (folderParts host ++ [lastPart host ++ ".rules"]).foldl lead start =
      (folderParts host).foldl lead start ++ [fileName (lastPart host)] := by
  have noParent : lastPart host ++ ".rules" ≠ ".." := by
    intro same
    have length := congrArg (List.length ∘ String.toList) same
    simp at length
  rw [List.foldl_append, List.foldl_cons, List.foldl_nil, lead, if_neg noParent, fileName]

variable {tree later : FileTree} {directory : Path} {base place : Place} {host text : String}
  {rulesets : List (String × String)}

theorem lead_of_enter {part : String} {next : Place} (entered : tree.enter place part = .ok next) :
    next = lead place part := by
  rw [enter] at entered
  split at entered
  · contradiction
  · contradiction
  · by_cases parent : part = ".."
    · rw [if_pos parent] at entered
      rw [lead, if_pos parent]
      exact (Except.ok.inj entered).symm
    · rw [if_neg parent] at entered
      rw [lead, if_neg parent]
      split at entered
      · contradiction
      · exact (Except.ok.inj entered).symm

theorem foldl_lead_of_foldlM_enter {parts : List String} {start : Place}
    (entered : parts.foldlM tree.enter start = .ok place) : place = parts.foldl lead start := by
  induction parts generalizing start with
  | nil => exact (Except.ok.inj entered).symm
  | cons part rest ih =>
      rw [List.foldlM_cons] at entered
      obtain ⟨next, first, behind⟩ := bind_eq_ok_iff.mp entered
      rw [List.foldl_cons, ← lead_of_enter first]
      exact ih behind

/-- The path of a ruleset leads to its destination if it leads anywhere. -/
theorem destination_of_locate (located : tree.locate directory = .ok base)
    (found : tree.locate (rulesPath directory host) = .ok place) :
    place = destination base host := by
  obtain ⟨-, toBase⟩ := locate_eq_ok_iff.mp located
  obtain ⟨-, toPlace⟩ := locate_eq_ok_iff.mp found
  rw [rulesPath, read_host, Path.join] at toPlace
  rw [destination, folder]
  split at toPlace
  case isTrue relative =>
    change (directory.parts ++ _).foldlM tree.enter (tree.start directory) = .ok place at toPlace
    rw [List.foldlM_append, toBase] at toPlace
    obtain ⟨_, ⟨⟩, behind⟩ := bind_eq_ok_iff.mp toPlace
    rw [if_pos relative, ← foldl_lead_host]
    exact foldl_lead_of_foldlM_enter behind
  case isFalse absolute =>
    rw [start, if_neg absolute] at toPlace
    rw [if_neg absolute, ← foldl_lead_host]
    exact foldl_lead_of_foldlM_enter toPlace

/-! ## Rulesets at their destinations -/

/-- Every ruleset is put at its destination, where the last one stays, and all other files are as
they were. -/
structure Lands (before after : FileTree) (directory : Path) (base : Place)
    (rulesets : List (String × String)) : Prop where
  grows : Grows before after
  located : ∀ entry ∈ rulesets,
    after.locate (rulesPath directory entry.1) = .ok (destination base entry.1)
  last : ∀ front entry back, rulesets = front ++ entry :: back →
    (∀ other ∈ back, destination base other.1 ≠ destination base entry.1) →
    after.content? (destination base entry.1) = some (Text.Utf8.encode entry.2)
  untouched : ∀ place, (∀ entry ∈ rulesets, destination base entry.1 ≠ place) →
    after.content? place = before.content? place

theorem lands_cons
    (located : tree.locate (rulesPath directory host) = .ok (destination base host))
    (free : tree.node? (destination base host) ≠ some .directory)
    (others : Lands (tree.put (destination base host) (.file (Text.Utf8.encode text))) later
      directory base rulesets) :
    Lands tree later directory base ((host, text) :: rulesets) := by
  have grows := (grows_put free (.file (Text.Utf8.encode text))).trans others.grows
  constructor
  case grows => exact grows
  case located =>
    intro entry member
    cases List.mem_cons.mp member with
    | inl isFirst =>
        subst isFirst
        exact locate_of_grows grows located
    | inr inRest => exact others.located entry inRest
  case last =>
    intro front entry back split final
    cases front with
    | nil =>
        cases split
        rw [others.untouched _ final, content?_put_file free, if_pos rfl]
    | cons first front =>
        cases split
        exact others.last front entry back rfl final
  case untouched =>
    intro place elsewhere
    obtain ⟨notFirst, notOthers⟩ := List.forall_mem_cons.mp elsewhere
    rw [others.untouched place notOthers, content?_put_file free, if_neg notFirst]

theorem exists_put_of_writeText {path : Path} (done : writeText tree path text = (later, none)) :
    ∃ place, tree.locate path = .ok place ∧ tree.node? place ≠ some .directory ∧
      later = tree.put place (.file (Text.Utf8.encode text)) := by
  have whole : Text.isWhole text = true := isWhole_of_writeText (congrArg Prod.snd done)
  rw [writeText, if_pos whole] at done
  split at done
  · obtain ⟨-, ⟨⟩⟩ := Prod.mk.inj done
  case h_2 written =>
    obtain ⟨rfl, -⟩ := Prod.mk.inj done
    exact write_eq_ok_iff.mp written

theorem lands_of_writeFiles (located : tree.locate directory = .ok base)
    (done : (writeFiles tree (filesOf directory rulesets)).2.2 = none) :
    Lands tree (writeFiles tree (filesOf directory rulesets)).1 directory base rulesets := by
  induction rulesets generalizing tree with
  | nil =>
      constructor
      case grows => exact grows_refl tree
      case located =>
        intro entry member
        exact absurd member List.not_mem_nil
      case last =>
        intro front entry back split
        exact absurd split.symm (List.append_ne_nil_of_right_ne_nil _ (List.cons_ne_nil _ _))
      case untouched => exact fun place _ => rfl
  | cons first rest ih =>
      obtain ⟨host, text⟩ := first
      rw [filesOf_cons, writeFiles] at done ⊢
      cases first : writeText tree (rulesPath directory host) text with
      | mk between error =>
          rw [first] at done
          cases error with
          | some error => contradiction
          | none =>
              obtain ⟨place, found, free, rfl⟩ := exists_put_of_writeText first
              obtain rfl := destination_of_locate located found
              exact lands_cons found free (ih (locate_of_grows (grows_put free _) located) done)

/-- The directories that are made before are no files. -/
theorem Lands.of_made {made : FileTree} (grows : Grows tree made)
    (contents : ∀ place, made.content? place = tree.content? place)
    (lands : Lands made later directory base rulesets) :
    Lands tree later directory base rulesets where
  grows := grows.trans lands.grows
  located := lands.located
  last := lands.last
  untouched := fun place elsewhere => (lands.untouched place elsewhere).trans (contents place)

/-- If there is no error, rulesets land at their destinations, seen from the output directory. -/
theorem lands_of_write {directory : String}
    (done : (write tree (some directory) rulesets).error = none) :
    let after := (write tree (some directory) rulesets).tree
    ∃ base, after.locate (Path.read directory) = .ok base ∧ after.node? base = some .directory ∧
      Lands tree after (Path.read directory) base rulesets := by
  cases first : tree.ensureAll (Path.read directory) with
  | error error =>
      simp only [write, first] at done
      contradiction
  | ok made =>
      simp only [write, first] at done ⊢
      have directories := made_of_ensureAll first
      obtain ⟨base, located, isDirectory⟩ := directories.located
      have lands := lands_of_writeFiles located done
      exact ⟨base, locate_of_grows lands.grows located, lands.grows.directories base isDirectory,
        lands.of_made directories.grows directories.contents⟩

/-! ## Files in the directory -/

/-- Every host has a file of its own right in the directory, with its ruleset in it, and nothing is
written outside. -/
structure KeepsInside (before after : FileTree) (directory : Path) (base : Place)
    (rulesets : List (String × String)) : Prop where
  own : ∀ entry ∈ rulesets, ∃ name,
    after.locate (rulesPath directory entry.1) = .ok (base ++ [name]) ∧
      after.content? (base ++ [name]) = some (Text.Utf8.encode entry.2)
  apart : ∀ first ∈ rulesets, ∀ second ∈ rulesets, first.1 ≠ second.1 →
    after.locate (rulesPath directory first.1) ≠ after.locate (rulesPath directory second.1)
  outside : ∀ place, (∀ name, place ≠ base ++ [name]) →
    after.content? place = before.content? place

theorem Lands.keepsInside_iff (lands : Lands tree later directory base rulesets)
    (distinct : (rulesets.map Prod.fst).Nodup) :
    KeepsInside tree later directory base rulesets ↔
      (∀ entry ∈ rulesets, folder base entry.1 = base) ∧
        ∀ first ∈ rulesets, ∀ second ∈ rulesets, first.1 ≠ second.1 →
          fileName (lastPart first.1) ≠ fileName (lastPart second.1) := by
  constructor
  · intro keeps
    have back : ∀ entry ∈ rulesets, folder base entry.1 = base := by
      intro entry member
      obtain ⟨name, located, -⟩ := keeps.own entry member
      rw [lands.located entry member, destination] at located
      have sameLength : [fileName (lastPart entry.1)].length = [name].length := by
        rw [List.length_singleton, List.length_singleton]
      exact (List.append_inj' (Except.ok.inj located) sameLength).1
    refine ⟨back, ?_⟩
    intro first isFirst second isSecond different same
    apply keeps.apart first isFirst second isSecond different
    rw [lands.located first isFirst, lands.located second isSecond, destination, destination,
      back first isFirst, back second isSecond, same]
  · rintro ⟨back, names⟩
    have inside : ∀ entry ∈ rulesets,
        destination base entry.1 = base ++ [fileName (lastPart entry.1)] := by
      intro entry member
      rw [destination, back entry member]
    have apart : ∀ first ∈ rulesets, ∀ second ∈ rulesets, first.1 ≠ second.1 →
        destination base first.1 ≠ destination base second.1 := by
      intro first isFirst second isSecond different same
      rw [inside first isFirst, inside second isSecond] at same
      exact names first isFirst second isSecond different (by simpa using same)
    constructor
    case own =>
      intro entry member
      refine ⟨fileName (lastPart entry.1), ?_, ?_⟩
      · rw [lands.located entry member, inside entry member]
      · obtain ⟨front, behind, split⟩ := List.append_of_mem member
        rw [← inside entry member]
        apply lands.last front entry behind split
        have different : ∀ other ∈ behind, entry.1 ≠ other.1 := by
          have pairs := List.pairwise_map.mp distinct
          rw [split, List.pairwise_append] at pairs
          exact (List.pairwise_cons.mp pairs.2.1).1
        intro other inBehind
        have isOther : other ∈ rulesets := by simp [split, inBehind]
        exact (apart entry member other isOther (different other inBehind)).symm
    case apart =>
      intro first isFirst second isSecond different same
      rw [lands.located first isFirst, lands.located second isSecond] at same
      exact apart first isFirst second isSecond different (Except.ok.inj same)
    case outside =>
      intro place outside
      apply lands.untouched
      intro entry member same
      exact outside _ (same.symm.trans (inside entry member))

theorem folder_of_notMem (noSlash : '/' ∉ host.toList) : folder base host = base := by
  rw [folder, folderParts, rootOf_of_notMem noSlash, Text.fields_of_notMem noSlash]
  rfl

theorem lastPart_of_notMem (noSlash : '/' ∉ host.toList) : lastPart host = host := by
  simp only [lastPart, Text.fields_of_notMem noSlash, List.getLast_singleton, String.ofList_toList]

/-- If rulesets are written without an error, each one goes to the destination of its host, and the
last one stays that goes there.  So every host has a file of its own in the output directory exactly
if the names lead back to the directory and what stands behind their last slashes names different
files.  Names without slashes do, if they differ in bytes. -/
theorem write_keepsInside_iff {tree : FileTree} {directory : String}
    {rulesets : List (String × String)} (distinct : (rulesets.map Prod.fst).Nodup)
    (done : (write tree (some directory) rulesets).error = none) :
    let after := (write tree (some directory) rulesets).tree
    ∃ base, after.locate (Path.read directory) = .ok base ∧ after.node? base = some .directory ∧
      Lands tree after (Path.read directory) base rulesets ∧
      (KeepsInside tree after (Path.read directory) base rulesets ↔
        (∀ entry ∈ rulesets, folder base entry.1 = base) ∧
          ∀ first ∈ rulesets, ∀ second ∈ rulesets, first.1 ≠ second.1 →
            fileName (lastPart first.1) ≠ fileName (lastPart second.1)) ∧
      ((∀ entry ∈ rulesets, '/' ∉ entry.1.toList) →
        (∀ first ∈ rulesets, ∀ second ∈ rulesets, first.1 ≠ second.1 →
          fileName first.1 ≠ fileName second.1) →
        KeepsInside tree after (Path.read directory) base rulesets) := by
  intro after
  obtain ⟨base, located, isDirectory, lands⟩ := lands_of_write done
  have keeps := lands.keepsInside_iff distinct
  refine ⟨base, located, isDirectory, lands, keeps, ?_⟩
  intro noSlash names
  apply keeps.mpr
  constructor
  · intro entry member
    exact folder_of_notMem (noSlash entry member)
  · intro first isFirst second isSecond different
    rw [lastPart_of_notMem (noSlash first isFirst), lastPart_of_notMem (noSlash second isSecond)]
    exact names first isFirst second isSecond different

/-- A dot in front of a name makes no difference. -/
theorem small_write_keepsInside :
    let tree := FileTree.bare (.ofNames ["home"])
    let rulesets := [("web", "1\n"), ("./db", "2\n")]
    let after := (write tree (some "out") rulesets).tree
    (rulesets.map Prod.fst).Nodup ∧ (write tree (some "out") rulesets).error = none ∧
    ∃ base, after.locate (Path.read "out") = .ok base ∧
      KeepsInside tree after (Path.read "out") base rulesets := by
  intro tree rulesets after
  have distinct : (rulesets.map Prod.fst).Nodup := by decide
  have done : (write tree (some "out") rulesets).error = none := by decide +kernel
  obtain ⟨base, located, -, -, keeps, -⟩ := write_keepsInside_iff distinct done
  have isOut : (after.locate (Path.read "out")).toOption = some (.ofNames ["home", "out"]) := by
    decide +kernel
  rw [located] at isOut
  cases isOut
  exact ⟨distinct, done, _, located, keeps.mpr (by decide +kernel)⟩

/-- The same name with a dot in front leads to the same file, and the first ruleset is lost. -/
theorem small_write_overwrites :
    let tree := FileTree.bare (.ofNames ["home"])
    let rulesets := [("x", "1\n"), ("./x", "2\n")]
    let after := (write tree (some "out") rulesets).tree
    (rulesets.map Prod.fst).Nodup ∧ (write tree (some "out") rulesets).error = none ∧
    after.files = [(.ofNames ["out", "x.rules"], Text.Utf8.encode "2\n")] ∧
    ∀ base, after.locate (Path.read "out") = .ok base →
      ¬ KeepsInside tree after (Path.read "out") base rulesets := by
  intro tree rulesets after
  refine ⟨by decide, by decide +kernel, by decide +kernel, ?_⟩
  intro base located keeps
  have same : after.locate (rulesPath (Path.read "out") "x") =
      after.locate (rulesPath (Path.read "out") "./x") := congrArg after.locate (by decide +kernel)
  exact keeps.apart ("x", "1\n") (by simp [rulesets]) ("./x", "2\n") (by simp [rulesets])
    (by decide) same

end CommandLine

end Firewall
