import Firewall.CommandLine.Run
import Firewall.Proofs.Files.Growth
import Firewall.Proofs.Text.Cutting

/-!
# Rulesets in their files, and in print

The name of a host without slashes leads to one file in a directory.  Where the files can be
written and have different names, writing rulesets leaves every ruleset in its own file and no other
file changed.  Printing rulesets comes to the first one without a UTF-8 form, and no further.
-/

namespace Firewall.CommandLine

open FileTree

/-- The name of the file of a host, in bytes. -/
def fileName (host : String) : List UInt8 := Text.Utf8.encode (host ++ ".rules")

/-! ## Paths of files -/

theorem rootOf_of_notMem {text : List Char} (noSlash : '/' ∉ text) : Path.rootOf text = "" := by
  cases text with
  | nil => rfl
  | cons first rest =>
      have other : first ≠ '/' := fun same => noSlash (by simp [same])
      rw [Path.rootOf]
      all_goals exact fun _ same => other (List.cons.inj same).1

theorem read_rules {host : String} (noSlash : '/' ∉ host.toList) :
    Path.read (host ++ ".rules") = ⟨"", [host ++ ".rules"]⟩ := by
  have absent : '/' ∉ (host ++ ".rules").toList := by simp [noSlash]
  have isName : (host ++ ".rules").toList ≠ [] ∧ (host ++ ".rules").toList ≠ ['.'] := by
    constructor
    · simp
    · intro same
      have length := congrArg List.length same
      simp at length
  have kept : [(host ++ ".rules").toList].filter (fun part => part ≠ [] ∧ part ≠ ['.']) =
      [(host ++ ".rules").toList] := List.filter_cons_of_pos (decide_eq_true isName)
  rw [Path.read, rootOf_of_notMem absent, Text.fields_of_notMem absent, kept, List.map_singleton,
    String.ofList_toList]

/-- The file of a host is right in the directory. -/
theorem place_of_rulesPath {tree : FileTree} {directory : Path} {base place : Place} {host : String}
    (located : tree.locate directory = .ok base) (noSlash : '/' ∉ host.toList)
    (found : tree.locate (rulesPath directory host) = .ok place) :
    place = base ++ [fileName host] := by
  have noParent : host ++ ".rules" ≠ ".." := by
    intro same
    have length := congrArg (List.length ∘ String.toList) same
    simp at length
  rw [rulesPath, read_rules noSlash] at found
  obtain ⟨-, toBase⟩ := locate_eq_ok_iff.mp located
  obtain ⟨-, toPlace⟩ := locate_eq_ok_iff.mp found
  change (directory.parts ++ [host ++ ".rules"]).foldlM tree.enter (tree.start directory) =
    .ok place at toPlace
  -- The names of the directory lead to it, and from there it is one more name.
  rw [List.foldlM_append, toBase] at toPlace
  obtain ⟨_, ⟨⟩, last⟩ := bind_eq_ok_iff.mp toPlace
  rw [List.foldlM_cons] at last
  obtain ⟨_, entered, ⟨⟩⟩ := bind_eq_ok_iff.mp last
  rw [enter] at entered
  split at entered
  · contradiction
  · contradiction
  · rw [if_neg noParent] at entered
    split at entered
    · contradiction
    · exact (Except.ok.inj entered).symm

/-! ## Files -/

/-- A file can be put at a path. -/
def IsWritable (tree : FileTree) (path : Path) : Prop :=
  ∃ place, tree.locate path = .ok place ∧ tree.node? place ≠ some .directory

theorem isWritable_of_write {tree later : FileTree} {path : Path} {bytes : List UInt8}
    (written : tree.write path bytes = .ok later) : IsWritable tree path := by
  obtain ⟨place, located, other, -⟩ := write_eq_ok_iff.mp written
  exact ⟨place, located, other⟩

theorem isWritable_put {tree : FileTree} {path : Path} {place : Place}
    (other : tree.node? place ≠ some .directory) (bytes : List UInt8)
    (writable : IsWritable tree path) : IsWritable (tree.put place (.file bytes)) path := by
  obtain ⟨known, located, noDirectory⟩ := writable
  refine ⟨known, locate_of_grows (grows_put other _) located, ?_⟩
  rw [node?_put, if_neg (ne_nil_of_node? noDirectory)]
  split
  · nofun
  · exact noDirectory

/-- Every ruleset is in its file in a directory, and all other files are as they were. -/
structure HasWritten (before after : FileTree) (base : Place) (rulesets : List (String × String)) :
    Prop where
  grows : Grows before after
  written : ∀ entry ∈ rulesets,
    after.content? (base ++ [fileName entry.1]) = some (Text.Utf8.encode entry.2)
  untouched : ∀ place, (∀ entry ∈ rulesets, place ≠ base ++ [fileName entry.1]) →
    after.content? place = before.content? place

theorem hasWritten_cons {before after : FileTree} {base : Place} {host text : String}
    {rest : List (String × String)}
    (free : before.node? (base ++ [fileName host]) ≠ some .directory)
    (others : HasWritten
      (before.put (base ++ [fileName host]) (.file (Text.Utf8.encode text))) after base rest)
    (fresh : ∀ entry ∈ rest, fileName host ≠ fileName entry.1) :
    HasWritten before after base ((host, text) :: rest) := by
  constructor
  case grows => exact (grows_put free _).trans others.grows
  case written =>
    intro entry member
    cases List.mem_cons.mp member with
    | inl isFirst =>
        subst isFirst
        have kept := others.untouched (base ++ [fileName host]) fun entry member same =>
          fresh entry member (by simpa using same)
        rw [kept, content?_put_file free, if_pos rfl]
    | inr inRest => exact others.written entry inRest
  case untouched =>
    intro place elsewhere
    have notFirst : base ++ [fileName host] ≠ place :=
      fun same => elsewhere (host, text) List.mem_cons_self same.symm
    rw [others.untouched place fun entry member =>
      elsewhere entry (List.mem_cons_of_mem _ member), content?_put_file free, if_neg notFirst]

/-! ## Rulesets -/

theorem filesOf_cons (directory : Path) (host text : String) (rest : List (String × String)) :
    filesOf directory ((host, text) :: rest) =
      (rulesPath directory host, text) :: filesOf directory rest := rfl

theorem writeText_of_isWhole {tree : FileTree} {path : Path} {place : Place} {text : String}
    (located : tree.locate path = .ok place) (free : tree.node? place ≠ some .directory)
    (whole : Text.isWhole text = true) :
    writeText tree path text = (tree.put place (.file (Text.Utf8.encode text)), none) := by
  have done : tree.write path (Text.Utf8.encode text) =
      .ok (tree.put place (.file (Text.Utf8.encode text))) :=
    write_eq_ok_iff.mpr ⟨place, located, free, rfl⟩
  rw [writeText, if_pos whole, done, Text.unencodable?_eq_none_iff.mpr whole]
  rfl

/-- All rulesets are written, if the files can be written and are different ones. -/
theorem writeFiles_hasWritten {tree : FileTree} {directory : Path} {base : Place}
    (located : tree.locate directory = .ok base) {rulesets : List (String × String)}
    (noSlash : ∀ entry ∈ rulesets, '/' ∉ entry.1.toList)
    (whole : ∀ entry ∈ rulesets, Text.isWhole entry.2 = true)
    (writable : ∀ entry ∈ rulesets, IsWritable tree (rulesPath directory entry.1))
    (apart : rulesets.Pairwise fun first second => fileName first.1 ≠ fileName second.1) :
    (writeFiles tree (filesOf directory rulesets)).2.2 = none ∧
      HasWritten tree (writeFiles tree (filesOf directory rulesets)).1 base rulesets := by
  -- The directory stays where it is when a file is put into it, so the rest goes to it as well.
  induction rulesets generalizing tree with
  | nil =>
      refine ⟨rfl, ?_⟩
      constructor
      case grows => exact grows_refl tree
      case written =>
        intro entry member
        exact absurd member List.not_mem_nil
      case untouched => exact fun place _ => rfl
  | cons first rest ih =>
      obtain ⟨host, text⟩ := first
      obtain ⟨place, found, free⟩ := writable (host, text) List.mem_cons_self
      have isPlace : place = base ++ [fileName host] :=
        place_of_rulesPath located (noSlash (host, text) List.mem_cons_self) found
      rw [isPlace] at found free
      have done := writeText_of_isWhole found free (whole (host, text) List.mem_cons_self)
      have grows := grows_put free (.file (Text.Utf8.encode text))
      have others := ih (locate_of_grows grows located)
        (fun entry member => noSlash entry (List.mem_cons_of_mem _ member))
        (fun entry member => whole entry (List.mem_cons_of_mem _ member))
        (fun entry member => isWritable_put free (Text.Utf8.encode text)
          (writable entry (List.mem_cons_of_mem _ member)))
        (List.Pairwise.of_cons apart)
      have fresh := (List.pairwise_cons.mp apart).1
      rw [filesOf_cons, writeFiles, done]
      exact ⟨others.1, hasWritten_cons free others.2 fresh⟩

theorem isWhole_of_writeText {tree : FileTree} {path : Path} {text : String}
    (done : (writeText tree path text).2 = none) : Text.isWhole text = true := by
  rw [writeText] at done
  split at done
  · contradiction
  · exact Text.unencodable?_eq_none_iff.mp (Option.map_eq_none_iff.mp done)

/-- A text without a UTF-8 form is not written. -/
theorem isWhole_of_writeFiles {tree : FileTree} {files : List (Path × String)}
    (done : (writeFiles tree files).2.2 = none) :
    ∀ file ∈ files, Text.isWhole file.2 = true := by
  induction files generalizing tree with
  | nil => exact List.forall_mem_nil _
  | cons file rest ih =>
      obtain ⟨path, text⟩ := file
      rw [writeFiles] at done
      cases first : writeText tree path text with
      | mk later error =>
          rw [first] at done
          cases error with
          | some error => contradiction
          | none =>
              have whole : Text.isWhole text = true := isWhole_of_writeText (by rw [first])
              exact List.forall_mem_cons.mpr ⟨whole, ih done⟩

/-! ## Printing -/

/-- Texts with a UTF-8 form are printed in front of what comes of the rest. -/
theorem printAll_append {front : List (String × String)}
    (whole : ∀ entry ∈ front, Text.isWhole entry.2 = true) (rest : List (String × String)) :
    (printAll (front ++ rest)).1 = String.join (front.map Prod.snd) ++ (printAll rest).1 ∧
      (printAll (front ++ rest)).2.2 = (printAll rest).2.2 := by
  induction front with
  | nil => exact ⟨(String.empty_append).symm, rfl⟩
  | cons first front ih =>
      obtain ⟨host, text⟩ := first
      obtain ⟨wholeFirst, wholeFront⟩ := List.forall_mem_cons.mp whole
      obtain ⟨output, error⟩ := ih wholeFront
      rw [List.cons_append, printAll, Text.unencodable?_eq_none_iff.mpr wholeFirst]
      dsimp only
      rw [output, error, List.map_cons, String.join_cons, String.append_assoc]
      exact ⟨rfl, rfl⟩

theorem printAll_of_whole {rulesets : List (String × String)}
    (whole : ∀ entry ∈ rulesets, Text.isWhole entry.2 = true) :
    (printAll rulesets).1 = String.join (rulesets.map Prod.snd) ∧
      (printAll rulesets).2.2 = none := by
  have printed := printAll_append whole []
  rw [List.append_nil] at printed
  exact ⟨printed.1.trans String.append_empty, printed.2⟩

theorem printAll_of_broken {front back : List (String × String)} {host text : String}
    (whole : ∀ entry ∈ front, Text.isWhole entry.2 = true) (broken : Text.isWhole text = false) :
    (printAll (front ++ (host, text) :: back)).1 = String.join (front.map Prod.snd) ∧
      (printAll (front ++ (host, text) :: back)).2.2 ≠ none := by
  obtain ⟨output, error⟩ := printAll_append whole ((host, text) :: back)
  have noForm : Text.unencodable? text ≠ none := by
    rw [Ne, Text.unencodable?_eq_none_iff, broken]
    exact Bool.false_ne_true
  obtain ⟨found, isFound⟩ := Option.ne_none_iff_exists'.mp noForm
  rw [output, error, printAll, isFound]
  exact ⟨String.append_empty, nofun⟩

/-- Some texts all have a UTF-8 form, or there is a first one without. -/
theorem whole_or_broken (rulesets : List (String × String)) :
    (∀ entry ∈ rulesets, Text.isWhole entry.2 = true) ∨
      ∃ front host text back, rulesets = front ++ (host, text) :: back ∧
        (∀ entry ∈ front, Text.isWhole entry.2 = true) ∧ Text.isWhole text = false := by
  cases found : rulesets.find? (fun entry => !Text.isWhole entry.2) with
  | none => exact .inl fun entry member => by simpa using List.find?_eq_none.mp found entry member
  | some entry =>
      obtain ⟨broken, front, back, split, whole⟩ := List.find?_eq_some_iff_append.mp found
      refine .inr ⟨front, entry.1, entry.2, back, split, ?_, by simpa using broken⟩
      intro other member
      simpa using whole other member

theorem printAll_error_iff (rulesets : List (String × String)) :
    (printAll rulesets).2.2 = none ↔ ∀ entry ∈ rulesets, Text.isWhole entry.2 = true := by
  constructor
  · intro done
    rcases whole_or_broken rulesets with whole | ⟨front, host, text, back, rfl, whole, broken⟩
    · exact whole
    · exact absurd done (printAll_of_broken whole broken).2
  · exact fun whole => (printAll_of_whole whole).2

end Firewall.CommandLine
