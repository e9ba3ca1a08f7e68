import Firewall.Files.Path
import Firewall.Table
import Firewall.Text.Quoted
import Firewall.Text.Utf8

/-!
# File trees

The files that a run of the program sees and writes: directories and files by their places, and the
directory in which the run takes place.  The names in a tree are bytes, so two paths may lead to one
place.  A double dot leads to the directory above the one that the names before it lead to, so those
names have to be there.
-/

namespace Firewall

/-- Why the system refuses to do something with a path. -/
inductive FileFault where
  | notFound
  | alreadyThere
  | notDirectory
  | isDirectory
  | nameTooLong
  deriving DecidableEq, Repr

namespace FileFault

def number : FileFault → Nat
  | .notFound => 2
  | .alreadyThere => 17
  | .notDirectory => 20
  | .isDirectory => 21
  | .nameTooLong => 36

def text : FileFault → String
  | .notFound => "No such file or directory"
  | .alreadyThere => "File exists"
  | .notDirectory => "Not a directory"
  | .isDirectory => "Is a directory"
  | .nameTooLong => "File name too long"

end FileFault

/-- Why something cannot be done with a path. -/
inductive FileError where
  | system (fault : FileFault) (path : Path)
  /-- A path cannot hold the character NUL. -/
  | nullCharacter
  /-- What is written has a UTF-8 form; a path may have halves that stand for bytes. -/
  | notEncoded (found : Text.Unencodable)
  deriving DecidableEq, Repr

def FileError.message : FileError → String
  | .system fault path =>
      "[Errno " ++ toString fault.number ++ "] " ++ fault.text ++ ": " ++ Text.quote path.text
  | .nullCharacter => "embedded null byte"
  | .notEncoded found => found.message

/-- What is at a place. -/
inductive Node where
  | directory
  | file (bytes : List UInt8)
  deriving DecidableEq, Repr

/-- The place of a node: the names that lead to it from the top, each of them in bytes. -/
abbrev Place := List (List UInt8)

/-- The place to which some names lead from the top. -/
def Place.ofNames (names : List String) : Place := names.map Text.Utf8.encode

/-- A file tree and the place of the working directory. -/
structure FileTree where
  working : Place
  nodes : Table Place Node

namespace FileTree

/-- The greatest number of bytes in a name. -/
def longestName : Nat := 255

/-- The greatest number of bytes in a path. -/
def longestPath : Nat := 4095

/-- The tree in which the working directory is empty and nothing else is there. -/
def bare (working : Place) : FileTree where
  working
  nodes := Table.ofList
    ((List.range working.length).map fun depth => (working.take (depth + 1), .directory))

/-- What is at a place. -/
def node? (tree : FileTree) (place : Place) : Option Node :=
  if place.isEmpty then some .directory else tree.nodes.get? place

/-- Goes from a directory to one of its names. -/
def enter (tree : FileTree) (place : Place) (part : String) : Except FileFault Place :=
  match tree.node? place with
  | none => .error .notFound
  | some (.file _) => .error .notDirectory
  | some .directory =>
      let name := Text.Utf8.encode part
      if part = ".." then .ok place.dropLast
      else if longestName < name.length then .error .nameTooLong
      else .ok (place ++ [name])

/-- The place to which a path leads.  Nothing needs to be there, but the way has to be. -/
@[irreducible] def locate (tree : FileTree) (path : Path) : Except FileError Place :=
  if let some found := Text.unencodableName? path.text then .error (.notEncoded found)
  else if path.text.toList.contains '\x00' then .error .nullCharacter
  else if longestPath < (Text.Utf8.encode path.text).length then .error (.system .nameTooLong path)
  else
    let start := if path.root.isEmpty then tree.working else []
    (path.parts.foldlM tree.enter start).mapError (.system · path)

/-- Whether there is something at a path. -/
def exists? (tree : FileTree) (path : Path) : Except FileError Bool :=
  match tree.locate path with
  | .ok place => .ok (tree.node? place).isSome
  | .error (.system .nameTooLong path) => .error (.system .nameTooLong path)
  | .error _ => .ok false

def isDirectory (tree : FileTree) (path : Path) : Bool :=
  match tree.locate path with
  | .ok place => tree.node? place == some .directory
  | .error _ => false

/-- The content of the file at a path. -/
def read (tree : FileTree) (path : Path) : Except FileError (List UInt8) :=
  match tree.locate path with
  | .error error => .error error
  | .ok place =>
      match tree.node? place with
      | none => .error (.system .notFound path)
      | some .directory => .error (.system .isDirectory path)
      | some (.file bytes) => .ok bytes

/-- Puts a file at a path, in the place of another file if there is one. -/
def write (tree : FileTree) (path : Path) (bytes : List UInt8) : Except FileError FileTree :=
  match tree.locate path with
  | .error error => .error error
  | .ok place =>
      match tree.node? place with
      | some .directory => .error (.system .isDirectory path)
      | _ => .ok { tree with nodes := tree.nodes.put place (.file bytes) }

/-- Makes a directory. -/
def make (tree : FileTree) (path : Path) : Except FileError FileTree :=
  match tree.locate path with
  | .error error => .error error
  | .ok place =>
      match tree.node? place with
      | some _ => .error (.system .alreadyThere path)
      | none => .ok { tree with nodes := tree.nodes.put place .directory }

/-- Makes a directory, unless it is there already. -/
def ensure (tree : FileTree) (path : Path) : Except FileError FileTree :=
  match tree.make path with
  | .ok tree => .ok tree
  | .error error => if tree.isDirectory path then .ok tree else .error error

/-- Makes a directory and, where they are missing, those above it. -/
def ensureAll (tree : FileTree) (path : Path) : Except FileError FileTree :=
  match tree.ensure path with
  | .error (.system .notFound missing) =>
      if path.parts.isEmpty then .error (.system .notFound missing)
      else do
        let tree ← tree.ensureAll path.parent
        tree.ensure path
  | done => done
termination_by path.parts.length
decreasing_by
  rename_i some
  simp only [List.isEmpty_iff] at some
  have := List.length_pos_iff.mpr some
  simp only [Path.parent, List.length_dropLast]
  omega

/-- The name of the directory above. -/
def above : List UInt8 := Text.Utf8.encode ".."

/-- The names that lead from one place to another: up as far as the two differ, then down. -/
def way : Place → Place → Place
  | first :: start, name :: target =>
      if first = name then way start target
      else (first :: start).map (fun _ => above) ++ name :: target
  | start, target => start.map (fun _ => above) ++ target

example : way (.ofNames ["home", "work"]) (.ofNames ["home", "a"]) = .ofNames ["..", "a"] := by
  decide +kernel

/-- The files, by the names that lead to them from the working directory. -/
def files (tree : FileTree) : List (Place × List UInt8) :=
  tree.nodes.entries.filterMap fun
    | (place, .file bytes) => some (way tree.working place, bytes)
    | _ => none

end FileTree

end Firewall
