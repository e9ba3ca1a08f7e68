import Firewall.CommandLine.Run
import Std.Time.Zoned

/-!
# Entry point

A run of the program is a function of its options and of the world around it.  What is here shows it
that world, and then carries out what it has decided: the files that the options and the policy name
are looked up before the run, and those that the run has changed are written after it.  No name
service is asked, so a name that is neither in the policy nor an address is unknown.
-/

namespace Firewall.CommandLine

/-- The time of the local clock. -/
def currentTime : IO ClockTime := do
  let time ← Std.Time.PlainDateTime.now
  return {
    year := time.year.toInt.toNat
    month := time.month.val.toNat
    day := time.day.val.toNat
    hour := time.hour.val.toNat
    minute := time.minute.val.toNat
    second := time.second.val.toNat }

/-- The text of some characters that come from outside. -/
def textOf (characters : String) : String := Text.ofCharacters characters.toList

/-- The characters of some bytes, as the file system takes them. -/
def charactersOf? (bytes : List UInt8) : Option String := String.fromUTF8? ⟨bytes.toArray⟩

/-- Writes a message. -/
def complain (text : String) : IO Unit := do
  (← IO.getStderr).write ⟨(Text.Utf8.encode (Text.escapeHalves text)).toArray⟩

/-- Writes a result. -/
def put (text : String) : IO Unit := do
  (← IO.getStdout).write ⟨(Text.Utf8.encode text).toArray⟩

/-- What the file system has at a path. -/
def observe (path : Path) : IO (Option Node) := do
  let some name := charactersOf? (Text.Utf8.encode path.text) | return none
  let file := (← IO.currentDir) / name
  if ← file.isDir then return some .directory
  else if ← file.pathExists then return some (.file (← IO.FS.readBinFile file).toList)
  else return none

/-- Puts into a tree what the file system has at a path and on the way to it. -/
def observeWay (tree : FileTree) (path : Path) : IO FileTree :=
  (List.range path.parts.length).foldlM (fun tree depth => do
    let front := { path with parts := path.parts.take (depth + 1) }
    match tree.locate front, ← observe front with
    | .ok place, some node => return { tree with nodes := tree.nodes.put place node }
    | _, _ => return tree) tree

/-- The file tree that a run with some options needs to see. -/
def observeAll (options : Options) : IO FileTree := do
  let working := Place.ofNames (Path.read (textOf (← IO.currentDir).toString)).parts
  let inputs := options.policy :: options.services.text?.toList
  let tree ← (inputs.map Path.read).foldlM observeWay (.bare working)
  let directory? := options.outputDirectory.bind Argument.text?
  let outputs := match directory?, loadPolicy tree (Path.read options.policy) with
    | some directory, .ok policy =>
        let directory := Path.read directory
        let hosts := (options.hosts.map Argument.texts).getD policy.hosts.keys
        directory :: hosts.map (rulesPath directory)
    | _, _ => []
  outputs.foldlM observeWay tree

/-- Makes the directories and writes the files in which one tree differs from another. -/
def carryOut (before after : FileTree) : IO Unit :=
  for (place, node) in after.nodes.entries do
    if before.node? place ≠ some node then
      match place.mapM charactersOf?, node with
      | some names, .directory => IO.FS.createDirAll ("/" ++ String.intercalate "/" names)
      | some names, .file bytes =>
          IO.FS.writeBinFile ("/" ++ String.intercalate "/" names) ⟨bytes.toArray⟩
      | none, _ => throw (IO.userError "A name of a file is no UTF-8.")

/-- Runs the program with some options. -/
def perform (options : Options) : IO UInt32 := do
  let tree ← observeAll options
  let time ← currentTime
  let unknown : String → DnsAnswer := fun _ => .failure (.system (-2) "Name or service not known")
  let done := run ⟨tree, unknown, time⟩ options
  for event in shown options done.events do
    complain (time.stamp ++ " " ++ event.line ++ "\n")
  put done.output
  carryOut tree done.tree
  match done.ending with
  | .ok ending => return ending.code.toUInt32
  | .error error =>
      complain (error.message ++ "\n")
      return 1

end Firewall.CommandLine

open Firewall.CommandLine in
/-- Reads the command line and does what it asks for. -/
def main (arguments : List String) : IO UInt32 := do
  match readArguments (arguments.map textOf) with
  | .error error =>
      complain error.text
      return 2
  | .ok .help =>
      IO.print helpText
      return 0
  | .ok .version =>
      IO.print versionText
      return 0
  | .ok (.run options) => perform options
