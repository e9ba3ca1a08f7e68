import Firewall.Number.Integer
import Firewall.Table
import Firewall.Text.Blank
import Firewall.Text.Line

/-!
# Service names

A services file has one record a line: `name port[/protocol] [aliases...] [# comment]`.  The name
and every alias stand for the port, and a later record replaces an earlier one.  Lines that are no
record leave no trace in the table.
-/

namespace Firewall

/-- The ports that service names stand for, in order of first mention. -/
abbrev Services := Table String Int

namespace Services

/-- A record: all names and their port. -/
structure Record where
  names : List String
  port : Int
  deriving DecidableEq, Repr

/-- What a line of a services file is. -/
inductive Line where
  /-- Fewer than two words. -/
  | blank
  /-- The second word has no port in front of its slash. -/
  | badPort (word : String)
  | record (record : Record)
  deriving DecidableEq, Repr

/-- The words of a line in front of its comment. -/
def wordsOf (line : String) : List (List Char) :=
  Text.words (Text.before '#' line.toList)

/-- Reads a line. -/
def Line.read (line : String) : Line :=
  match wordsOf line with
  | name :: port :: aliases =>
      match Integer.read (String.ofList (Text.before '/' port)) with
      | .ok number => .record ⟨(name :: aliases).map String.ofList, number⟩
      | .error _ => .badPort (String.ofList port)
  | _ => .blank

def Line.record? : Line → Option Record
  | .record found => some found
  | _ => none

/-- The table after one more record. -/
def register (services : Services) (record : Record) : Services :=
  record.names.foldl (fun table name => table.put name record.port) services

/-- The table of the records among some lines. -/
def ofLines (lines : List String) : Services :=
  (lines.filterMap fun line => (Line.read line).record?).foldl register Table.empty

/-- The lines whose port is bad: their numbers, from one, and the words. -/
def badPorts (lines : List String) : List (Nat × String) :=
  (lines.zipIdx 1).filterMap fun (line, number) =>
    match Line.read line with
    | .badPort word => some (number, word)
    | _ => none

end Services

end Firewall
