import Firewall.Text.Line

/-!
# Paths

A path is a list of names with or without a root in front.  Empty names and single dots are left
out when a path is read; double dots stay, because only a file tree can say where they lead.
-/

namespace Firewall

/-- A path.  The root is the slashes in front: none, one, or two. -/
structure Path where
  root : String
  parts : List String
  deriving DecidableEq, Repr

namespace Path

/-- The slashes in front of a path; three or more count as one. -/
def rootOf : List Char → String
  | '/' :: '/' :: '/' :: _ => "/"
  | '/' :: '/' :: _ => "//"
  | '/' :: _ => "/"
  | _ => ""

/-- Reads a path. -/
def read (text : String) : Path where
  root := rootOf text.toList
  parts := ((Text.fields '/' text.toList).filter fun part => part ≠ [] ∧ part ≠ ['.']).map
    String.ofList

/-- The text of a path; a path without anything is a dot. -/
def text (path : Path) : String :=
  if path.root.isEmpty && path.parts.isEmpty then "."
  else path.root ++ String.intercalate "/" path.parts

/-- The path behind another one; a path with a root stands for itself. -/
def join (directory path : Path) : Path :=
  if path.root.isEmpty then { directory with parts := directory.parts ++ path.parts } else path

def parent (path : Path) : Path := { path with parts := path.parts.dropLast }

end Path

end Firewall
