/-!
# Lines and fields of a text

Cutting a text at one separator.  `Text.fields` keeps everything but the separators, so
joining the fields again gives the text back; `Text.unixNewlines` reads the three usual line
ends as one.
-/

namespace Firewall.Text

/-- The pieces between the occurrences of a separator; a text has one piece more than
separators. -/
def fields (separator : Char) : List Char → List (List Char)
  | [] => [[]]
  | character :: rest =>
      if character = separator then [] :: fields separator rest
      else
        match fields separator rest with
        | [] => [[character]]
        | field :: others => (character :: field) :: others

theorem fields_ne_nil (separator : Char) (text : List Char) : fields separator text ≠ [] := by
  cases text with
  | nil => simp [fields]
  | cons character rest =>
      simp only [fields]
      split
      · simp
      · split <;> simp

/-- The text in front of the first separator, or all of it. -/
def before (separator : Char) (text : List Char) : List Char :=
  text.takeWhile (· ≠ separator)

/-- The text in front of its first line break. -/
def firstLine (text : String) : String :=
  String.ofList (before '\n' text.toList)

/-- Each of the line ends `\r\n`, `\r` and `\n` becomes `\n`. -/
def unixNewlines : List Char → List Char
  | [] => []
  | '\r' :: '\n' :: rest => '\n' :: unixNewlines rest
  | '\r' :: rest => '\n' :: unixNewlines rest
  | character :: rest => character :: unixNewlines rest

/-- The lines of a text, with its three kinds of line end read alike. -/
def lines (text : String) : List String :=
  (fields '\n' (unixNewlines text.toList)).map String.ofList

end Firewall.Text
