import Firewall.Text.CodePoint
import Firewall.Text.Printable

/-!
# Quoted texts

How a text is shown inside a message: in single quotes, or in double quotes when it holds a
single quote and no double one.  Inside, the backslash, the quote itself and the code points that
cannot be printed are escaped.
-/

namespace Firewall.Text

/-- The quote around a text. -/
def quoteFor (text : String) : Char :=
  if text.contains '\'' && !text.contains '"' then '"' else '\''

/-- One code point inside a quoted text. -/
def escape (quote : Char) (code : Nat) : List Char :=
  let character := Char.ofNat code
  if isHalf code then '\\' :: 'u' :: hexPadded 4 code
  else if character = quote ∨ character = '\\' then ['\\', character]
  else if character = '\n' then ['\\', 'n']
  else if character = '\r' then ['\\', 'r']
  else if character = '\t' then ['\\', 't']
  else if isPrintable character then [character]
  else if code < 0x100 then '\\' :: 'x' :: hexPadded 2 code
  else if code < 0x10000 then '\\' :: 'u' :: hexPadded 4 code
  else '\\' :: 'U' :: hexPadded 8 code

/-- A text in quotes. -/
def quote (text : String) : String :=
  let quote := quoteFor text
  String.ofList (quote :: (codePoints text).flatMap (escape quote) ++ [quote])

end Firewall.Text
