/-!
# Blank characters

Two classes of white space.  `Text.isSpace` is the Unicode property of that name;
`Text.isBlank` adds the four information separators, and is the class that separates the
words of a line and is cut from the ends of an address.  Core's `Char.isWhitespace` knows
six characters only; each of them is in both classes.
-/

namespace Firewall.Text

/-- The Unicode property `White_Space`. -/
def isSpace (character : Char) : Bool :=
  let code := character.toNat
  (0x9 ≤ code && code ≤ 0xD) || code == 0x20 || code == 0x85 || code == 0xA0
    || code == 0x1680 || (0x2000 ≤ code && code ≤ 0x200A) || code == 0x2028
    || code == 0x2029 || code == 0x202F || code == 0x205F || code == 0x3000

/-- White space, or one of the information separators U+001C to U+001F. -/
def isBlank (character : Char) : Bool :=
  isSpace character || (0x1C ≤ character.toNat && character.toNat ≤ 0x1F)

/-- The text without the characters of a class at its two ends. -/
def trim (inClass : Char → Bool) (text : List Char) : List Char :=
  ((text.dropWhile inClass).reverse.dropWhile inClass).reverse

/-- The maximal runs of characters that are not blank, in order. -/
def words (text : List Char) : List (List Char) :=
  match _shape : text.dropWhile isBlank with
  | [] => []
  | first :: rest =>
      (first :: rest.takeWhile (!isBlank ·)) :: words (rest.dropWhile (!isBlank ·))
termination_by text.length
decreasing_by
  have shorter : (text.dropWhile isBlank).length ≤ text.length :=
    (List.dropWhile_sublist isBlank).length_le
  have tailShorter : (rest.dropWhile (!isBlank ·)).length ≤ rest.length :=
    (List.dropWhile_sublist (!isBlank ·)).length_le
  rw [_shape] at shorter
  simp only [List.length_cons] at shorter
  omega

end Firewall.Text
