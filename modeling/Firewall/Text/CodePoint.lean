import Firewall.Text.Digit

/-!
# Code points

A text is a list of code points, and a document can write one that is no character: half of a
surrogate pair without the other half.  A string is a text as it stands, but for one character, the
mark: two marks are the mark itself, and a mark with a character for private use behind it is half
of a pair.  `Text.codePoints` reads a string in this way and `Text.ofCodePoints` writes it; no text
is lost between the two.  A text without halves is whole, and only such a text has a UTF-8 form;
`Text.unencodable?` finds what is in the way of one.
-/

namespace Firewall.Text

/-! ## Halves of pairs -/

/-- The first half of a surrogate pair. -/
def isHighHalf (code : Nat) : Bool := 0xD800 ≤ code && code ≤ 0xDBFF

/-- The second half of a surrogate pair. -/
def isLowHalf (code : Nat) : Bool := 0xDC00 ≤ code && code ≤ 0xDFFF

/-- Half of a surrogate pair. -/
def isHalf (code : Nat) : Bool := isHighHalf code || isLowHalf code

/-- The code point that the two halves of a pair make. -/
def joinHalves (high low : Nat) : Nat :=
  0x10000 + (high - 0xD800) * 0x400 + (low - 0xDC00)

/-! ## Strings for texts -/

/-- The number of code points. -/
def codePointCount : Nat := 0x110000

/-- The last code point, which is the mark. -/
def markCode : Nat := 0x10FFFF

/-- The character that has a meaning of its own in a string. -/
@[irreducible] def mark : Char := Char.ofNat markCode

/-- Whether a character is the mark. -/
def isMark (character : Char) : Bool := character.toNat == markCode

/-- The distance from a half to the character for private use that stands behind its mark. -/
def halfDistance : Nat := 0x800

/-- The characters that write a code point. -/
def ofCodePoint (code : Nat) : List Char :=
  if isHalf code then [mark, Char.ofNat (code + halfDistance)]
  else if code = markCode then [mark, mark]
  else [Char.ofNat code]

/-- The half that a character behind a mark stands for. -/
def halfOf? (character : Char) : Option Nat :=
  let code := character.toNat - halfDistance
  if isHalf code then some code else none

/-- The code points that some characters write, with or without a mark in front of them. -/
def codePointsFrom (isMarked : Bool) : List Char → List Nat
  | [] => if isMarked then [markCode] else []
  | character :: rest =>
      if isMarked then
        if isMark character then markCode :: codePointsFrom false rest
        else (halfOf? character).getD character.toNat :: codePointsFrom false rest
      else if isMark character then codePointsFrom true rest
      else character.toNat :: codePointsFrom false rest

/-- The code points of a text. -/
def codePoints (text : String) : List Nat := codePointsFrom false text.toList

/-- The text with some code points. -/
def ofCodePoints (codes : List Nat) : String := String.ofList (codes.flatMap ofCodePoint)

/-- The text of some characters. -/
def ofCharacters (characters : List Char) : String :=
  ofCodePoints (characters.map Char.toNat)

/-- Whether a text does not come behind another in the order of code points. -/
def isInOrder (first second : String) : Bool :=
  !(codePoints second).lex (codePoints first) fun left right => left < right

theorem isHalf_iff {code : Nat} : isHalf code = true ↔ 0xD800 ≤ code ∧ code ≤ 0xDFFF := by
  simp only [isHalf, isHighHalf, isLowHalf, Bool.or_eq_true, Bool.and_eq_true, decide_eq_true_eq]
  omega

theorem toNat_ofNat {code : Nat} (bound : code < codePointCount) (whole : ¬ isHalf code = true) :
    (Char.ofNat code).toNat = code := by
  have valid : code.isValidChar := by
    simp only [isHalf_iff, codePointCount] at whole bound
    simp only [Nat.isValidChar]
    omega
  rw [Char.ofNat, dif_pos valid]
  rfl

theorem isMark_mark : isMark mark = true := by
  rw [isMark, mark, toNat_ofNat (by decide) (by decide)]
  rfl

/-- The character behind a mark, in the place of a half, stands for that half. -/
theorem halfOf?_ofNat {code : Nat} (half : isHalf code = true) :
    isMark (Char.ofNat (code + halfDistance)) = false
      ∧ halfOf? (Char.ofNat (code + halfDistance)) = some code := by
  have range := isHalf_iff.mp half
  have toNat : (Char.ofNat (code + halfDistance)).toNat = code + halfDistance := by
    apply toNat_ofNat
    · simp only [halfDistance, codePointCount]
      omega
    · simp only [isHalf_iff, halfDistance]
      omega
  constructor
  · rw [isMark, toNat, beq_eq_false_iff_ne, markCode, halfDistance]
    omega
  · rw [halfOf?, toNat, Nat.add_sub_cancel, if_pos half]

/-- A code point is read back from the characters that write it. -/
theorem codePointsFrom_ofCodePoint_append {code : Nat} (bound : code < codePointCount)
    (rest : List Char) :
    codePointsFrom false (ofCodePoint code ++ rest) = code :: codePointsFrom false rest := by
  by_cases half : isHalf code = true
  · obtain ⟨single, found⟩ := halfOf?_ofNat half
    simp [ofCodePoint, codePointsFrom, half, isMark_mark, single, found]
  · by_cases last : code = markCode
    · rw [ofCodePoint, if_neg half, if_pos last, last]
      simp [codePointsFrom, isMark_mark]
    · have toNat := toNat_ofNat bound half
      have single : isMark (Char.ofNat code) = false := by
        rw [isMark, toNat, beq_eq_false_iff_ne]
        exact last
      simp [ofCodePoint, codePointsFrom, half, last, single, toNat]

/-- No text is lost when its code points are written as a string. -/
theorem codePoints_ofCodePoints {codes : List Nat} (bound : ∀ code ∈ codes, code < codePointCount) :
    codePoints (ofCodePoints codes) = codes := by
  simp only [codePoints, ofCodePoints, String.toList_ofList]
  induction codes with
  | nil => rfl
  | cons code rest ih =>
      rw [List.flatMap_cons, codePointsFrom_ofCodePoint_append (bound code (by simp)),
        ih fun code member => bound code (by simp [member])]

theorem codePoints_ofCharacters (characters : List Char) :
    codePoints (ofCharacters characters) = characters.map Char.toNat := by
  apply codePoints_ofCodePoints
  intro code member
  obtain ⟨character, -, rfl⟩ := List.mem_map.mp member
  have valid : character.toNat.isValidChar := character.valid
  simp only [Nat.isValidChar, codePointCount] at valid ⊢
  omega

example : codePoints "a\u00e9" = [0x61, 0xE9] := by decide +kernel
example : ofCodePoints [0x61, 0xE9] = "a\u00e9" := by decide +kernel

/-! ## Whole texts -/

/-- Whether a text has no halves. -/
def isWhole (text : String) : Bool := (codePoints text).all (!isHalf ·)

/-- A text with three replacement characters in the place of each half. -/
def replaceHalves (text : String) : String :=
  ofCodePoints ((codePoints text).flatMap fun code =>
    if isHalf code then List.replicate 3 0xFFFD else [code])

/-- A text with its code point behind `\u` in the place of each half. -/
def escapeHalves (text : String) : String :=
  ofCodePoints ((codePoints text).flatMap fun code =>
    if isHalf code then ('\\' :: 'u' :: hexPadded 4 code).map Char.toNat else [code])

/-- The half that stands for a byte outside UTF-8, in the name of a file. -/
def halfOfByte (byte : UInt8) : Nat := 0xDC00 + byte.toNat

/-- A half that stands for a byte; the bytes of ASCII are never outside UTF-8. -/
def isByteHalf (code : Nat) : Bool := 0xDC80 ≤ code && code ≤ 0xDCFF

/-- Halves in a row, which keep a text from having a UTF-8 form. -/
structure Unencodable where
  position : Nat
  first : Nat
  count : Nat
  deriving DecidableEq, Repr

/-- The message about halves in a row.  A single one is named, several are counted. -/
def Unencodable.message (found : Unencodable) : String :=
  let place :=
    if found.count = 1 then
      "character '\\u" ++ String.ofList (hexPadded 4 found.first) ++ "' in position "
        ++ toString found.position
    else
      "characters in position " ++ toString found.position ++ "-"
        ++ toString (found.position + found.count - 1)
  "'utf-8' codec can't encode " ++ place ++ ": surrogates not allowed"

/-- The first half in a text that is not allowed there, and the halves behind it. -/
def firstHalves? (isAllowed : Nat → Bool) (text : String) : Option Unencodable :=
  let inWay (code : Nat) : Bool := isHalf code && !isAllowed code
  let codes := codePoints text
  match codes.dropWhile (!inWay ·) with
  | [] => none
  | first :: rest =>
      some ⟨(codes.takeWhile (!inWay ·)).length, first, 1 + (rest.takeWhile isHalf).length⟩

/-- What keeps a text from having a UTF-8 form. -/
def unencodable? (text : String) : Option Unencodable := firstHalves? (fun _ => false) text

/-- What keeps a text from being the name of a file. -/
def unencodableName? (text : String) : Option Unencodable := firstHalves? isByteHalf text

/-- A text is whole if and only if nothing is in the way of its UTF-8 form. -/
theorem unencodable?_eq_none_iff {text : String} :
    unencodable? text = none ↔ isWhole text = true := by
  simp only [unencodable?, firstHalves?, isWhole]
  generalize codePoints text = codes
  induction codes with
  | nil => simp
  | cons first rest ih =>
      cases half : isHalf first with
      | true => simp [half]
      | false =>
          simp only [List.dropWhile_cons, half, List.all_cons, Bool.not_false, Bool.false_and,
            Bool.true_and, if_true]
          rw [← ih]
          split <;> simp_all

end Firewall.Text
