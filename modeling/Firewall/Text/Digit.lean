/-!
# Decimal digits of every script

`Text.digitValue?` gives the value of a decimal digit (Unicode category Nd), `Text.isDigit`
also holds of the digits that are no decimals, such as superscripts and circled digits: a
text can consist of digits and still name no number.  Both know the characters of Unicode 14;
`Text.isRecentDecimal` adds the decimal digits up to Unicode 16.
-/

namespace Firewall.Text

/-- The zeros of the decimal digits; the nine characters after each are its other digits. -/
def digitZeros : List Nat := [
  0x30, 0x660, 0x6F0, 0x7C0, 0x966, 0x9E6, 0xA66, 0xAE6, 0xB66, 0xBE6, 0xC66, 0xCE6, 0xD66,
  0xDE6, 0xE50, 0xED0, 0xF20, 0x1040, 0x1090, 0x17E0, 0x1810, 0x1946, 0x19D0, 0x1A80, 0x1A90,
  0x1B50, 0x1BB0, 0x1C40, 0x1C50, 0xA620, 0xA8D0, 0xA900, 0xA9D0, 0xA9F0, 0xAA50, 0xABF0, 0xFF10,
  0x104A0, 0x10D30, 0x11066, 0x110F0, 0x11136, 0x111D0, 0x112F0, 0x11450, 0x114D0, 0x11650,
  0x116C0, 0x11730, 0x118E0, 0x11950, 0x11C50, 0x11D50, 0x11DA0, 0x16A60, 0x16AC0, 0x16B50,
  0x1D7CE, 0x1D7D8, 0x1D7E2, 0x1D7EC, 0x1D7F6, 0x1E140, 0x1E2F0, 0x1E950, 0x1FBF0]

/-- The zeros of the decimal digits that are new in the versions 15 and 16 of Unicode. -/
def newDigitZeros : List Nat := [
  0x10D40, 0x116D0, 0x116DA, 0x11BF0, 0x11F50, 0x16130, 0x16D70, 0x1CCF0, 0x1E4F0, 0x1E5F1]

/-- The digits that are not decimal digits, as ranges of code points. -/
def otherDigits : List (Nat × Nat) := [
  (0xB2, 0xB3), (0xB9, 0xB9), (0x1369, 0x1371), (0x19DA, 0x19DA), (0x2070, 0x2070),
  (0x2074, 0x2079), (0x2080, 0x2089), (0x2460, 0x2468), (0x2474, 0x247C), (0x2488, 0x2490),
  (0x24EA, 0x24EA), (0x24F5, 0x24FD), (0x24FF, 0x24FF), (0x2776, 0x277E), (0x2780, 0x2788),
  (0x278A, 0x2792), (0x10A40, 0x10A43), (0x10E60, 0x10E68), (0x11052, 0x1105A),
  (0x1F100, 0x1F10A)]

/-- The value of a decimal digit of Unicode 14. -/
def digitValue? (character : Char) : Option Nat :=
  let code := character.toNat
  (digitZeros.find? fun first => first ≤ code && code ≤ first + 9).map (code - ·)

def isDecimal (character : Char) : Bool :=
  (digitValue? character).isSome

/-- A decimal digit of Unicode 16. -/
def isRecentDecimal (character : Char) : Bool :=
  isDecimal character || newDigitZeros.any fun first =>
    first ≤ character.toNat && character.toNat ≤ first + 9

/-- The digits of Unicode 14 are still digits. -/
theorem isRecentDecimal_of_isDecimal {character : Char} (decimal : isDecimal character = true) :
    isRecentDecimal character = true := by
  simp [isRecentDecimal, decimal]

/-- A digit of any kind. -/
def isDigit (character : Char) : Bool :=
  isDecimal character || otherDigits.any fun (first, last) =>
    first ≤ character.toNat && character.toNat ≤ last

/-- The value of a lower or upper case hexadecimal digit. -/
def hexDigitValue? (character : Char) : Option Nat :=
  if '0' ≤ character ∧ character ≤ '9' then some (character.toNat - '0'.toNat)
  else if 'a' ≤ character ∧ character ≤ 'f' then some (character.toNat - 'a'.toNat + 10)
  else if 'A' ≤ character ∧ character ≤ 'F' then some (character.toNat - 'A'.toNat + 10)
  else none

/-- The value that a list of digits has in a base, most significant digit first. -/
def numberOf (base : Nat) (digits : List Nat) : Nat :=
  digits.foldl (fun value digit => value * base + digit) 0

/-- The number that a text of one or more ASCII digits writes. -/
def natural? (text : List Char) : Option Nat :=
  if !text.isEmpty && text.all Char.isDigit then some (Nat.ofDigitChars 10 text 0) else none

/-- Lower case hexadecimal digits, with zeros in front up to a width. -/
def hexPadded (width number : Nat) : List Char :=
  let digits := Nat.toDigits 16 number
  List.replicate (width - digits.length) '0' ++ digits

example : newDigitZeros.length = 10 := by decide
example : digitZeros.length = 66 ∧ otherDigits.length = 20 := by decide
example : digitValue? '7' = some 7 ∧ digitValue? '٣' = some 3 := by decide
example : isDecimal '²' = false ∧ isDigit '²' = true := by decide

end Firewall.Text
