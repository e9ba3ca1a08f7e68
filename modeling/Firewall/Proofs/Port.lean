import Firewall.Port
import Firewall.Proofs.Number.Digits
import Firewall.Proofs.Text.Cutting

/-!
# Ports read back

A port that is a number and one that is a range never have the same text, since only a range has a
colon in it.
-/

namespace Firewall

theorem isRangeIn_colon {isDigit : Char → Bool} {text : List Char}
    (range : isRangeIn isDigit text = true) : ':' ∈ text := by
  by_cases colon : ':' ∈ text
  · exact colon
  · rw [isRangeIn, Text.fields_of_notMem colon] at range
    contradiction

theorem eq_colon_or_isDigit_of_mem {isDigit : Char → Bool} {text : List Char} {character : Char}
    (range : isRangeIn isDigit text = true) (member : character ∈ text) :
    character = ':' ∨ isDigit character = true := by
  by_cases colon : character = ':'
  · exact .inl colon
  · have inField := Text.mem_flatten_fields colon member
    rw [isRangeIn] at range
    split at range
    · rename_i low high fields
      simp only [Bool.and_eq_true, List.all_eq_true] at range
      rw [fields] at inField
      simp only [List.flatten_cons, List.flatten_nil, List.append_nil, List.mem_append] at inField
      rcases inField with inLow | inHigh
      · exact .inr (range.1.1.2 character inLow)
      · exact .inr (range.2 character inHigh)
    · contradiction

namespace Port

/-- Reads the text of a port in a rule. -/
def ofText? (text : String) : Option Port :=
  if valid : isRange text.toList = true then some (.range text valid)
  else
    match Text.natural? text.toList with
    | some value => if small : value < 65536 then some (.number ⟨value, small⟩) else none
    | none => none

theorem toList_text_number (value : Fin 65536) :
    (number value).text.toList = Nat.toDigits 10 value.val := by
  rw [text, Nat.toString_eq_ofList_toDigits, String.toList_ofList]

theorem ofText?_text (port : Port) : ofText? port.text = some port := by
  cases port with
  | number value =>
      have noRange : ¬ isRange (number value).text.toList = true := by
        intro range
        have colon := isRangeIn_colon range
        rw [toList_text_number] at colon
        exact absurd (Nat.isDigit_of_mem_toDigits (by decide) (by decide) colon) (by decide)
      rw [ofText?, dif_neg noRange, toList_text_number, Text.natural?_toDigits]
      exact dif_pos value.isLt
  | range content valid => exact dif_pos valid

theorem notMem_text {port : Port} {character : Char} (noColon : character ≠ ':')
    (noDigit : Text.isRecentDecimal character = false) (noAsciiDigit : character.isDigit = false) :
    character ∉ port.text.toList := by
  intro member
  cases port with
  | number value =>
      rw [toList_text_number] at member
      have digit := Nat.isDigit_of_mem_toDigits (by decide) (by decide) member
      rw [noAsciiDigit] at digit
      contradiction
  | range content valid =>
      rcases eq_colon_or_isDigit_of_mem valid member with colon | digit
      · exact noColon colon
      · rw [noDigit] at digit
        contradiction

end Port

end Firewall
