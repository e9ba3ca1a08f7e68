import Firewall.Number.Integer
import Mathlib.Data.List.TakeWhile

/-!
# Literals of digits

A text of digits is an integer literal exactly when all its digits are decimal and there are not too
many of them (`read_of_isDigit`).  The other digits, such as superscripts, stand for no number.
-/

namespace Firewall.Integer

theorem ne_underscore_of_isDecimal {character : Char} (decimal : Text.isDecimal character = true) :
    character ≠ '_' := by
  rintro rfl
  exact absurd decimal (by decide)

theorem exists_digitValue? {character : Char} (decimal : Text.isDecimal character = true) :
    ∃ digit, Text.digitValue? character = some digit :=
  Option.isSome_iff_exists.mp decimal

theorem groups?_of_isDecimal {text : List Char} (nonempty : text ≠ [])
    (decimal : ∀ character ∈ text, Text.isDecimal character = true) :
    ∃ digits, groups? text = some digits ∧ digits.length = text.length := by
  induction text with
  | nil => contradiction
  | cons character rest ih =>
      obtain ⟨digit, value⟩ := exists_digitValue? (decimal character List.mem_cons_self)
      cases rest with
      | nil => exact ⟨[digit], by simp [groups?, value], rfl⟩
      | cons next others =>
          have nextDecimal := decimal next (by simp)
          obtain ⟨digits, read, length⟩ := ih (by simp) fun other member =>
            decimal other (List.mem_cons_of_mem character member)
          refine ⟨digit :: digits, ?_, by simp [length]⟩
          have notUnderscore := ne_underscore_of_isDecimal nextDecimal
          simp [groups?, value, read, notUnderscore]

theorem split?_of_isDecimal {text : List Char} (nonempty : text ≠ [])
    (decimal : ∀ character ∈ text, Text.isDecimal character = true) :
    ∃ digits, split? text = some (digits, []) ∧ digits.length = text.length := by
  have inLiteral : ∀ character ∈ text,
      (Text.isDecimal character || character == '_') = true := by
    intro character member
    rw [decimal character member, Bool.true_or]
  obtain ⟨digits, read, length⟩ := groups?_of_isDecimal nonempty decimal
  refine ⟨digits, ?_, length⟩
  unfold split?
  dsimp only
  rw [List.takeWhile_eq_self_iff.mpr inLiteral, List.dropWhile_eq_nil_iff.mpr inLiteral, read]
  rfl

/-- A literal ends in front of a character that is neither a decimal digit nor an underscore. -/
theorem rest_ne_nil_of_split? {text rest : List Char} {digits : List Nat} {character : Char}
    (member : character ∈ text) (noDecimal : Text.isDecimal character = false)
    (noUnderscore : character ≠ '_') (reached : split? text = some (digits, rest)) : rest ≠ [] := by
  unfold split? at reached
  obtain ⟨found, -, same⟩ := Option.map_eq_some_iff.mp reached
  cases same
  intro nothing
  have inLiteral := List.dropWhile_eq_nil_iff.mp nothing character member
  simp [noDecimal, noUnderscore] at inLiteral

theorem unsigned_of_isDigit {text : List Char}
    (digits : ∀ character ∈ text, Text.isDigit character = true) :
    unsigned text = (false, text) := by
  unfold unsigned
  split
  · exact absurd (digits '-' List.mem_cons_self) (by decide)
  · exact absurd (digits '+' List.mem_cons_self) (by decide)
  · rfl

/-- A text of digits is read as a number exactly when all of them are decimal and there are not too
many. -/
theorem read_of_isDigit {text : String} (nonempty : text.toList ≠ [])
    (digits : ∀ character ∈ text.toList, Text.isDigit character = true) :
    (∃ number, read text = .ok number) ↔
      (∀ character ∈ text.toList, Text.isDecimal character = true) ∧
        text.toList.length ≤ digitLimit := by
  rw [read, unsigned_of_isDigit digits]
  by_cases decimal : ∀ character ∈ text.toList, Text.isDecimal character = true
  · obtain ⟨values, shape, length⟩ := split?_of_isDecimal nonempty decimal
    simp only [shape, length]
    by_cases tooLong : digitLimit < text.toList.length
    · simp [tooLong, Nat.not_le.mpr tooLong]
    · simp only [if_neg tooLong, List.isEmpty_nil, if_true]
      exact ⟨fun _ => ⟨decimal, Nat.not_lt.mp tooLong⟩, fun _ => ⟨_, rfl⟩⟩
  · obtain ⟨character, member, noDecimal⟩ : ∃ character ∈ text.toList,
        ¬ Text.isDecimal character = true := by
      simpa using decimal
    have noUnderscore : character ≠ '_' := by
      rintro rfl
      exact absurd (digits '_' member) (by decide)
    constructor
    · rintro ⟨number, isNumber⟩
      cases shape : split? text.toList with
      | none => simp [shape] at isNumber
      | some parts =>
          obtain ⟨values, rest⟩ := parts
          have behind := rest_ne_nil_of_split? member (by simpa using noDecimal) noUnderscore shape
          simp only [shape] at isNumber
          split at isNumber
          · contradiction
          · simp [behind] at isNumber
    · exact fun readable => absurd readable.1 decimal

end Firewall.Integer
