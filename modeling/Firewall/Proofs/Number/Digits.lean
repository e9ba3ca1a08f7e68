import Firewall.Address.Printer
import Firewall.Text.Digit
import Mathlib.Algebra.Group.Nat.Defs

/-!
# Digits and numbers

The digits that a number is written with give the number back, in base ten, in base sixteen, and as
the octets and groups of an address.
-/

namespace Firewall.Text

theorem numberOf_append_singleton (base : Nat) (digits : List Nat) (digit : Nat) :
    numberOf base (digits ++ [digit]) = numberOf base digits * base + digit := by
  simp [numberOf]

/-! ## Decimal digits -/

theorem natural?_eq_none_of_mem {text : List Char} {character : Char}
    (noDigit : character.isDigit = false) (member : character ∈ text) : natural? text = none := by
  rw [natural?, if_neg]
  intro digits
  simp only [Bool.and_eq_true, List.all_eq_true] at digits
  have isDigit := digits.2 character member
  rw [noDigit] at isDigit
  contradiction

theorem natural?_toDigits (number : Nat) : natural? (Nat.toDigits 10 number) = some number := by
  have digits : (Nat.toDigits 10 number).all Char.isDigit = true := by
    rw [List.all_eq_true]
    intro character member
    exact Nat.isDigit_of_mem_toDigits (by decide) (by decide) member
  simp [natural?, digits, Nat.toDigits_ne_nil]

theorem head?_toDigits_ne_zero {base : Nat} (large : 1 < base) {number : Nat}
    (positive : 0 < number) : (Nat.toDigits base number).head? ≠ some '0' := by
  induction number using Nat.strongRecOn with
  | ind number ih =>
      rw [Nat.toDigits_eq_if large]
      by_cases small : number < base
      · rw [if_pos small, List.head?_cons]
        intro zero
        exact Nat.ne_of_gt positive (Nat.digitChar_eq_zero.mp (Option.some.inj zero))
      · have quotientPositive : 0 < number / base := Nat.div_pos (by omega) (by omega)
        have earlier := ih (number / base) (Nat.div_lt_self positive large) quotientPositive
        rw [if_neg small, List.head?_append]
        cases front : Nat.toDigits base (number / base) with
        | nil => exact absurd front Nat.toDigits_ne_nil
        | cons first rest =>
            rw [front] at earlier
            exact earlier

/-! ## Hexadecimal digits -/

theorem hexDigitValue?_digitChar {digit : Nat} (small : digit < 16) :
    hexDigitValue? digit.digitChar = some digit := by
  revert digit
  decide

/-- The digits of a number in base sixteen are read one by one, and give the number back. -/
theorem mapM_hexDigitValue?_toDigits (number : Nat) :
    ∃ digits, (Nat.toDigits 16 number).mapM hexDigitValue? = some digits ∧
      digits.length = (Nat.toDigits 16 number).length ∧ numberOf 16 digits = number := by
  induction number using Nat.strongRecOn with
  | ind number ih =>
      rw [Nat.toDigits_eq_if (by decide)]
      by_cases small : number < 16
      · rw [if_pos small]
        refine ⟨[number], ?_, rfl, by simp [numberOf]⟩
        simp [hexDigitValue?_digitChar small]
      · rw [if_neg small]
        obtain ⟨digits, read, length, value⟩ := ih (number / 16) (by omega)
        refine ⟨digits ++ [number % 16], ?_, by simp [length], ?_⟩
        · have last := hexDigitValue?_digitChar (Nat.mod_lt number (by decide : 0 < 16))
          rw [List.mapM_append, read]
          simp [last]
        · rw [numberOf_append_singleton, value]
          omega

/-- A character that a number in base sixteen is written with has a value. -/
theorem hexDigitValue?_isSome_of_mem_toDigits {number : Nat} {character : Char}
    (member : character ∈ Nat.toDigits 16 number) : (hexDigitValue? character).isSome = true := by
  induction number using Nat.strongRecOn with
  | ind number ih =>
      rw [Nat.toDigits_eq_if (by decide)] at member
      have digit : ∀ small : Nat, small < 16 →
          (hexDigitValue? small.digitChar).isSome = true := by
        intro small bound
        rw [hexDigitValue?_digitChar bound]
        rfl
      split at member
      case isTrue small =>
        rw [List.mem_singleton.mp member]
        exact digit number small
      case isFalse large =>
        rcases List.mem_append.mp member with inFront | last
        · exact ih (number / 16) (by omega) inFront
        · rw [List.mem_singleton.mp last]
          exact digit _ (Nat.mod_lt number (by decide))

end Firewall.Text

namespace Firewall.Address

open Text

/-! ## Digits of a fixed count -/

@[simp] theorem length_digitsOf (base count number : Nat) :
    (digitsOf base count number).length = count := by
  induction count generalizing number with
  | zero => rfl
  | succ count ih => simp [digitsOf, ih]

theorem lt_of_mem_digitsOf {base count number digit : Nat} (positive : 0 < base)
    (member : digit ∈ digitsOf base count number) : digit < base := by
  induction count generalizing number with
  | zero => contradiction
  | succ count ih =>
      rcases List.mem_append.mp member with inFront | last
      · exact ih inFront
      · rw [List.mem_singleton.mp last]
        exact Nat.mod_lt number positive

/-- Enough digits give the number back. -/
theorem numberOf_digitsOf {base count number : Nat} (small : number < base ^ count) :
    numberOf base (digitsOf base count number) = number := by
  induction count generalizing number with
  | zero => simp_all [digitsOf, numberOf]
  | succ count ih =>
      have quotientSmall : number / base < base ^ count :=
        Nat.div_lt_of_lt_mul (by rwa [Nat.pow_succ, Nat.mul_comm] at small)
      rw [digitsOf, numberOf_append_singleton, ih quotientSmall]
      exact Nat.div_add_mod' number base

end Firewall.Address
