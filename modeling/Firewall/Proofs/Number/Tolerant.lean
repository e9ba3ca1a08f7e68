import Firewall.Number.Tolerant
import Firewall.Proofs.Number.Digits
import Firewall.Proofs.Text.Cutting

/-!
# What a tolerant reader never leaves out

The tolerant reader of integers leaves out blanks, zeros, points and underscores, and nothing else.
A colon is none of these, so it is still there when the text is tidied, and it is no digit:
`readTolerantly_of_colon` says that no text with a colon is an integer.
-/

namespace Firewall.Integer

theorem readPlain?_of_colon {text : List Char} (colon : ':' ∈ text) : readPlain? text = none := by
  unfold readPlain?
  split
  rename_i negative digits shape
  have digitsColon : ':' ∈ digits := by
    split at shape
    · cases shape
      exact List.mem_of_ne_of_mem (by decide) colon
    · cases shape
      exact colon
  rw [Text.natural?_eq_none_of_mem (by decide) digitsColon, Option.map_none, ite_self]

theorem colon_mem_behindZero {last : Char} {text kept : List Char} (colon : ':' ∈ text)
    (reached : behindZero last text = some kept) : ':' ∈ kept := by
  induction text generalizing last with
  | nil => contradiction
  | cons character rest ih =>
      rw [behindZero] at reached
      split at reached
      · rename_i passed
        apply ih _ reached
        apply List.mem_of_ne_of_mem _ colon
        rcases passed with rfl | rfl <;> decide
      · split at reached
        · cases reached
          exact List.mem_cons_of_mem last colon
        · split at reached
          · cases reached
            exact colon
          · contradiction

theorem colon_mem_dropZeros {text kept : List Char} (colon : ':' ∈ text)
    (reached : dropZeros text = some kept) : ':' ∈ kept := by
  cases text with
  | nil => contradiction
  | cons character rest =>
      rw [dropZeros] at reached
      split at reached
      · rename_i zero
        apply colon_mem_behindZero _ reached
        apply List.mem_of_ne_of_mem _ colon
        rw [zero]
        decide
      · split at reached
        · cases reached
          exact colon
        · contradiction

/-- Only a point and zeros behind it are left out. -/
theorem colon_mem_dropFraction {text : List Char} (colon : ':' ∈ text) :
    ':' ∈ dropFraction text := by
  unfold dropFraction
  split
  · rename_i point zeros shape
    split
    · rename_i allZeros
      have whole := List.takeWhile_append_dropWhile (p := (· ≠ '.')) (l := text)
      rw [← whole, List.mem_append] at colon
      rcases colon with inFront | behind
      · exact inFront
      · rw [shape] at behind
        have isPoint : point = '.' := by
          have head := List.head?_dropWhile_not (· ≠ '.') text
          rw [shape] at head
          simpa using head
        simp only [isPoint, List.mem_cons] at behind
        rcases behind with point | zero | inZeros
        · contradiction
        · contradiction
        · have isZero := List.all_eq_true.mp allZeros ':' inZeros
          contradiction
    · exact colon
  · exact colon

theorem colon_mem_dropUnderscores {text : List Char} (colon : ':' ∈ text) :
    ':' ∈ dropUnderscores text := by
  unfold dropUnderscores
  dsimp only
  split
  · exact Text.mem_flatten_fields (by decide) colon
  · exact colon

theorem colon_mem_tidy? {text tidied : List Char} (colon : ':' ∈ text)
    (reached : tidy? text = some tidied) : ':' ∈ tidied := by
  have trimmed : ':' ∈ Text.trim Text.isSpace text :=
    Text.mem_trim_of_outside (by decide) colon
  have unsignedColon : ':' ∈ (unsigned (Text.trim Text.isSpace text)).2 := by
    unfold unsigned
    split
    · rename_i shape
      rw [shape] at trimmed
      exact List.mem_of_ne_of_mem (by decide) trimmed
    · rename_i shape
      rw [shape] at trimmed
      exact List.mem_of_ne_of_mem (by decide) trimmed
    · exact trimmed
  unfold tidy? at reached
  dsimp only at reached
  obtain ⟨body, dropped, rfl⟩ := Option.map_eq_some_iff.mp reached
  have kept := colon_mem_dropUnderscores
    (colon_mem_dropFraction (colon_mem_dropZeros unsignedColon dropped))
  split
  · exact List.mem_cons_of_mem '-' kept
  · exact kept

theorem readTolerantly_of_colon {text : List Char} (colon : ':' ∈ text) (number : Int) :
    readTolerantly text ≠ .ok number := by
  have untidy : (tidy? text).bind readPlain? = none := by
    cases reached : tidy? text with
    | none => rfl
    | some tidied => exact readPlain?_of_colon (colon_mem_tidy? colon reached)
  unfold readTolerantly
  split
  · exact nofun
  · rw [readPlain?_of_colon colon, untidy]
    exact nofun

end Firewall.Integer
