import Firewall.Text.Blank
import Firewall.Text.Line

/-!
# Cutting a text into pieces

`Text.fields` is the inverse of joining pieces with the separator between them, as long as no piece
holds the separator (`joined_fields`, `fields_joined`).  Cutting at a separator and trimming leave
out nothing else: a character of another kind is still there afterwards.
-/

namespace Firewall.Text

theorem fields_eq_splitOn (separator : Char) (text : List Char) :
    fields separator text = text.splitOn separator := by
  induction text with
  | nil => simp [fields]
  | cons character rest ih =>
      rw [fields, List.splitOn_cons_eq_if_modifyHead, ih]
      by_cases same : character = separator
      · simp [same]
      · rw [if_neg same, if_neg (by simpa using same)]
        cases split : rest.splitOn separator with
        | nil => exact absurd split (List.splitOn_ne_nil separator rest)
        | cons field others => rfl

theorem fields_of_notMem {separator : Char} {text : List Char} (absent : separator ∉ text) :
    fields separator text = [text] := by
  rw [fields_eq_splitOn, List.splitOn_eq_singleton absent]

/-- The first field is what stands in front of the first separator. -/
theorem fields_append_cons {separator : Char} {front : List Char} (absent : separator ∉ front)
    (rest : List Char) :
    fields separator (front ++ separator :: rest) = front :: fields separator rest := by
  simp only [fields_eq_splitOn]
  exact List.splitOn_append_cons_self_of_not_mem absent rest

/-- Pieces without the separator are the fields of the text that they make. -/
theorem fields_joined {separator : Char} {pieces : List (List Char)} (nonempty : pieces ≠ [])
    (absent : ∀ piece ∈ pieces, separator ∉ piece) :
    fields separator ([separator].intercalate pieces) = pieces := by
  rw [fields_eq_splitOn]
  exact List.splitOn_intercalate separator absent nonempty

/-- The fields of a text make up the text again. -/
theorem joined_fields (separator : Char) (text : List Char) :
    [separator].intercalate (fields separator text) = text := by
  rw [fields_eq_splitOn]
  exact List.intercalate_splitOn separator

theorem mem_flatten_fields {separator character : Char} {text : List Char}
    (different : character ≠ separator) (member : character ∈ text) :
    character ∈ (fields separator text).flatten := by
  induction text with
  | nil => contradiction
  | cons head rest ih =>
      rw [fields]
      by_cases same : head = separator
      · rw [if_pos same]
        rcases List.mem_cons.mp member with rfl | inRest
        · contradiction
        · simpa using ih inRest
      · rw [if_neg same]
        cases split : fields separator rest with
        | nil => exact absurd split (fields_ne_nil separator rest)
        | cons field others =>
            rw [split] at ih
            rcases List.mem_cons.mp member with rfl | inRest
            · simp
            · have later := ih inRest
              simp only [List.flatten_cons, List.mem_append, List.mem_cons] at later ⊢
              rcases later with inField | inOthers
              · exact .inl (.inr inField)
              · exact .inr inOthers

private theorem ne_separator_of_notMem {separator : Char} {text : List Char}
    (absent : separator ∉ text) : ∀ character ∈ text, decide (character ≠ separator) = true := by
  intro character member
  exact decide_eq_true fun same => absent (same ▸ member)

theorem before_append_cons {separator : Char} {front : List Char} (absent : separator ∉ front)
    (rest : List Char) : before separator (front ++ separator :: rest) = front := by
  rw [before, List.takeWhile_append_of_pos (ne_separator_of_notMem absent)]
  simp

theorem dropWhile_append_cons {separator : Char} {front : List Char} (absent : separator ∉ front)
    (rest : List Char) :
    (front ++ separator :: rest).dropWhile (· ≠ separator) = separator :: rest := by
  rw [List.dropWhile_append_of_pos (ne_separator_of_notMem absent)]
  simp

theorem before_of_notMem {separator : Char} {text : List Char} (absent : separator ∉ text) :
    before separator text = text := by
  have whole := @List.takeWhile_append_of_pos _ _ text [] (ne_separator_of_notMem absent)
  simpa [before] using whole

theorem dropWhile_of_notMem {separator : Char} {text : List Char} (absent : separator ∉ text) :
    text.dropWhile (· ≠ separator) = [] := by
  have whole := @List.dropWhile_append_of_pos _ _ text [] (ne_separator_of_notMem absent)
  simpa using whole

/-- Dropping characters of a class from the front keeps those outside the class. -/
theorem mem_dropWhile_of_outside {inClass : Char → Bool} {character : Char} {text : List Char}
    (outside : inClass character = false) (member : character ∈ text) :
    character ∈ text.dropWhile inClass := by
  induction text with
  | nil => exact member
  | cons head rest ih =>
      rw [List.dropWhile_cons]
      by_cases dropped : inClass head = true
      · rw [if_pos dropped]
        rcases List.mem_cons.mp member with rfl | inRest
        · rw [outside] at dropped
          contradiction
        · exact ih inRest
      · rw [if_neg dropped]
        exact member

theorem mem_trim_of_outside {inClass : Char → Bool} {character : Char} {text : List Char}
    (outside : inClass character = false) (member : character ∈ text) :
    character ∈ trim inClass text := by
  rw [trim, List.mem_reverse]
  apply mem_dropWhile_of_outside outside
  rw [List.mem_reverse]
  exact mem_dropWhile_of_outside outside member

end Firewall.Text
