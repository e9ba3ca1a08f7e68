import Firewall.Text.Blank
import Mathlib.Data.List.TakeWhile

/-!
# The words of a text

A text is made of some words if it holds them in order, with blanks around them and at least one
blank between two of them.  `words_eq_iff` says that cutting a text into its words finds exactly the
words it is made of, so that nothing but the number and kind of the blanks is lost.
-/

namespace Firewall.Text

/-- All characters of a text are blank. -/
def AreBlank (text : List Char) : Prop := ∀ character ∈ text, isBlank character = true

/-- A word has characters, and none of them is blank. -/
def IsWord (text : List Char) : Prop :=
  text ≠ [] ∧ ∀ character ∈ text, isBlank character = false

/-- A text is made of words with blanks around them. -/
inductive IsMadeOf : List Char → List (List Char) → Prop
  | blank {text : List Char} : AreBlank text → IsMadeOf text []
  /-- A word goes on up to a blank or to the end of the text. -/
  | word {gap word rest : List Char} {words : List (List Char)} :
      AreBlank gap → IsWord word → (∀ next ∈ rest.head?, isBlank next = true) →
      IsMadeOf rest words → IsMadeOf (gap ++ (word ++ rest)) (word :: words)

theorem words_of_blank {text : List Char} (blank : AreBlank text) : words text = [] := by
  have nothing : text.dropWhile isBlank = [] := List.dropWhile_eq_nil_iff.mpr blank
  rw [words]
  split
  · rfl
  · rename_i first rest shape
    rw [nothing] at shape
    contradiction

theorem words_of_dropWhile {text rest : List Char} {first : Char}
    (found : text.dropWhile isBlank = first :: rest) :
    words text =
      (first :: rest.takeWhile (!isBlank ·)) :: words (rest.dropWhile (!isBlank ·)) := by
  rw [words.eq_def text]
  split
  · rename_i shape
    rw [found] at shape
    contradiction
  · rename_i other others shape
    rw [found] at shape
    cases shape
    rfl

/-- The first word of a text is cut off with the gap in front of it. -/
theorem words_of_word {gap word rest : List Char} (blank : AreBlank gap) (isWord : IsWord word)
    (ends : ∀ next ∈ rest.head?, isBlank next = true) :
    words (gap ++ (word ++ rest)) = word :: words rest := by
  obtain ⟨nonempty, visible⟩ := isWord
  cases word with
  | nil => contradiction
  | cons first others =>
      have firstVisible := visible first List.mem_cons_self
      have othersVisible : ∀ character ∈ others, (!isBlank character) = true := by
        intro character member
        rw [visible character (List.mem_cons_of_mem first member)]
        rfl
      have found : (gap ++ (first :: others ++ rest)).dropWhile isBlank =
          first :: (others ++ rest) := by
        rw [List.dropWhile_append_of_pos blank, List.cons_append, List.dropWhile_cons_of_neg]
        simp [firstVisible]
      have stops : rest.takeWhile (!isBlank ·) = [] ∧ rest.dropWhile (!isBlank ·) = rest := by
        cases rest with
        | nil => exact ⟨rfl, rfl⟩
        | cons next more => simp [ends next rfl]
      rw [words_of_dropWhile found, List.takeWhile_append_of_pos othersVisible,
        List.dropWhile_append_of_pos othersVisible, stops.1, stops.2, List.append_nil]

/-- A text is made of the words into which it is cut. -/
theorem isMadeOf_words (text : List Char) : IsMadeOf text (words text) := by
  fun_induction words text with
  | case1 text nothing => exact .blank (List.dropWhile_eq_nil_iff.mp nothing)
  | case2 text first rest found ih =>
      have isText : text = text.takeWhile isBlank ++
          ((first :: rest.takeWhile (!isBlank ·)) ++ rest.dropWhile (!isBlank ·)) := by
        rw [List.cons_append, List.takeWhile_append_dropWhile, ← found,
          List.takeWhile_append_dropWhile]
      have firstVisible : isBlank first = false := by
        have stopped := List.head?_dropWhile_not isBlank text
        simpa [found] using stopped
      rw [isText]
      refine .word ?_ ⟨List.cons_ne_nil _ _, ?_⟩ ?_ ih
      · intro character member
        exact List.mem_takeWhile_imp member
      · intro character member
        rcases List.mem_cons.mp member with rfl | inRest
        · exact firstVisible
        · simpa using List.mem_takeWhile_imp inRest
      · intro next isNext
        have stopped := List.head?_dropWhile_not (!isBlank ·) rest
        rw [Option.mem_def.mp isNext] at stopped
        simpa using stopped

/-- Cutting a text finds the words of which it is made. -/
theorem words_eq_iff {text : List Char} {parts : List (List Char)} :
    words text = parts ↔ IsMadeOf text parts := by
  constructor
  · rintro rfl
    exact isMadeOf_words text
  · intro made
    induction made with
    | blank blank => exact words_of_blank blank
    | word blank isWord ends _ ih => rw [words_of_word blank isWord ends, ih]

end Firewall.Text
