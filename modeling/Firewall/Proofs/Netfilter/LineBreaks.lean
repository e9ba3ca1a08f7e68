import Firewall.Proofs.Build.Outcome
import Firewall.Proofs.Netfilter.Placement
import Firewall.Proofs.Netfilter.Words
import Firewall.Rule.Reader

/-!
# Line breaks in a ruleset

A rule is to be one line.  Its addresses, its ports and all that the printer adds keep to that, but
a protocol or the name of an interface may have a line break in it, and then the line of the rule
has it too.  `rules_are_lines_iff` says that there is no other way for a ruleset to have more lines
than were written, and `ofValue_breaks_line` shows a rule whose protocol adds a line.
-/

namespace Firewall

namespace Text

/-- The characters at which a line of a text can end. -/
def isLineBreak (character : Char) : Bool :=
  ['\n', '\r', '\x0b', '\x0c', '\x1c', '\x1d', '\x1e', '\u0085', '\u2028', '\u2029'].contains
    character

/-- A text has no line break. -/
def Unbroken (text : String) : Prop := ∀ character ∈ text.toList, isLineBreak character = false

instance (text : String) : Decidable (Unbroken text) := List.decidableBAll _ text.toList

/-- The lines of a text; behind the last line break there is one more. -/
def brokenLines (text : String) : List String :=
  (List.splitOnP isLineBreak text.toList).map String.ofList

theorem foreign_of_isLineBreak {character : Char} (isBreak : isLineBreak character = true) :
    isOwnChar character = false ∧ character ≠ ' ' ∧ character.isDigit = false := by
  simp only [isLineBreak, List.contains_iff_mem, List.mem_cons, List.not_mem_nil,
    or_false] at isBreak
  rcases isBreak with rfl | rfl | rfl | rfl | rfl | rfl | rfl | rfl | rfl | rfl <;> decide

theorem unbroken_append {front back : String} :
    Unbroken (front ++ back) ↔ Unbroken front ∧ Unbroken back := by
  simp only [Unbroken, String.toList_append, List.mem_append, or_imp, forall_and]

theorem mem_intercalate_iff {separator character : Char} (other : character ≠ separator)
    (pieces : List (List Char)) :
    character ∈ [separator].intercalate pieces ↔ ∃ piece ∈ pieces, character ∈ piece := by
  induction pieces with
  | nil => simp
  | cons first rest ih =>
      cases rest with
      | nil => simp
      | cons second rest =>
          rw [List.intercalate_cons_cons, List.mem_append, List.mem_append, ih,
            List.mem_singleton, List.exists_mem_cons_iff (a := first)]
          simp [other]

/-! ## Lines of joined texts -/

section Split

variable {α : Type} {isBreak : α → Bool}

/-- Pieces joined by a break are split one by one. -/
theorem splitOnP_intercalate {separator : α} (breaks : isBreak separator = true)
    {pieces : List (List α)} (nonempty : pieces ≠ []) :
    List.splitOnP isBreak ([separator].intercalate pieces) =
      pieces.flatMap (List.splitOnP isBreak) := by
  induction pieces with
  | nil => contradiction
  | cons first rest ih =>
      cases rest with
      | nil => simp
      | cons second rest =>
          rw [List.intercalate_cons_cons, List.append_assoc, List.singleton_append,
            List.splitOnP_append_cons _ _ breaks, ih (List.cons_ne_nil second rest)]
          rfl

theorem length_splitOnP (list : List α) :
    (List.splitOnP isBreak list).length = list.countP isBreak + 1 := by
  induction list with
  | nil => simp
  | cons first rest ih =>
      rw [List.splitOnP_cons_eq_if_modifyHead]
      by_cases breaks : isBreak first = true <;> simp [breaks, ih]

end Split

theorem brokenLines_of_unbroken {text : String} (unbroken : Unbroken text) :
    brokenLines text = [text] := by
  rw [brokenLines, List.splitOnP_eq_singleton unbroken, List.map_singleton, String.ofList_toList]

theorem unbroken_of_length {text : String} (one : (brokenLines text).length = 1) :
    Unbroken text := by
  rw [brokenLines, List.length_map, length_splitOnP] at one
  intro character member
  have none : text.toList.countP isLineBreak = 0 := by omega
  exact Bool.eq_false_iff.mpr (List.countP_eq_zero.mp none character member)

/-- A text of lines has the lines of each of them, and an empty one at its end. -/
theorem brokenLines_joined {lines : List String} (nonempty : lines ≠ []) :
    brokenLines (String.intercalate "\n" lines ++ "\n") = lines.flatMap brokenLines ++ [""] := by
  have separator : "\n".toList = ['\n'] := rfl
  have breaks : isLineBreak '\n' = true := by decide
  rw [brokenLines, String.toList_append, String.toList_intercalate, separator,
    List.splitOnP_append_cons _ _ breaks, splitOnP_intercalate breaks (by simpa using nonempty)]
  rw [List.map_append, List.map_flatMap, List.flatMap_map]
  rfl

theorem length_le_length_flatMap_brokenLines (lines : List String) :
    lines.length ≤ (lines.flatMap brokenLines).length := by
  induction lines with
  | nil => exact Nat.le_refl 0
  | cons line rest ih =>
      rw [List.flatMap_cons, List.length_append, List.length_cons, brokenLines, List.length_map,
        length_splitOnP]
      omega

theorem flatMap_brokenLines_eq_self_iff (lines : List String) :
    lines.flatMap brokenLines = lines ↔ ∀ line ∈ lines, Unbroken line := by
  induction lines with
  | nil => simp
  | cons line rest ih =>
      rw [List.flatMap_cons, List.forall_mem_cons, ← ih]
      constructor
      · intro same
        have total := congrArg List.length same
        have atLeast := length_le_length_flatMap_brokenLines rest
        rw [List.length_append, List.length_cons] at total
        have one : (brokenLines line).length = 1 := by
          have some : (brokenLines line).length ≠ 0 := by
            rw [brokenLines, List.length_map, length_splitOnP]
            exact Nat.succ_ne_zero _
          omega
        have unbroken := unbroken_of_length one
        rw [brokenLines_of_unbroken unbroken] at same
        exact ⟨unbroken, (List.cons.inj same).2⟩
      · intro both
        rw [brokenLines_of_unbroken both.1, both.2]
        rfl

end Text

open Text

/-! ## The frame of a ruleset -/

theorem unbroken_padded {fill : Char} (plain : isLineBreak fill = false) (width number : Nat) :
    Unbroken (ClockTime.padded fill width number) := by
  intro character member
  rw [ClockTime.padded, String.toList_ofList, List.mem_append] at member
  rcases member with isFill | isDigit
  · rw [List.eq_of_mem_replicate isFill]
    exact plain
  · have digit := Nat.isDigit_of_mem_toDigits (by decide) (by decide) isDigit
    cases isBreak : isLineBreak character with
    | false => rfl
    | true =>
        rw [(foreign_of_isLineBreak isBreak).2.2] at digit
        contradiction

theorem unbroken_getD {names : List String} (plain : ∀ name ∈ names, Unbroken name)
    (index : Nat) : Unbroken (names.getD index "") := by
  rw [List.getD_eq_getElem?_getD]
  cases found : names[index]? with
  | none => exact nofun
  | some name => exact plain name (List.mem_of_getElem? found)

theorem unbroken_clock (time : ClockTime) : Unbroken time.text := by
  have space : Unbroken " " := by decide +kernel
  have colon : Unbroken ":" := by decide +kernel
  have weekday : ∀ name ∈ ClockTime.weekdays, Unbroken name := by decide +kernel
  have month : ∀ name ∈ ClockTime.months, Unbroken name := by decide +kernel
  simp only [ClockTime.text, unbroken_append, space, colon, unbroken_getD weekday,
    unbroken_getD month, unbroken_padded (by decide : isLineBreak ' ' = false),
    unbroken_padded (by decide : isLineBreak '0' = false), and_self]

/-- What is no rule in a ruleset has no line break. -/
theorem unbroken_or_rule {rules : List Rule} {time : ClockTime} {line : String}
    (isLine : IsLineOf rules time line) :
    Unbroken line ∨ ∃ rule ∈ rules, line = rule.line := by
  cases isLine with
  | header =>
      have start : Unbroken "# Generated by melt v1.0.0 on " := by decide +kernel
      exact .inl (unbroken_append.mpr ⟨start, unbroken_clock time⟩)
  | border isBorder =>
      have plain : ∀ word ∈ ["*nat", "*filter", "COMMIT"], Unbroken word := by
        decide +kernel
      exact .inl (plain line isBorder)
  | declaration chain isPolicy =>
      left
      simp only [List.mem_cons, List.not_mem_nil, or_false] at isPolicy
      rcases isPolicy with rfl | rfl <;> cases chain <;> decide +kernel
  | replies chain =>
      left
      cases chain <;> decide +kernel
  | rule isGiven => exact .inr ⟨_, isGiven, rfl⟩

/-! ## Rules -/

/-- A line break is in the line of a rule exactly if it is in one of the texts written into it. -/
theorem break_mem_line_iff {character : Char} (isBreak : isLineBreak character = true)
    (rule : Rule) :
    character ∈ rule.line.toList ↔ ∃ text ∈ rule.writtenTexts, character ∈ text.toList := by
  obtain ⟨foreign, noSpace, -⟩ := foreign_of_isLineBreak isBreak
  have separator : " ".toList = [' '] := rfl
  rw [Rule.line, String.toList_intercalate, separator, mem_intercalate_iff noSpace,
    ← Rule.foreign_mem_words_iff foreign]
  simp

theorem unbroken_line_iff (rule : Rule) :
    Unbroken rule.line ↔ ∀ text ∈ rule.writtenTexts, Unbroken text := by
  constructor
  · intro unbroken text written character member
    cases isBreak : isLineBreak character with
    | false => rfl
    | true =>
        have inLine := (break_mem_line_iff isBreak rule).mpr ⟨text, written, member⟩
        exact isBreak.symm.trans (unbroken character inLine)
  · intro unbroken character member
    cases isBreak : isLineBreak character with
    | false => rfl
    | true =>
        obtain ⟨text, written, inText⟩ := (break_mem_line_iff isBreak rule).mp member
        exact isBreak.symm.trans (unbroken text written character inText)

/-- Addresses, ports and the printer itself never break the line of a rule.  So every rule of a
ruleset is one line of its text exactly if no protocol or interface in it has a line break. -/
theorem rules_are_lines_iff (rules : List Rule) (default : Action) (time : ClockTime) :
    (∀ rule ∈ rules, ∀ character, isLineBreak character = true →
      (character ∈ rule.line.toList ↔
        ∃ text ∈ rule.writtenTexts, character ∈ text.toList)) ∧
    (brokenLines (ruleset rules default time) = rulesetLines rules default time ++ [""] ↔
      ∀ rule ∈ rules, ∀ text ∈ rule.writtenTexts, Unbroken text) := by
  constructor
  · exact fun rule _ character isBreak => break_mem_line_iff isBreak rule
  · have nonempty : rulesetLines rules default time ≠ [] := List.cons_ne_nil _ _
    rw [ruleset, brokenLines_joined nonempty, List.append_cancel_right_eq,
      flatMap_brokenLines_eq_self_iff]
    constructor
    · intro unbroken rule isGiven
      exact (unbroken_line_iff rule).mp
        (unbroken rule.line (line_mem_rulesetLines isGiven default time))
    · intro plain line member
      rcases unbroken_or_rule (isLineOf_of_mem member) with unbroken | ⟨rule, isGiven, rfl⟩
      · exact unbroken
      · exact (unbroken_line_iff rule).mpr (plain rule isGiven)

/-- The members of a rule that passes what comes in with a protocol. -/
def protocolMembers (protocol : String) : Schema.Members :=
  [("action", .text "pass"), ("dir", .text "in"), ("proto", .text protocol)]

/-- A protocol with a line break adds a line, here one that accepts everything. -/
theorem ofValue_breaks_line :
    ∃ rule, Rule.ofValue (.object (protocolMembers "tcp -j ACCEPT\n-A INPUT")) = .ok rule ∧
      brokenLines rule.line = ["-A INPUT -p tcp -j ACCEPT", "-A INPUT -j ACCEPT"] := by
  have evaluated :
      ((Rule.ofValue (.object (protocolMembers "tcp -j ACCEPT\n-A INPUT"))).toOption.map
        fun rule => brokenLines rule.line) =
      some ["-A INPUT -p tcp -j ACCEPT", "-A INPUT -j ACCEPT"] := by
    decide +kernel
  exact exists_ok_of_map_toOption evaluated

end Firewall
