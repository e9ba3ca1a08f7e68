import Firewall.Proofs.Number.Literal

/-!
# The grammar of integer literals

An integer literal is a sign, if there is one, and digits of any script, where single underscores
may stand between two digits.  `read_eq_ok_iff` says that the reader of literals accepts exactly
these texts, up to a number of digits, and that it finds the number that the digits write.
-/

namespace Firewall.Integer

/-- A text of digits, in which one underscore may stand between two digits. -/
inductive WritesDigits : List Char → List Nat → Prop
  | last {character : Char} {digit : Nat} :
      Text.digitValue? character = some digit → WritesDigits [character] [digit]
  | next {character : Char} {digit : Nat} {rest : List Char} {digits : List Nat} :
      Text.digitValue? character = some digit → WritesDigits rest digits →
      WritesDigits (character :: rest) (digit :: digits)
  | gap {character : Char} {digit : Nat} {rest : List Char} {digits : List Nat} :
      Text.digitValue? character = some digit → WritesDigits rest digits →
      WritesDigits (character :: '_' :: rest) (digit :: digits)

/-- A text that writes an integer, with a sign or without one. -/
inductive IsLiteral : List Char → Int → Prop
  | unsigned {text : List Char} {digits : List Nat} :
      WritesDigits text digits → digits.length ≤ digitLimit →
      IsLiteral text (Text.numberOf 10 digits)
  | plus {text : List Char} {digits : List Nat} :
      WritesDigits text digits → digits.length ≤ digitLimit →
      IsLiteral ('+' :: text) (Text.numberOf 10 digits)
  | minus {text : List Char} {digits : List Nat} :
      WritesDigits text digits → digits.length ≤ digitLimit →
      IsLiteral ('-' :: text) (-Text.numberOf 10 digits)

/-! ## Digits -/

theorem exists_head_of_writesDigits {text : List Char} {digits : List Nat}
    (writes : WritesDigits text digits) :
    ∃ first rest digit, text = first :: rest ∧ Text.digitValue? first = some digit := by
  cases writes with
  | last isDigit => exact ⟨_, _, _, rfl, isDigit⟩
  | next isDigit => exact ⟨_, _, _, rfl, isDigit⟩
  | gap isDigit => exact ⟨_, _, _, rfl, isDigit⟩

theorem unsigned_of_writesDigits {text : List Char} {digits : List Nat}
    (writes : WritesDigits text digits) : unsigned text = (false, text) := by
  obtain ⟨first, rest, digit, rfl, isDigit⟩ := exists_head_of_writesDigits writes
  unfold unsigned
  split
  case h_1 isSigned =>
    cases isSigned
    exact absurd (Option.isSome_of_eq_some isDigit) (by decide)
  case h_2 isSigned =>
    cases isSigned
    exact absurd (Option.isSome_of_eq_some isDigit) (by decide)
  case h_3 => rfl

theorem groups?_of_writesDigits {text : List Char} {digits : List Nat}
    (writes : WritesDigits text digits) : groups? text = some digits := by
  induction writes with
  | last isDigit => simp [groups?, isDigit]
  | gap isDigit _ ih => simp [groups?, isDigit, ih]
  | @next character digit rest digits isDigit others ih =>
      obtain ⟨first, behind, value, rfl, firstDigit⟩ := exists_head_of_writesDigits others
      have noUnderscore : first ≠ '_' :=
        ne_underscore_of_isDecimal (Option.isSome_of_eq_some firstDigit)
      simp [groups?, isDigit, ih, noUnderscore]

theorem writesDigits_of_groups? {text : List Char} {digits : List Nat}
    (read : groups? text = some digits) : WritesDigits text digits := by
  fun_induction groups? text generalizing digits with
  | case1 => contradiction
  | case2 character =>
      obtain ⟨digit, isDigit, rfl⟩ := Option.map_eq_some_iff.mp read
      exact .last isDigit
  | case3 character rest ih =>
      simp only [Option.bind_eq_bind, Option.bind_eq_some_iff] at read
      obtain ⟨digit, isDigit, others, isRest, ⟨⟩⟩ := read
      exact .gap isDigit (ih isRest)
  | case4 character rest _ _ ih =>
      simp only [Option.bind_eq_bind, Option.bind_eq_some_iff] at read
      obtain ⟨digit, isDigit, others, isRest, ⟨⟩⟩ := read
      exact .next isDigit (ih isRest)

theorem inLiteral_of_writesDigits {text : List Char} {digits : List Nat}
    (writes : WritesDigits text digits) :
    ∀ character ∈ text, (Text.isDecimal character || character == '_') = true := by
  have decimal {character : Char} {digit : Nat}
      (isDigit : Text.digitValue? character = some digit) :
      (Text.isDecimal character || character == '_') = true := by
    rw [Text.isDecimal, isDigit]
    rfl
  induction writes with
  | last isDigit => simpa using decimal isDigit
  | next isDigit _ ih =>
      intro other member
      rcases List.mem_cons.mp member with rfl | inRest
      · exact decimal isDigit
      · exact ih other inRest
  | gap isDigit _ ih =>
      intro other member
      rcases List.mem_cons.mp member with rfl | behind
      · exact decimal isDigit
      · rcases List.mem_cons.mp behind with rfl | inRest
        · rfl
        · exact ih other inRest

/-- A text is cut behind its last digit exactly when it writes digits. -/
theorem split?_eq_some_nil_iff {text : List Char} {digits : List Nat} :
    split? text = some (digits, []) ↔ WritesDigits text digits := by
  unfold split?
  dsimp only
  constructor
  · intro whole
    obtain ⟨found, read, same⟩ := Option.map_eq_some_iff.mp whole
    obtain ⟨rfl, nothing⟩ := Prod.mk.inj same
    have all : text.takeWhile (fun character => Text.isDecimal character || character == '_') =
        text := List.takeWhile_eq_self_iff.mpr (List.dropWhile_eq_nil_iff.mp nothing)
    rw [all] at read
    exact writesDigits_of_groups? read
  · intro writes
    have inside := inLiteral_of_writesDigits writes
    rw [List.takeWhile_eq_self_iff.mpr inside, List.dropWhile_eq_nil_iff.mpr inside,
      groups?_of_writesDigits writes]
    rfl

/-! ## Literals -/

theorem exists_digits_iff {text : String} {negative : Bool} {body : List Char}
    (shape : unsigned text.toList = (negative, body)) {number : Int} :
    read text = .ok number ↔
      ∃ digits, WritesDigits body digits ∧ digits.length ≤ digitLimit ∧
        withSign negative (Text.numberOf 10 digits) = number := by
  simp only [read, shape, ← split?_eq_some_nil_iff]
  cases split? body with
  | none => simp
  | some parts =>
      obtain ⟨digits, rest⟩ := parts
      by_cases tooLong : digitLimit < digits.length
      · simp [tooLong, Nat.not_le.mpr tooLong]
      · cases rest <;> simp [tooLong, Nat.not_lt.mp tooLong]

/-- A text is read as a number exactly when it is a literal of that number. -/
theorem read_eq_ok_iff {text : String} {number : Int} :
    read text = .ok number ↔ IsLiteral text.toList number := by
  constructor
  · intro isRead
    cases shape : unsigned text.toList with
    | mk negative body =>
        obtain ⟨digits, writes, short, rfl⟩ := (exists_digits_iff shape).mp isRead
        unfold unsigned at shape
        split at shape
        case h_1 rest isText =>
          cases shape
          rw [isText]
          exact .minus writes short
        case h_2 rest isText =>
          cases shape
          rw [isText]
          exact .plus writes short
        case h_3 =>
          cases shape
          exact .unsigned writes short
  · intro literal
    generalize shape : text.toList = characters at literal
    cases literal with
    | @minus rest _ writes short =>
        have isUnsigned : unsigned text.toList = (true, rest) := by rw [shape, unsigned]
        exact (exists_digits_iff isUnsigned).mpr ⟨_, writes, short, rfl⟩
    | @plus rest _ writes short =>
        have isUnsigned : unsigned text.toList = (false, rest) := by rw [shape, unsigned]
        exact (exists_digits_iff isUnsigned).mpr ⟨_, writes, short, rfl⟩
    | unsigned writes short =>
        have isUnsigned := unsigned_of_writesDigits writes
        exact (exists_digits_iff (by rw [shape, isUnsigned])).mpr ⟨_, writes, short, rfl⟩

end Firewall.Integer
