import Firewall.Json.Fault
import Firewall.Number.Integer
import Firewall.Text.CodePoint
import Firewall.Value

/-!
# Strings and numbers of a JSON text

The two kinds of JSON values whose reading looks at single characters.  A reader takes the
characters that are left with the position of the first of them, and gives back what is left after
the value, which is always less.
-/

namespace Firewall.Json

/-- Why a JSON text is refused: its form, or an integer with too many digits. -/
inductive ReadError where
  | malformed (fault : Fault)
  | integerTooLong (digits : Nat)
  deriving DecidableEq, Repr

/-- A place in a text: the characters that are left, and the position of the first of them. -/
structure Cursor where
  position : Nat
  rest : List Char

/-- The place some characters further on. -/
def Cursor.advance (cursor : Cursor) (count : Nat) : Cursor :=
  ⟨cursor.position + count, cursor.rest.drop count⟩

/-- The white space of JSON. -/
def isGap (character : Char) : Bool :=
  character == ' ' || character == '\t' || character == '\n' || character == '\r'

/-- The next place that holds no white space. -/
def Cursor.skipGap (cursor : Cursor) : Cursor :=
  cursor.advance (cursor.rest.takeWhile isGap).length

theorem Cursor.length_advance_le (cursor : Cursor) (count : Nat) :
    (cursor.advance count).rest.length ≤ cursor.rest.length := by
  simp [advance]

theorem Cursor.length_skipGap_le (cursor : Cursor) :
    cursor.skipGap.rest.length ≤ cursor.rest.length :=
  cursor.length_advance_le _

/-- Gives up at a place. -/
def fail {α : Type} (kind : FaultKind) (position : Nat) : Except ReadError α :=
  .error (.malformed ⟨kind, position⟩)

/-! ## Strings -/

/-- The number that four hexadecimal digits write. -/
def hexQuad? (first second third fourth : Char) : Option Nat := do
  let digits ← [first, second, third, fourth].mapM Text.hexDigitValue?
  return Text.numberOf 16 digits

/-- The character of a backslash and one character, for the short escapes. -/
def shortEscape? : Char → Option Char
  | '"' => some '"'
  | '\\' => some '\\'
  | '/' => some '/'
  | 'b' => some '\x08'
  | 'f' => some '\x0c'
  | 'n' => some '\n'
  | 'r' => some '\r'
  | 't' => some '\t'
  | _ => none

/-- The code point of an escape by number, and how many characters follow its letter `u`.  An
escape of the first half of a pair takes the escape of a second one after it.  The string goes on
behind the escape, so a number at the very end of the text is refused. -/
def unicodeEscape (position : Nat) : List Char → Except ReadError (Nat × Nat)
  | first :: second :: third :: fourth :: next :: rest =>
      match hexQuad? first second third fourth with
      | none => fail .unicodeEscape position
      | some code =>
          match Text.isHighHalf code, next, rest with
          | true, '\\', 'u' :: first :: second :: third :: fourth :: _ :: _ =>
              match hexQuad? first second third fourth with
              | none => fail .unicodeEscape (position + 6)
              | some low =>
                  if Text.isLowHalf low then .ok (Text.joinHalves code low, 10)
                  else .ok (code, 4)
          | _, _, _ => .ok (code, 4)
  | _ => fail .unicodeEscape position

/-- Reads the inside of a string and its closing quote.  `opening` is the position of the opening
quote, `position` that of the first character left; `inside` are the code points so far, the last of
them first. -/
def readString (opening position : Nat) (inside : List Nat) :
    List Char → Except ReadError (String × Cursor)
  | [] => fail .unterminatedString opening
  | '"' :: rest => .ok (Text.ofCodePoints inside.reverse, ⟨position + 1, rest⟩)
  | '\\' :: 'u' :: rest => do
      let (code, count) ← unicodeEscape (position + 1) rest
      readString opening (position + 2 + count) (code :: inside) (rest.drop count)
  | '\\' :: escaped :: rest =>
      match shortEscape? escaped with
      | some character => readString opening (position + 2) (character.toNat :: inside) rest
      | none => fail .escape position
  | '\\' :: [] => fail .unterminatedString opening
  | character :: rest =>
      if character.toNat < 0x20 then fail .controlCharacter position
      else readString opening (position + 1) (character.toNat :: inside) rest
termination_by text => text.length
decreasing_by
  all_goals simp only [List.length_cons, List.length_drop]
  all_goals omega

theorem length_readString_lt {opening position : Nat} {inside : List Nat} {text : List Char}
    {content : String} {next : Cursor}
    (read : readString opening position inside text = .ok (content, next)) :
    next.rest.length < text.length := by
  fun_induction readString opening position inside text with
  | case1 => simp [fail] at read
  | case2 =>
      simp only [Except.ok.injEq, Prod.mk.injEq] at read
      obtain ⟨_, rfl⟩ := read
      simp
  | case3 position inside rest ih =>
      cases escape : unicodeEscape (position + 1) rest with
      | error => simp [escape, bind, Except.bind] at read
      | ok result =>
          have shorter := ih result.1 result.2 (by simpa [escape, bind, Except.bind] using read)
          simp only [List.length_cons, List.length_drop] at shorter ⊢
          omega
  | case4 position inside escaped rest _ character _ ih =>
      have shorter := ih read
      simp only [List.length_cons]
      omega
  | case5 => simp [fail] at read
  | case6 => simp [fail] at read
  | case7 => simp [fail] at read
  | case8 position inside character rest _ _ _ _ _ ih =>
      have shorter := ih read
      simp only [List.length_cons]
      omega

/-! ## Numbers -/

/-- The digits at the front of a text, and what follows them. -/
def digitRun (text : List Char) : List Char × List Char :=
  (text.takeWhile Char.isDigit, text.dropWhile Char.isDigit)

/-- The characters that a number is made of: its sign, the digits before the point, those after
it, the exponent; the last two may be missing. -/
structure Numeral where
  negative : Bool
  whole : List Char
  fraction? : Option (List Char)
  exponent? : Option Int

/-- How many characters of a text the sign takes. -/
def signLength (text : List Char) : Nat :=
  if text.head? = some '-' then 1 else 0

/-- The digits before the point: a zero stands alone. -/
def wholeDigits (text : List Char) : List Char :=
  if text.head? = some '0' then ['0'] else (digitRun text).1

/-- The digits after a point, if the point is followed by one. -/
def fractionDigits? : List Char → Option (List Char)
  | '.' :: rest => if (digitRun rest).1.isEmpty then none else some (digitRun rest).1
  | _ => none

/-- The exponent after a letter `e`, if it is complete, and the number of its characters. -/
def exponentPart? : List Char → Option (Int × Nat)
  | letter :: rest =>
      let (negative, body) := Integer.unsigned rest
      let digits := (digitRun body).1
      if (letter = 'e' ∨ letter = 'E') ∧ !digits.isEmpty then
        some (Integer.withSign negative (Nat.ofDigitChars 10 digits 0),
          1 + (rest.length - body.length) + digits.length)
      else none
  | [] => none

/-- The numeral at the front of a text and the number of its characters. -/
def numeral (text : List Char) : Numeral × Nat :=
  let sign := signLength text
  let whole := wholeDigits (text.drop sign)
  let afterWhole := text.drop (sign + whole.length)
  let fraction? := fractionDigits? afterWhole
  let fractionLength := match fraction? with
    | some digits => digits.length + 1
    | none => 0
  let exponent? := exponentPart? (afterWhole.drop fractionLength)
  let exponentLength := match exponent? with
    | some (_, count) => count
    | none => 0
  (⟨sign = 1, whole, fraction?, exponent?.map Prod.fst⟩,
    sign + whole.length + fractionLength + exponentLength)

/-- The number of a numeral: an integer, unless it has a fraction or an exponent. -/
def Numeral.value (numeral : Numeral) : Except ReadError Value :=
  if numeral.fraction?.isNone ∧ numeral.exponent?.isNone then
    if Integer.digitLimit < numeral.whole.length then .error (.integerTooLong numeral.whole.length)
    else .ok (.int (Integer.withSign numeral.negative (Nat.ofDigitChars 10 numeral.whole 0)))
  else
    let fraction := numeral.fraction?.getD []
    let digits := Nat.ofDigitChars 10 (numeral.whole ++ fraction) 0
    .ok (.float (.ofDecimal numeral.negative digits (numeral.exponent?.getD 0 - fraction.length)))

/-- Reads a number. -/
def readNumber (cursor : Cursor) : Except ReadError (Value × Cursor) :=
  let (numeral, count) := numeral cursor.rest
  if numeral.whole.isEmpty then fail .value cursor.position
  else numeral.value.map (·, cursor.advance count)

/-- The literals that are written as words. -/
def words : List (List Char × Value) :=
  [("null".toList, .null), ("true".toList, .bool true), ("false".toList, .bool false),
    ("NaN".toList, .float .notANumber), ("Infinity".toList, .float (.infinite false)),
    ("-Infinity".toList, .float (.infinite true))]

/-- Reads a word or a number. -/
def readScalar (cursor : Cursor) : Except ReadError (Value × Cursor) :=
  match words.find? fun (word, _) => word.isPrefixOf cursor.rest with
  | some (word, value) => .ok (value, cursor.advance word.length)
  | none => readNumber cursor

theorem Cursor.length_advance_lt {cursor : Cursor} {count : Nat} (some : cursor.rest ≠ [])
    (positive : 0 < count) : (cursor.advance count).rest.length < cursor.rest.length := by
  have := List.length_pos_iff.mpr some
  simp only [advance, List.length_drop]
  omega

theorem length_readScalar_lt {cursor next : Cursor} {value : Value}
    (read : readScalar cursor = .ok (value, next)) :
    next.rest.length < cursor.rest.length := by
  unfold readScalar at read
  split at read
  · rename_i word found isWord
    have found := List.find?_some isWord
    have inWords := List.mem_of_find?_eq_some isWord
    have wordSome : 0 < word.length := by
      simp only [words, List.mem_cons, Prod.mk.injEq, List.not_mem_nil, or_false] at inWords
      rcases inWords with ⟨rfl, -⟩ | ⟨rfl, -⟩ | ⟨rfl, -⟩ | ⟨rfl, -⟩ | ⟨rfl, -⟩ | ⟨rfl, -⟩ <;> decide
    have restSome : cursor.rest ≠ [] := by
      intro none
      rw [none] at found
      cases word <;> simp_all
    simp only [Except.ok.injEq, Prod.mk.injEq] at read
    exact read.2 ▸ Cursor.length_advance_lt restSome wordSome
  · unfold readNumber at read
    simp only at read
    split at read
    · simp [fail] at read
    · rename_i wholeSome
      cases value : (numeral cursor.rest).1.value with
      | error => simp [value, Except.map] at read
      | ok found =>
          simp only [value, Except.map, Except.ok.injEq, Prod.mk.injEq] at read
          have wholeLength : 0 < (numeral cursor.rest).1.whole.length := by
            cases whole : (numeral cursor.rest).1.whole <;> simp_all
          have restSome : cursor.rest ≠ [] := by
            intro none
            simp [none, numeral, wholeDigits, digitRun] at wholeLength
          refine read.2 ▸ Cursor.length_advance_lt restSome ?_
          simp only [numeral] at wholeLength ⊢
          omega

end Firewall.Json
