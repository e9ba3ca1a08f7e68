import Firewall.Json.Literal

/-!
# JSON texts

Reading a JSON text as a value.  The reader goes down the text once; what a value leaves is shorter
than what it found, which is why it ends.  Of two members with one key the later value counts, at
the place of the earlier.
-/

namespace Firewall.Json

/-- What is read at the front of a text of a given length, and a rest shorter than that. -/
abbrev Front (length : Nat) (α : Type) :=
  α × { next : Cursor // next.rest.length < length }

/-- The place behind the first character. -/
def Cursor.behind (cursor : Cursor) (rest : List Char) : Cursor :=
  ⟨cursor.position + 1, rest⟩

/-- Reads a string as a value or as a key; the cursor is at its opening quote, which the given
rest follows. -/
def readQuoted (cursor : Cursor) (rest : List Char) :
    Except ReadError (Front (rest.length + 1) String) :=
  match read : readString cursor.position (cursor.position + 1) [] rest with
  | .error error => .error error
  | .ok (content, next) => .ok (content, ⟨next, by have := length_readString_lt read; omega⟩)

/-- The measure of the readers: each reads a shorter rest, or one as long by a simpler reader. -/
private theorem twice_lt {first second : Nat} (shorter : first < second) :
    2 * first + 1 < 2 * second := by
  omega

mutual

/-- Reads a value. -/
def readValue (cursor : Cursor) : Except ReadError (Front cursor.rest.length Value) :=
  match shape : cursor.rest with
  | '"' :: rest => do
      let (content, next) ← readQuoted cursor rest
      return (.text content, ⟨next.1, by simpa using next.2⟩)
  | '[' :: rest =>
      let inside := (cursor.behind rest).skipGap
      have shorter : inside.rest.length ≤ rest.length := Cursor.length_skipGap_le _
      match closing : inside.rest with
      | ']' :: after =>
          .ok (.list [], ⟨inside.behind after, by
            simp only [closing, Cursor.behind, List.length_cons] at shorter ⊢; omega⟩)
      | _ => do
          let (items, next) ← readItems inside
          return (.list items, ⟨next.1, by
            have := next.2; simp only [List.length_cons]; omega⟩)
  | '\x7b' :: rest =>
      let inside := (cursor.behind rest).skipGap
      have shorter : inside.rest.length ≤ rest.length := Cursor.length_skipGap_le _
      match closing : inside.rest with
      | '\x7d' :: after =>
          .ok (.object [], ⟨inside.behind after, by
            simp only [closing, Cursor.behind, List.length_cons] at shorter ⊢; omega⟩)
      | _ => do
          let (members, next) ← readMembers [] inside
          return (.object members, ⟨next.1, by
            have := next.2; simp only [List.length_cons]; omega⟩)
  | _ =>
      match read : readScalar cursor with
      | .error error => .error error
      | .ok (value, next) => .ok (value, ⟨next, shape ▸ length_readScalar_lt read⟩)
termination_by 2 * cursor.rest.length
decreasing_by
  all_goals
    apply twice_lt
    rw [shape]
    exact Nat.lt_succ_of_le shorter

/-- Reads the items of a list up to its closing bracket. -/
def readItems (cursor : Cursor) :
    Except ReadError (Front cursor.rest.length (List Value)) := do
  let (item, next) ← readValue cursor
  let delimiter := next.1.skipGap
  have shorter : delimiter.rest.length < cursor.rest.length :=
    Nat.lt_of_le_of_lt (Cursor.length_skipGap_le _) next.2
  match shape : delimiter.rest with
  | ']' :: rest =>
      return ([item], ⟨delimiter.behind rest, by
        simp only [shape, Cursor.behind, List.length_cons] at shorter ⊢; omega⟩)
  | ',' :: rest =>
      let start := (delimiter.behind rest).skipGap
      have startShorter : start.rest.length < cursor.rest.length := by
        have := Cursor.length_skipGap_le (delimiter.behind rest)
        simp only [shape, Cursor.behind, List.length_cons, start] at shorter this ⊢
        omega
      let (items, last) ← readItems start
      return (item :: items, ⟨last.1, Nat.lt_trans last.2 startShorter⟩)
  | _ => fail .comma delimiter.position
termination_by 2 * cursor.rest.length + 1
decreasing_by
  · exact Nat.lt_succ_self _
  · exact Nat.lt_succ_of_lt (twice_lt startShorter)

/-- Reads the members of an object up to its closing brace, after those read before. -/
def readMembers (earlier : List (String × Value)) (cursor : Cursor) :
    Except ReadError (Front cursor.rest.length (List (String × Value))) :=
  match keyShape : cursor.rest with
  | '"' :: keyRest => do
      let (key, behindKey) ← readQuoted cursor keyRest
      let colon := behindKey.1.skipGap
      have colonShorter : colon.rest.length < keyRest.length + 1 :=
        Nat.lt_of_le_of_lt (Cursor.length_skipGap_le _) behindKey.2
      match colonShape : colon.rest with
      | ':' :: valueRest =>
          let start := (colon.behind valueRest).skipGap
          have startShorter : start.rest.length < cursor.rest.length := by
            have := Cursor.length_skipGap_le (colon.behind valueRest)
            simp only [keyShape, colonShape, Cursor.behind, List.length_cons, start]
              at colonShorter this ⊢
            omega
          let (value, next) ← readValue start
          let members := putEntry key value earlier
          let delimiter := next.1.skipGap
          have shorter : delimiter.rest.length < cursor.rest.length :=
            Nat.lt_of_le_of_lt (Cursor.length_skipGap_le _) (Nat.lt_trans next.2 startShorter)
          match shape : delimiter.rest with
          | '\x7d' :: rest =>
              return (members, ⟨delimiter.behind rest, by
                simp only [keyShape, shape, Cursor.behind, List.length_cons] at shorter ⊢; omega⟩)
          | ',' :: rest =>
              let again := (delimiter.behind rest).skipGap
              have againShorter : again.rest.length < cursor.rest.length := by
                have := Cursor.length_skipGap_le (delimiter.behind rest)
                simp only [shape, Cursor.behind, List.length_cons, again] at shorter this ⊢
                omega
              let (all, last) ← readMembers members again
              return (all, ⟨last.1, by
                have := last.2; simp only [keyShape, List.length_cons] at againShorter ⊢; omega⟩)
          | _ => fail .comma delimiter.position
      | _ => fail .colon colon.position
  | _ => fail .key cursor.position
termination_by 2 * cursor.rest.length + 1
decreasing_by
  · exact Nat.lt_of_succ_lt (Nat.lt_succ_of_lt (twice_lt startShorter))
  · exact Nat.lt_succ_of_lt (twice_lt againShorter)

end

/-- Reads a text that holds one value and nothing else. -/
def read (text : List Char) : Except ReadError Value := do
  if text.head? = some '\uFEFF' then fail .byteOrderMark 0
  let (value, next) ← readValue (Cursor.mk 0 text).skipGap
  let stop := next.1.skipGap
  if stop.rest.isEmpty then return value else fail .extraData stop.position

end Firewall.Json
