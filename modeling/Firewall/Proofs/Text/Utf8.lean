import Firewall.Text.Utf8
import Mathlib.Data.List.Basic

/-!
# Bytes that are a text

The strict reader takes exactly the UTF-8 form of a text, and gives back that text
(`decode_eq_ok_iff`).  What the reader does with one character is said by `step_eq_ok_iff`; the
limits of the second byte leave out just what is no character.
-/

namespace Firewall.Text.Utf8

/-! ## First bytes -/

theorem lead?_of_one {byte : Nat} (bound : byte < 0x80) :
    lead? byte = some ⟨byte, 0, 0x80, 0xBF⟩ := by
  rw [lead?, if_pos bound]

theorem lead?_of_two {byte : Nat} (least : 0xC2 ≤ byte) (bound : byte < 0xE0) :
    lead? byte = some ⟨byte - 0xC0, 1, 0x80, 0xBF⟩ := by
  rw [lead?, if_neg (by omega), if_neg (by omega), if_pos bound]

/-- The least second byte of three leaves out overlong sequences, the greatest one surrogates. -/
theorem lead?_of_three {byte : Nat} (least : 0xE0 ≤ byte) (bound : byte < 0xF0) :
    lead? byte = some ⟨byte - 0xE0, 2, if byte = 0xE0 then 0xA0 else 0x80,
      if byte = 0xED then 0x9F else 0xBF⟩ := by
  rw [lead?, if_neg (by omega), if_neg (by omega), if_neg (by omega)]
  by_cases first : byte = 0xE0
  · simp [first]
  · by_cases surrogates : byte = 0xED
    · simp [surrogates]
    · simp [first, surrogates, bound]

/-- The least second byte of four leaves out overlong sequences, the greatest one what is above
the last code point. -/
theorem lead?_of_four {byte : Nat} (least : 0xF0 ≤ byte) (bound : byte < 0xF5) :
    lead? byte = some ⟨byte - 0xF0, 3, if byte = 0xF0 then 0x90 else 0x80,
      if byte = 0xF4 then 0x8F else 0xBF⟩ := by
  rw [lead?, if_neg (by omega), if_neg (by omega), if_neg (by omega), if_neg (by omega),
    if_neg (by omega), if_neg (by omega)]
  by_cases first : byte = 0xF0
  · simp [first]
  · by_cases last : byte = 0xF4
    · simp [last]
    · simp [first, last, show byte < 0xF4 by omega]

/-- Any other byte is the first of no character. -/
theorem lead?_bounds {byte : Nat} {lead : Lead} (isLead : lead? byte = some lead) :
    byte < 0x80 ∨ 0xC2 ≤ byte ∧ byte < 0xF5 := by
  by_contra other
  rw [lead?, if_neg (by omega)] at isLead
  by_cases continuation : byte < 0xC2
  · rw [if_pos continuation] at isLead
    contradiction
  · repeat rw [if_neg (by omega)] at isLead
    contradiction

/-! ## One character -/

theorem follow_succ_eq_ok_iff {code seen low high count result : Nat} {rest : List UInt8} :
    follow code seen low high (count + 1) rest = .ok result ↔
      ∃ next back, rest = next :: back ∧ (low ≤ next.toNat ∧ next.toNat ≤ high) ∧
        follow (code * 64 + (next.toNat - 0x80)) (seen + 1) 0x80 0xBF count back = .ok result := by
  cases rest with
  | nil => simp [follow]
  | cons next back =>
      rw [follow]
      by_cases inside : low ≤ next.toNat ∧ next.toNat ≤ high
      · simp [inside]
      · simp only [if_neg inside, List.cons.injEq, reduceCtorEq, false_iff]
        rintro ⟨_, _, ⟨rfl, rfl⟩, isInside, -⟩
        exact inside isInside

theorem follow_zero_eq_ok_iff {code seen low high result : Nat} {rest : List UInt8} :
    follow code seen low high 0 rest = .ok result ↔ code = result := by
  rw [follow, Except.ok.injEq]

section Step

variable {byte : UInt8} {rest : List UInt8} {code following : Nat}

theorem step_eq_ok_iff_of_lead {payload count low high : Nat}
    (isLead : lead? byte.toNat = some ⟨payload, count, low, high⟩) :
    step byte rest = .ok (code, following) ↔
      follow payload 1 low high count rest = .ok code ∧ count = following := by
  rw [step, isLead]
  dsimp only
  cases follow payload 1 low high count rest <;> simp [Except.map]

theorem step_of_one (bound : byte.toNat < 0x80) :
    step byte rest = .ok (code, following) ↔ byte.toNat = code ∧ 0 = following := by
  rw [step_eq_ok_iff_of_lead (lead?_of_one bound), follow_zero_eq_ok_iff]

theorem step_of_two (least : 0xC2 ≤ byte.toNat) (bound : byte.toNat < 0xE0) :
    step byte rest = .ok (code, following) ↔
      (∃ second back, rest = second :: back ∧ (0x80 ≤ second.toNat ∧ second.toNat ≤ 0xBF) ∧
        (byte.toNat - 0xC0) * 64 + (second.toNat - 0x80) = code) ∧ 1 = following := by
  simp only [step_eq_ok_iff_of_lead (lead?_of_two least bound), follow_succ_eq_ok_iff,
    follow_zero_eq_ok_iff]

/-- The limits of a second byte, which narrow after two of the first bytes. -/
theorem limits_iff {byte second first last low high : Nat} (least : 0x80 ≤ low)
    (greatest : high ≤ 0xBF) :
    ((if byte = first then low else 0x80) ≤ second ∧
        second ≤ if byte = last then high else 0xBF) ↔
      (0x80 ≤ second ∧ second ≤ 0xBF) ∧ (byte = first → low ≤ second) ∧
        (byte = last → second ≤ high) := by
  split <;> split <;> omega

theorem step_of_three (least : 0xE0 ≤ byte.toNat) (bound : byte.toNat < 0xF0) :
    step byte rest = .ok (code, following) ↔
      (∃ second third back, rest = second :: third :: back ∧
        ((0x80 ≤ second.toNat ∧ second.toNat ≤ 0xBF) ∧
          (byte.toNat = 0xE0 → 0xA0 ≤ second.toNat) ∧
          (byte.toNat = 0xED → second.toNat ≤ 0x9F)) ∧
        (0x80 ≤ third.toNat ∧ third.toNat ≤ 0xBF) ∧
        ((byte.toNat - 0xE0) * 64 + (second.toNat - 0x80)) * 64 + (third.toNat - 0x80) = code) ∧
      2 = following := by
  simp only [step_eq_ok_iff_of_lead (lead?_of_three least bound), follow_succ_eq_ok_iff,
    follow_zero_eq_ok_iff, limits_iff (show 0x80 ≤ 0xA0 by decide) (show 0x9F ≤ 0xBF by decide)]
  constructor
  · rintro ⟨⟨second, _, rfl, secondInside, third, back, rfl, thirdInside, isCode⟩, isCount⟩
    exact ⟨⟨second, third, back, rfl, secondInside, thirdInside, isCode⟩, isCount⟩
  · rintro ⟨⟨second, third, back, rfl, secondInside, thirdInside, isCode⟩, isCount⟩
    exact ⟨⟨second, _, rfl, secondInside, third, back, rfl, thirdInside, isCode⟩, isCount⟩

theorem step_of_four (least : 0xF0 ≤ byte.toNat) (bound : byte.toNat < 0xF5) :
    step byte rest = .ok (code, following) ↔
      (∃ second third fourth back, rest = second :: third :: fourth :: back ∧
        ((0x80 ≤ second.toNat ∧ second.toNat ≤ 0xBF) ∧
          (byte.toNat = 0xF0 → 0x90 ≤ second.toNat) ∧
          (byte.toNat = 0xF4 → second.toNat ≤ 0x8F)) ∧
        (0x80 ≤ third.toNat ∧ third.toNat ≤ 0xBF) ∧
        (0x80 ≤ fourth.toNat ∧ fourth.toNat ≤ 0xBF) ∧
        (((byte.toNat - 0xF0) * 64 + (second.toNat - 0x80)) * 64 + (third.toNat - 0x80)) * 64
          + (fourth.toNat - 0x80) = code) ∧
      3 = following := by
  simp only [step_eq_ok_iff_of_lead (lead?_of_four least bound), follow_succ_eq_ok_iff,
    follow_zero_eq_ok_iff, limits_iff (show 0x80 ≤ 0x90 by decide) (show 0x8F ≤ 0xBF by decide)]
  constructor
  · rintro ⟨⟨second, _, rfl, secondInside, third, _, rfl, thirdInside, fourth, back, rfl,
      fourthInside, isCode⟩, isCount⟩
    exact ⟨⟨second, third, fourth, back, rfl, secondInside, thirdInside, fourthInside, isCode⟩,
      isCount⟩
  · rintro ⟨⟨second, third, fourth, back, rfl, secondInside, thirdInside, fourthInside, isCode⟩,
      isCount⟩
    exact ⟨⟨second, _, rfl, secondInside, third, _, rfl, thirdInside, fourth, back, rfl,
      fourthInside, isCode⟩, isCount⟩

end Step

theorem utf8EncodeChar_eq (character : Char) :
    String.utf8EncodeChar character =
      if character.toNat ≤ 0x7F then [.ofNat character.toNat]
      else if character.toNat ≤ 0x7FF then
        [.ofNat (character.toNat / 64 % 0x20 + 0xC0), .ofNat (character.toNat % 64 + 0x80)]
      else if character.toNat ≤ 0xFFFF then
        [.ofNat (character.toNat / 4096 % 16 + 0xE0), .ofNat (character.toNat / 64 % 64 + 0x80),
          .ofNat (character.toNat % 64 + 0x80)]
      else
        [.ofNat (character.toNat / 262144 % 8 + 0xF0),
          .ofNat (character.toNat / 4096 % 64 + 0x80), .ofNat (character.toNat / 64 % 64 + 0x80),
          .ofNat (character.toNat % 64 + 0x80)] :=
  rfl

theorem toNat_byte {number : Nat} (bound : number < 256) : (UInt8.ofNat number).toNat = number :=
  UInt8.toNat_ofNat_of_lt' bound

theorem ofNat_eq_iff {number : Nat} {byte : UInt8} (bound : number < 256) :
    UInt8.ofNat number = byte ↔ number = byte.toNat := by
  rw [← UInt8.toNat_inj, toNat_byte bound]

/-- What is read as one character is the UTF-8 form of that character. -/
theorem encode_of_step {byte : UInt8} {rest : List UInt8} {code following : Nat}
    (read : step byte rest = .ok (code, following)) :
    byte :: rest = String.utf8EncodeChar (Char.ofNat code) ++ rest.drop following := by
  have known : ∃ lead, lead? byte.toNat = some lead := by
    cases isLead : lead? byte.toNat with
    | none => simp [step, isLead] at read
    | some lead => exact ⟨lead, rfl⟩
  have bounds := lead?_bounds known.choose_spec
  have isCode (valid : code.isValidChar) : (Char.ofNat code).toNat = code := by
    rw [Char.ofNat, dif_pos valid]
    rfl
  rw [utf8EncodeChar_eq]
  rcases Nat.lt_or_ge byte.toNat 0x80 with one | more
  · rw [step_of_one one] at read
    obtain ⟨rfl, rfl⟩ := read
    rw [isCode (.inl (by omega)), if_pos (by omega), UInt8.ofNat_toNat]
    rfl
  rcases Nat.lt_or_ge byte.toNat 0xE0 with two | more
  · rw [step_of_two (by omega) two] at read
    obtain ⟨⟨second, back, rfl, secondInside, isRead⟩, rfl⟩ := read
    rw [isCode (.inl (by omega)), if_neg (by omega), if_pos (by omega)]
    simp only [List.cons_append, List.nil_append, List.drop_one, List.tail_cons, List.cons.injEq,
      and_true]
    constructor <;> rw [eq_comm, ofNat_eq_iff (by omega)] <;> omega
  rcases Nat.lt_or_ge byte.toNat 0xF0 with three | more
  · rw [step_of_three more three] at read
    obtain ⟨⟨second, third, back, rfl, secondInside, thirdInside, isRead⟩, rfl⟩ := read
    have valid : code.isValidChar := by
      simp only [Nat.isValidChar]
      omega
    rw [isCode valid, if_neg (by omega), if_neg (by omega), if_pos (by omega)]
    simp only [List.cons_append, List.nil_append, List.drop_succ_cons, List.drop_zero,
      List.cons.injEq, and_true]
    refine ⟨?_, ?_, ?_⟩ <;> rw [eq_comm, ofNat_eq_iff (by omega)] <;> omega
  · rw [step_of_four more (by omega)] at read
    obtain ⟨⟨second, third, fourth, back, rfl, secondInside, thirdInside, fourthInside, isRead⟩,
      rfl⟩ := read
    have valid : code.isValidChar := by
      simp only [Nat.isValidChar]
      omega
    rw [isCode valid, if_neg (by omega), if_neg (by omega), if_neg (by omega)]
    simp only [List.cons_append, List.nil_append, List.drop_succ_cons, List.drop_zero,
      List.cons.injEq, and_true]
    refine ⟨?_, ?_, ?_, ?_⟩ <;> rw [eq_comm, ofNat_eq_iff (by omega)] <;> omega

/-- The UTF-8 form of a character is read as that character, whatever follows. -/
theorem step_encode (character : Char) (rest : List UInt8) :
    ∃ byte tail, String.utf8EncodeChar character = byte :: tail ∧
      step byte (tail ++ rest) = .ok (character.toNat, tail.length) := by
  have valid : character.toNat.isValidChar := character.valid
  simp only [Nat.isValidChar] at valid
  rw [utf8EncodeChar_eq]
  generalize character.toNat = code at valid
  split
  case isTrue one =>
    have lead : (UInt8.ofNat code).toNat = code := toNat_byte (by omega)
    refine ⟨_, _, rfl, (step_of_one (by omega)).mpr ⟨lead, rfl⟩⟩
  split
  case isTrue two =>
    have lead := @toNat_byte (code / 64 % 0x20 + 0xC0) (by omega)
    have second := @toNat_byte (code % 64 + 0x80) (by omega)
    refine ⟨_, _, rfl, (step_of_two (by omega) (by omega)).mpr ⟨⟨_, _, rfl, ?_, ?_⟩, rfl⟩⟩
    all_goals omega
  split
  case isTrue three =>
    have lead := @toNat_byte (code / 4096 % 16 + 0xE0) (by omega)
    have second := @toNat_byte (code / 64 % 64 + 0x80) (by omega)
    have third := @toNat_byte (code % 64 + 0x80) (by omega)
    refine ⟨_, _, rfl, (step_of_three (by omega) (by omega)).mpr
      ⟨⟨_, _, _, rfl, ?_, ?_, ?_⟩, rfl⟩⟩
    all_goals omega
  case isFalse four =>
    have lead := @toNat_byte (code / 262144 % 8 + 0xF0) (by omega)
    have second := @toNat_byte (code / 4096 % 64 + 0x80) (by omega)
    have third := @toNat_byte (code / 64 % 64 + 0x80) (by omega)
    have fourth := @toNat_byte (code % 64 + 0x80) (by omega)
    refine ⟨_, _, rfl, (step_of_four (by omega) (by omega)).mpr
      ⟨⟨_, _, _, _, rfl, ?_, ?_, ?_, ?_⟩, rfl⟩⟩
    all_goals omega

/-! ## A whole text -/

/-- The bytes of a text begin with those of its first character. -/
theorem step_of_flatMap {byte : UInt8} {rest : List UInt8} {text : List Char}
    (isText : byte :: rest = text.flatMap String.utf8EncodeChar) :
    ∃ character tail following, text = character :: tail ∧
      step byte rest = .ok (character.toNat, following) ∧
      rest.drop following = tail.flatMap String.utf8EncodeChar := by
  cases text with
  | nil => contradiction
  | cons character tail =>
      obtain ⟨first, behind, isFirst, read⟩ :=
        step_encode character (tail.flatMap String.utf8EncodeChar)
      rw [List.flatMap_cons, isFirst, List.cons_append] at isText
      obtain ⟨rfl, rfl⟩ := List.cons.inj isText
      exact ⟨character, tail, behind.length, rfl, read, List.drop_left⟩

theorem decodeFrom_eq_ok_iff {position : Nat} {bytes : List UInt8} {text : List Char} :
    decodeFrom position bytes = .ok text ↔ bytes = text.flatMap String.utf8EncodeChar := by
  fun_induction decodeFrom position bytes generalizing text with
  | case1 position =>
      constructor
      · rintro ⟨⟩
        rfl
      · intro isText
        cases text with
        | nil => rfl
        | cons character tail =>
            obtain ⟨first, behind, isFirst, -⟩ := step_encode character []
            simp [List.flatMap_cons, isFirst] at isText
  | case2 position byte rest code following read ih =>
      constructor
      · intro mapped
        cases decoded : decodeFrom (position + 1 + following) (rest.drop following) with
        | error fault =>
            rw [decoded] at mapped
            contradiction
        | ok tail =>
            rw [decoded] at mapped
            cases mapped
            rw [List.flatMap_cons, ← ih.mp decoded]
            exact encode_of_step read
      · intro isText
        obtain ⟨character, tail, count, rfl, isRead, behind⟩ := step_of_flatMap isText
        obtain ⟨rfl, rfl⟩ := Prod.mk.inj (Except.ok.inj (isRead.symm.trans read))
        rw [ih.mpr behind, Char.ofNat_toNat]
        rfl
  | case3 position byte rest width reason read =>
      constructor
      · exact nofun
      · intro isText
        obtain ⟨character, tail, count, -, isRead, -⟩ := step_of_flatMap isText
        rw [isRead] at read
        contradiction

/-- The reader takes the UTF-8 form of a text, and nothing else. -/
theorem decode_eq_ok_iff {bytes : List UInt8} {text : List Char} :
    decode bytes = .ok text ↔ bytes = text.flatMap String.utf8EncodeChar :=
  decodeFrom_eq_ok_iff

end Firewall.Text.Utf8
