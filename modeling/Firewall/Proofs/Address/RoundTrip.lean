import Firewall.Proofs.Address.Groups

/-!
# Addresses read back

The whole text of an address is read as that address, and the text that stands in a rule is read as
the address without its zone.
-/

namespace Firewall.Address

open Text

/-! ## Characters -/

theorem mem_joinGroups {groups : List Nat} {character : Char}
    (member : character ∈ joinGroups groups) :
    character = ':' ∨ (hexDigitValue? character).isSome = true := by
  rcases mem_joinWith member with colon | ⟨part, isPart, inside⟩
  · exact .inl colon
  · obtain ⟨group, _, rfl⟩ := List.mem_map.mp isPart
    exact .inr (hexDigitValue?_isSome_of_mem_toDigits inside)

theorem mem_chars6 {value : BitVec 128} {character : Char} (member : character ∈ chars6 value) :
    character = ':' ∨ (hexDigitValue? character).isSome = true := by
  rw [chars6, compressed] at member
  dsimp only at member
  split at member
  · rw [List.mem_append, List.mem_cons, List.mem_cons] at member
    rcases member with high | colon | colon | low
    · exact mem_joinGroups high
    · exact .inl colon
    · exact .inl colon
    · exact mem_joinGroups low
  · exact mem_joinGroups member

theorem colon_mem_chars6 (value : BitVec 128) : ':' ∈ chars6 value := by
  rw [chars6, compressed]
  dsimp only
  split
  · simp
  · simp [digitsOf, joinGroups_cons_cons]

/-- The characters that an address without zone and prefix length may have in it. -/
def isIpChar (character : Char) : Bool :=
  (hexDigitValue? character).isSome || character == '.' || character == ':'

theorem isIpChar_of_isDigit {character : Char} (digit : character.isDigit = true) :
    isIpChar character = true := by
  have range : '0' ≤ character ∧ character ≤ '9' := by
    simpa [Char.isDigit, Char.le_def] using digit
  simp [isIpChar, hexDigitValue?, range]

theorem toNat_of_isIpChar {character : Char} (inAddress : isIpChar character = true) :
    character.toNat = 46 ∨ character.toNat = 58 ∨
      (48 ≤ character.toNat ∧ character.toNat ≤ 57) ∨
      (97 ≤ character.toNat ∧ character.toNat ≤ 102) ∨
      (65 ≤ character.toNat ∧ character.toNat ≤ 70) := by
  rw [isIpChar, Bool.or_eq_true, Bool.or_eq_true, beq_iff_eq, beq_iff_eq] at inAddress
  rcases inAddress with (digit | rfl) | rfl
  · rw [hexDigitValue?] at digit
    simp only [Char.le_def, UInt32.le_iff_toNat_le] at digit
    split at digit
    · rename_i range
      exact .inr (.inr (.inl range))
    · split at digit
      · rename_i range
        exact .inr (.inr (.inr (.inl range)))
      · split at digit
        · rename_i range
          exact .inr (.inr (.inr (.inr range)))
        · contradiction
  · exact .inl rfl
  · exact .inr (.inl rfl)

theorem isIpChar_of_mem_ipChars {address : Address} {character : Char}
    (member : character ∈ address.ipChars) : isIpChar character = true := by
  cases address with
  | v4 value length =>
      rcases mem_chars4 member with point | digit
      · simp [isIpChar, point]
      · exact isIpChar_of_isDigit digit
  | v6 value zone length =>
      rcases mem_chars6 member with colon | digit
      · simp [isIpChar, colon]
      · simp [isIpChar, digit]

theorem notMem_ipChars {address : Address} {character : Char} (other : isIpChar character = false) :
    character ∉ address.ipChars := by
  intro member
  exact Bool.eq_false_iff.mp other (isIpChar_of_mem_ipChars member)

/-! ## Values -/

theorem value6?_chars6 (value : BitVec 128) : value6? (chars6 value) = some value := by
  have groups : allGroups? (chars6 value) = some (digitsOf 65536 8 value.toNat) :=
    allGroups?_compressed (length_digitsOf _ _ _) fun _ => lt_of_mem_digitsOf (by decide)
  have number : numberOf 65536 (digitsOf 65536 8 value.toNat) = value.toNat :=
    numberOf_digitsOf value.isLt
  simp [value6?, groups, number]

theorem prefixLength?_toDigits {limit : Nat} (few : limit < 1000) (length : Fin (limit + 1)) :
    prefixLength? limit (Nat.toDigits 10 length.val) = some length := by
  have threeDigits : (Nat.toDigits 10 length.val).length ≤ 3 :=
    (Nat.length_toDigits_le_iff (by decide) (by decide)).mpr
      (Nat.lt_of_le_of_lt (Nat.le_of_lt_succ length.isLt) few)
  have bounds : length.val < limit + 1 ∧
      (Nat.toDigits 10 length.val).length ≤ Integer.digitLimit :=
    ⟨length.isLt, Nat.le_trans threeDigits (by decide)⟩
  rw [prefixLength?, natural?_toDigits]
  exact dif_pos bounds

/-! ## Zones -/

theorem notMem_zone (zone : Zone) : '%' ∉ zone.name.toList ∧ '/' ∉ zone.name.toList := by
  have valid := zone.valid
  simp only [Zone.isName, Bool.and_eq_true, Bool.not_eq_true', ← Bool.not_eq_true,
    List.contains_iff_mem] at valid
  exact ⟨valid.1.2, valid.2⟩

/-- Whatever zone follows the groups, value and zone are read back. -/
theorem zoned?_chars (value : BitVec 128) (zone : Option Zone) (length : Fin 129) :
    zoned? (chars6 value ++ zoneChars (.v6 value zone length)) = some (value, zone) := by
  have absent : '%' ∉ chars6 value :=
    @notMem_ipChars (.v6 value zone length) _ (by decide)
  cases zone with
  | none =>
      have start := before_of_notMem absent
      have behind := dropWhile_of_notMem absent
      have noZone : zoneChars (.v6 value none length) = [] := rfl
      rw [zoned?, noZone, List.append_nil, start, value6?_chars6, behind]
      rfl
  | some zone =>
      have name : Zone.ofName? zone.name = some zone := dif_pos zone.valid
      have start := before_append_cons absent zone.name.toList
      have behind := dropWhile_append_cons absent zone.name.toList
      rw [zoned?, zoneChars, start, value6?_chars6, behind]
      simp [name]

/-! ## Whole texts -/

theorem parse6?_chars (value : BitVec 128) (zone : Option Zone) (length : Fin 129) :
    parse6? (chars6 value ++ zoneChars (.v6 value zone length))
      (some (Nat.toDigits 10 length.val)) = some (.v6 value zone length) := by
  rw [parse6?, zoned?_chars]
  simp [prefixLength?_toDigits (by decide : 128 < 1000) length]

theorem parse4?_chars (value : BitVec 32) (length : Fin 33) :
    parse4? (chars4 value) (some (Nat.toDigits 10 length.val)) = some (.v4 value length) := by
  rw [parse4?, value4?_chars4]
  simp [prefixLength?_toDigits (by decide : 32 < 1000) length]

/-- What holds a colon is read as an IPv6 address or not at all. -/
theorem parse4?_eq_none_of_colon {text : List Char} (colon : ':' ∈ text)
    (mask : Option (List Char)) : parse4? text mask = none := by
  rw [parse4?, value4?_eq_none_of_mem (by decide) (by decide) colon]
  rfl

/-- An address is read back from its text with zone and prefix length. -/
theorem parse?_interfaceText (address : Address) :
    parse? address.interfaceText.toList = some address := by
  have noSlash : '/' ∉ address.ipChars ++ address.zoneChars := by
    rw [List.mem_append]
    rintro (inside | inside)
    · exact notMem_ipChars (by decide) inside
    · cases address with
      | v4 value length => contradiction
      | v6 value zone length =>
          cases zone with
          | none => contradiction
          | some zone =>
              rcases List.mem_cons.mp inside with different | inName
              · exact absurd different (by decide)
              · exact (notMem_zone zone).2 inName
  have noSlashLength : '/' ∉ Nat.toDigits 10 address.prefixLength := by
    intro slash
    exact absurd (isDigit_of_mem_octet slash) (by decide)
  have fields : Text.fields '/' address.interfaceText.toList =
      [address.ipChars ++ address.zoneChars, Nat.toDigits 10 address.prefixLength] := by
    rw [interfaceText, String.toList_ofList, prefixChars, fields_append_cons noSlash,
      fields_of_notMem noSlashLength]
  rw [parse?, fields]
  cases address with
  | v4 value length =>
      have read := parse4?_chars value length
      simp [ipChars, zoneChars, prefixLength, read]
  | v6 value zone length =>
      have read := parse6?_chars value zone length
      have colon : ':' ∈ chars6 value ++ zoneChars (.v6 value zone length) :=
        List.mem_append_left _ (colon_mem_chars6 value)
      simp [ipChars, prefixLength, read, parse4?_eq_none_of_colon colon]

/-- A single host is read back from its text without prefix length, except for its zone. -/
theorem parse?_ipText {address : Address} (host : address.isHost = true) :
    parse? address.ipText.toList = some address.withoutZone := by
  have noSlash : '/' ∉ address.ipChars := notMem_ipChars (by decide)
  have full : address.prefixLength = address.width := by simpa [isHost] using host
  rw [parse?, ipText, String.toList_ofList, fields_of_notMem noSlash]
  cases address with
  | v4 value length =>
      have last : length = Fin.last 32 := Fin.ext full
      simp [ipChars, parse4?, value4?_chars4, withoutZone, last]
  | v6 value zone length =>
      have last : length = Fin.last 128 := Fin.ext full
      have noZone : zoneChars (.v6 value none length) = [] := rfl
      have read := zoned?_chars value none length
      rw [noZone, List.append_nil] at read
      simp [ipChars, parse6?, read, parse4?_eq_none_of_colon (colon_mem_chars6 value), withoutZone,
        last]

/-- An address is read back from its text in a rule, except for its zone. -/
theorem parse?_text (address : Address) :
    parse? address.text.toList = some address.withoutZone := by
  rw [text]
  split
  case isTrue host => exact parse?_ipText host
  case isFalse =>
    have same : address.prefixedText = address.withoutZone.interfaceText := by
      cases address with
      | v4 value length => simp [prefixedText, interfaceText, zoneChars, withoutZone]
      | v6 value zone length =>
          simp [prefixedText, interfaceText, zoneChars, withoutZone, ipChars, prefixChars,
            prefixLength]
    rw [same]
    exact parse?_interfaceText address.withoutZone

theorem text_withoutZone (address : Address) : address.withoutZone.text = address.text := by
  cases address <;> rfl

/-! ## Characters of a text in a rule -/

theorem mem_text {address : Address} {character : Char} (member : character ∈ address.text.toList) :
    character ∈ address.ipChars ∨ character = '/' ∨ character.isDigit = true := by
  rw [text] at member
  split at member
  case isTrue =>
    rw [ipText, String.toList_ofList] at member
    exact .inl member
  case isFalse =>
    rw [prefixedText, String.toList_ofList, prefixChars, List.mem_append, List.mem_cons] at member
    exact member.imp_right (Or.imp_right isDigit_of_mem_octet)

theorem ipChars_subset_text (address : Address) : address.ipChars ⊆ address.text.toList := by
  rw [text]
  split
  · simp [ipText]
  · simp [prefixedText]

theorem notMem_text {address : Address} {character : Char} (other : isIpChar character = false)
    (noSlash : character ≠ '/') : character ∉ address.text.toList := by
  intro member
  rcases mem_text member with inAddress | slash | digit
  · exact notMem_ipChars other inAddress
  · exact noSlash slash
  · exact Bool.eq_false_iff.mp other (isIpChar_of_isDigit digit)

theorem text_v4 (value : BitVec 32) (length : Fin 33) :
    '.' ∈ (v4 value length).text.toList ∧ ':' ∉ (v4 value length).text.toList := by
  constructor
  · apply ipChars_subset_text
    simp [ipChars, chars4, digitsOf, joinWith_cons_cons]
  · intro member
    rcases mem_text member with inAddress | slash | decimal
    · rcases mem_chars4 inAddress with point | decimal
      · exact absurd point (by decide)
      · exact absurd decimal (by decide)
    · exact absurd slash (by decide)
    · exact absurd decimal (by decide)

theorem text_v6 (value : BitVec 128) (zone : Option Zone) (length : Fin 129) :
    '.' ∉ (v6 value zone length).text.toList := by
  intro member
  rcases mem_text member with inAddress | slash | decimal
  · rcases mem_chars6 inAddress with colon | hexadecimal
    · exact absurd colon (by decide)
    · exact absurd hexadecimal (by decide)
  · exact absurd slash (by decide)
  · exact absurd decimal (by decide)

end Firewall.Address
