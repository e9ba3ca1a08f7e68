import Firewall.Proofs.Address.Trimming

/-!
# Rendered addresses

What is written of an address can be read, also by the reader that cuts blanks: nothing is cut from
a text that starts and ends with characters of an address.  The whole text is read as the address
itself, and the text of a rule as the address without its zone.  So the text of a rule says
everything else about an address, its host bits and its prefix length included
(`Address.readsBack`).
-/

namespace Firewall.Address

open Text

/-- The zone of an address; only an IPv6 address can have one. -/
def zone? : Address → Option Zone
  | .v4 .. => none
  | .v6 _ zone _ => zone

theorem withoutZone_eq_self_iff {address : Address} :
    address.withoutZone = address ↔ address.zone? = none := by
  cases address <;> simp [withoutZone, zone?, eq_comm]

theorem prefixLength_le_width (address : Address) : address.prefixLength ≤ address.width := by
  cases address with
  | v4 value length => exact Nat.le_of_lt_succ length.isLt
  | v6 value zone length => exact Nat.le_of_lt_succ length.isLt

/-- A prefix length is shown exactly if it is shorter than the address. -/
theorem slash_mem_text_iff (address : Address) :
    '/' ∈ address.text.toList ↔ address.prefixLength < address.width := by
  rw [text]
  split
  case isTrue host =>
    have full : address.prefixLength = address.width := by simpa [isHost] using host
    have noSlash : '/' ∉ address.ipChars := notMem_ipChars (by decide)
    simp [ipText, full, noSlash]
  case isFalse network =>
    have differ : address.prefixLength ≠ address.width := by simpa [isHost] using network
    have shorter := Nat.lt_of_le_of_ne address.prefixLength_le_width differ
    simp [prefixedText, prefixChars, shorter]

/-! ## Nothing is cut -/

theorem ipChars_ne_nil (address : Address) : address.ipChars ≠ [] := by
  cases address with
  | v4 value length => simp [ipChars, chars4, digitsOf, joinWith_cons_cons]
  | v6 value zone length => exact List.ne_nil_of_mem (colon_mem_chars6 value)

theorem isBlank_of_mem_ipChars {address : Address} :
    ∀ character ∈ address.ipChars, isBlank character = false :=
  fun _ member => isBlank_of_isIpChar (isIpChar_of_mem_ipChars member)

theorem trim_text (address : Address) : trim isBlank address.text.toList = address.text.toList := by
  apply trim_of_outside
  intro character member
  rcases mem_text member with inAddress | rfl | digit
  · exact isBlank_of_mem_ipChars character inAddress
  · decide
  · exact isBlank_of_isIpChar (isIpChar_of_isDigit digit)

/-- A zone can have blanks in it, but it stands between the address and the prefix length. -/
theorem trim_interfaceText (address : Address) :
    trim isBlank address.interfaceText.toList = address.interfaceText.toList := by
  have digits : Nat.toDigits 10 address.prefixLength ≠ [] := Nat.toDigits_ne_nil
  rw [interfaceText, String.toList_ofList, List.append_assoc]
  apply trim_of_last address.ipChars_ne_nil isBlank_of_mem_ipChars
  intro last isLast
  rw [prefixChars, List.append_cons, List.getLast?_append_of_ne_nil _ digits] at isLast
  exact isBlank_of_isIpChar
    (isIpChar_of_isDigit (isDigit_of_mem_octet (List.mem_of_getLast? isLast)))

/-! ## Round trips -/

theorem read_of_parse? {text : String} {address : Address}
    (whole : trim isBlank text.toList = text.toList) (parsed : parse? text.toList = some address) :
    read text = .ok address := by
  simp only [read, whole, parsed]

theorem read_interfaceText (address : Address) : read address.interfaceText = .ok address :=
  read_of_parse? (trim_interfaceText address) (parse?_interfaceText address)

theorem read_text (address : Address) : read address.text = .ok address.withoutZone :=
  read_of_parse? (trim_text address) (parse?_text address)

/-- The text of a rule leaves out the zone and nothing else. -/
theorem text_eq_text_iff {first second : Address} :
    first.text = second.text ↔ first.withoutZone = second.withoutZone := by
  constructor
  · intro same
    have read := read_text first
    rw [same, read_text second] at read
    exact (Except.ok.inj read).symm
  · intro same
    rw [← text_withoutZone first, same, text_withoutZone]

/-- What can be read of the texts of an address. -/
structure ReadsBack (address : Address) : Prop where
  whole : read address.interfaceText = .ok address
  /-- The text of a rule leaves out the zone, but no host bits. -/
  shown : read address.text = .ok address.withoutZone
  unzoned : address.zone? = none → read address.text = .ok address
  prefixed : '/' ∈ address.text.toList ↔ address.prefixLength < address.width
  distinct : ∀ other : Address, address.text = other.text ↔
    address.withoutZone = other.withoutZone
  single : ∀ other : Address, address.zone? = none → other.zone? = none →
    address.text = other.text → address = other

/-- Every address reads back, whatever text it was read from: a mask that was written out or groups
that were not shortened make no difference. -/
theorem readsBack (address : Address) : address.ReadsBack where
  whole := read_interfaceText address
  shown := read_text address
  unzoned := by
    intro unzoned
    rw [read_text, withoutZone_eq_self_iff.mpr unzoned]
  prefixed := slash_mem_text_iff address
  distinct := fun _ => text_eq_text_iff
  single := by
    intro other unzoned otherUnzoned same
    have both := text_eq_text_iff.mp same
    rwa [withoutZone_eq_self_iff.mpr unzoned, withoutZone_eq_self_iff.mpr otherUnzoned] at both

end Firewall.Address
