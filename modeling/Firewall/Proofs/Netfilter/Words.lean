import Firewall.Netfilter.Line
import Firewall.Proofs.Address.RoundTrip
import Firewall.Proofs.Port

/-!
# The words of a rule

The protocol and the interfaces of a rule are written into its line as they are.  All other words
are made by the printer, of visible ASCII characters and of digits.  So a character of another kind
is in a word only if it is in one of the texts that were given (`Rule.foreign_mem_words_iff`).
-/

namespace Firewall

open Text

/-- A character of the words that the printer makes: visible ASCII, or a digit of any script. -/
def isOwnChar (character : Char) : Bool :=
  (33 ≤ character.toNat && character.toNat ≤ 126) || isRecentDecimal character

/-- A word that the printer makes. -/
def IsOwn (word : String) : Prop := ∀ character ∈ word.toList, isOwnChar character = true

instance (word : String) : Decidable (IsOwn word) := List.decidableBAll _ word.toList

/-- A word is a text, or what stands behind the exclamation mark of one. -/
def Spells (text word : String) : Prop :=
  text.toList = word.toList ∨ text.toList = '!' :: word.toList

namespace Rule

/-- The texts that a rule is given and that are written as they are. -/
def writtenTexts (rule : Rule) : List String :=
  (if rule.direction = .forwarded ∧ !rule.isNat then [rule.inbound, rule.outbound, rule.protocol]
    else [rule.interface, rule.protocol]).filterMap present

end Rule

/-! ## Addresses and ports -/

section Foreign

variable {character : Char} (foreign : isOwnChar character = false)

include foreign

theorem notMem_address_of_foreign (host : Address) : character ∉ host.text.toList := by
  simp only [isOwnChar, Bool.or_eq_false_iff, Bool.and_eq_false_iff, decide_eq_false_iff_not]
    at foreign
  apply Address.notMem_text
  · rw [Bool.eq_false_iff]
    intro inAddress
    have codes := Address.toNat_of_isIpChar inAddress
    omega
  · rintro rfl
    exact absurd foreign.1 (by decide)

theorem notMem_port_of_foreign (port : Port) : character ∉ port.text.toList := by
  simp only [isOwnChar, Bool.or_eq_false_iff, Bool.and_eq_false_iff, decide_eq_false_iff_not]
    at foreign
  apply Port.notMem_text
  · rintro rfl
    exact absurd foreign.1 (by decide)
  · exact foreign.2
  · rw [Bool.eq_false_iff]
    intro digit
    have codes := Address.toNat_of_isIpChar (Address.isIpChar_of_isDigit digit)
    omega

theorem notMem_of_isOwn {word : String} (own : IsOwn word) : character ∉ word.toList := by
  intro member
  rw [own character member] at foreign
  contradiction

end Foreign

theorem isOwn_address (host : Address) : IsOwn host.text := by
  intro character member
  cases own : isOwnChar character with
  | true => rfl
  | false => exact absurd member (notMem_address_of_foreign own host)

theorem isOwn_port (port : Port) : IsOwn port.text := by
  intro character member
  cases own : isOwnChar character with
  | true => rfl
  | false => exact absurd member (notMem_port_of_foreign own port)

theorem isOwn_append {front back : String} (frontOwn : IsOwn front) (backOwn : IsOwn back) :
    IsOwn (front ++ back) := by
  intro character member
  rw [String.toList_append, List.mem_append] at member
  exact member.elim (frontOwn character) (backOwn character)

theorem isOwn_destinationText (host : Address) (port : Option Port) :
    IsOwn (destinationText host port) := by
  have hostOwn := isOwn_address host
  have bracket : IsOwn "[" := by decide +kernel
  have closing : IsOwn "]:" := by decide +kernel
  have colon : IsOwn ":" := by decide +kernel
  cases port with
  | none => exact hostOwn
  | some port =>
      have portOwn := isOwn_port port
      rw [destinationText]
      cases host.family with
      | inet => exact isOwn_append (isOwn_append hostOwn colon) portOwn
      | inet6 =>
          exact isOwn_append (isOwn_append (isOwn_append bracket hostOwn) closing) portOwn

/-! ## Targets and interfaces -/

theorem isOwn_fixed {word : String}
    (fixed : word ∈ ["-A", "PREROUTING", "INPUT", "FORWARD", "OUTPUT", "POSTROUTING", "!", "-i",
      "-o", "-p", "-s", "--sport", "-d", "--dport", "-j", "RETURN", "REDIRECT", "--to-port", "DNAT",
      "--to-destination", "MASQUERADE", "ACCEPT", "DROP"]) : IsOwn word := by
  revert word
  decide +kernel

theorem isOwn_target {target : Target} {word : String} (member : word ∈ target.words) :
    IsOwn word := by
  cases target with
  | redirect port =>
      cases port with
      | none => exact isOwn_fixed (by simp_all [Target.words])
      | some port =>
          simp only [Target.words, List.mem_cons, List.not_mem_nil, or_false] at member
          rcases member with rfl | rfl | rfl
          · exact isOwn_fixed (by decide)
          · exact isOwn_fixed (by decide)
          · exact isOwn_port port
  | destination host port =>
      simp only [Target.words, List.mem_cons, List.not_mem_nil, or_false] at member
      rcases member with rfl | rfl | rfl
      · exact isOwn_fixed (by decide)
      · exact isOwn_fixed (by decide)
      · exact isOwn_destinationText host port
  | returning | masquerade | accept | drop => exact isOwn_fixed (by simp_all [Target.words])

theorem isOwn_endpoint {hostOption portOption : String} (hostOwn : IsOwn hostOption)
    (portOwn : IsOwn portOption) {endpoint : Rule.Endpoint} {word : String}
    (member : word ∈ Rule.endpointWords hostOption portOption endpoint) : IsOwn word := by
  simp only [Rule.endpointWords, List.mem_append, List.mem_flatMap, Option.mem_toList,
    List.mem_cons, List.not_mem_nil, or_false] at member
  rcases member with ⟨host, -, rfl | rfl⟩ | ⟨port, -, rfl | rfl⟩
  · exact hostOwn
  · exact isOwn_address host
  · exact portOwn
  · exact isOwn_port port

namespace Rule

variable {rule : Rule} {text word : String}

/-- A rule that forwards has its two interfaces written, any other one has one. -/
theorem mem_writtenTexts_iff :
    text ∈ rule.writtenTexts ↔ present rule.protocol = some text ∨
      if rule.direction = .forwarded ∧ !rule.isNat then
        present rule.inbound = some text ∨ present rule.outbound = some text
      else present rule.interface = some text := by
  rw [writtenTexts]
  split
  case isTrue => simp [or_comm, or_left_comm]
  case isFalse => simp [or_comm]

theorem mem_through_words_iff {inbound outbound : Option String} :
    word ∈ (InterfaceMatch.through inbound outbound).words ↔
      (inbound.isSome ∧ word = "-i" ∨ inbound = some word) ∨
        outbound.isSome ∧ word = "-o" ∨ outbound = some word := by
  cases inbound <;> cases outbound <;>
    simp [InterfaceMatch.words, InterfaceSide.option, eq_comm, or_assoc]

/-- The words of the interfaces are options, or texts that are written. -/
theorem own_or_spells_of_interface (member : word ∈ rule.interfaces.words) :
    IsOwn word ∨ ∃ text ∈ rule.writtenTexts, Spells text word := by
  simp only [mem_writtenTexts_iff]
  rw [interfaces] at member
  split at member
  case isTrue forwards =>
    simp only [if_pos forwards]
    rcases mem_through_words_iff.mp member with (⟨-, rfl⟩ | found) | ⟨-, rfl⟩ | found
    · exact .inl (isOwn_fixed (by decide))
    · exact .inr ⟨word, .inr (.inl found), .inl rfl⟩
    · exact .inl (isOwn_fixed (by decide))
    · exact .inr ⟨word, .inr (.inr found), .inl rfl⟩
  case isFalse stays =>
    simp only [if_neg stays]
    cases named : present rule.interface with
    | none =>
        rw [named] at member
        contradiction
    | some name =>
        rw [named] at member
        dsimp only at member
        split at member
        case h_1 rest isNegated =>
          simp only [InterfaceMatch.words, List.mem_cons, List.not_mem_nil, or_false] at member
          rcases member with rfl | rfl | rfl
          · exact .inl (isOwn_fixed (by decide))
          · exact .inl (isOwn_fixed (by decide))
          · exact .inr ⟨name, .inr rfl, .inr (by rw [isNegated, String.toList_ofList])⟩
        case h_2 =>
          simp only [InterfaceMatch.words, List.mem_cons, List.not_mem_nil, or_false] at member
          rcases member with rfl | rfl
          · cases rule.side <;> exact .inl (isOwn_fixed (by decide))
          · exact .inr ⟨word, .inr rfl, .inl rfl⟩

/-- A word is made by the printer, or is a text that the rule was given. -/
theorem own_or_spells (member : word ∈ rule.words) :
    IsOwn word ∨ ∃ text ∈ rule.writtenTexts, Spells text word := by
  simp only [words, List.mem_append, List.mem_cons, List.not_mem_nil, or_false, or_assoc,
    List.mem_flatMap, Option.mem_toList] at member
  rcases member with rfl | rfl | interfaces | protocol | source | destination | rfl | target
  · exact .inl (isOwn_fixed (by decide))
  · cases rule.chain <;> exact .inl (isOwn_fixed (by decide))
  · exact own_or_spells_of_interface interfaces
  · obtain ⟨name, found, rfl | rfl⟩ := protocol
    · exact .inl (isOwn_fixed (by decide))
    · exact .inr ⟨word, mem_writtenTexts_iff.mpr (.inl found), .inl rfl⟩
  · exact .inl (isOwn_endpoint (isOwn_fixed (by decide)) (isOwn_fixed (by decide)) source)
  · exact .inl (isOwn_endpoint (isOwn_fixed (by decide)) (isOwn_fixed (by decide)) destination)
  · exact .inl (isOwn_fixed (by decide))
  · exact .inl (isOwn_target target)

theorem exists_word_spells (written : text ∈ rule.writtenTexts) :
    ∃ word ∈ rule.words, Spells text word := by
  rw [mem_writtenTexts_iff] at written
  simp only [words, List.mem_append]
  rcases written with protocol | interface
  · exact ⟨text, by simp [protocol], .inl rfl⟩
  · rw [interfaces]
    split at interface
    case isTrue forwards =>
      rw [if_pos forwards]
      have among : text ∈ (InterfaceMatch.through (present rule.inbound)
          (present rule.outbound)).words :=
        mem_through_words_iff.mpr (interface.imp .inr .inr)
      exact ⟨text, .inl (.inl (.inl (.inl (.inr among)))), .inl rfl⟩
    case isFalse stays =>
      rw [if_neg stays, interface]
      dsimp only
      split
      case h_1 rest isNegated =>
        exact ⟨String.ofList rest, by simp [InterfaceMatch.words],
          .inr (by rw [isNegated, String.toList_ofList])⟩
      case h_2 => exact ⟨text, by simp [InterfaceMatch.words], .inl rfl⟩

/-- A character that the printer does not write is in a word only if it is in a written text. -/
theorem foreign_mem_words_iff {character : Char} (foreign : isOwnChar character = false) :
    (∃ word ∈ rule.words, character ∈ word.toList) ↔
      ∃ text ∈ rule.writtenTexts, character ∈ text.toList := by
  have noMark : character ≠ '!' := by
    rintro rfl
    exact absurd foreign (by decide)
  have iffOfSpells : ∀ {text word}, Spells text word →
      (character ∈ text.toList ↔ character ∈ word.toList) := by
    intro text word spells
    cases spells with
    | inl same => rw [same]
    | inr behind => simp [behind, noMark]
  constructor
  · rintro ⟨word, isWord, member⟩
    rcases own_or_spells isWord with own | ⟨text, written, spells⟩
    · exact absurd member (notMem_of_isOwn foreign own)
    · exact ⟨text, written, (iffOfSpells spells).mpr member⟩
  · rintro ⟨text, written, member⟩
    obtain ⟨word, isWord, spells⟩ := exists_word_spells written
    exact ⟨word, isWord, (iffOfSpells spells).mp member⟩

end Rule

end Firewall
