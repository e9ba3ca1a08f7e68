import Firewall.Proofs.Build.Carrying
import Firewall.Proofs.Rule.Agreement

/-!
# Ranges, to the look-up of services and to rules

The look-up of services passes on the texts that it takes for ranges, and rules check them again.
Both look for two runs of digits with a colon between them.  But the look-up does not mind a line
break at the end, and rules have digits that the look-up does not have.  `Rule.readsRange` says that
there is no other text on which the two differ, and what becomes of those texts.
-/

namespace Firewall

open Schema

/-! ## The texts -/

def IsRunOf (isDigit : Char → Bool) (run : List Char) : Prop :=
  run ≠ [] ∧ ∀ character ∈ run, isDigit character = true

/-- Two runs of digits with a colon between them. -/
def IsRangeOf (isDigit : Char → Bool) (text : List Char) : Prop :=
  ∃ low high, text = low ++ ':' :: high ∧ IsRunOf isDigit low ∧ IsRunOf isDigit high

section Runs

variable {isDigit : Char → Bool}

theorem isRunOf_iff {run : List Char} :
    (!run.isEmpty && run.all isDigit) = true ↔ IsRunOf isDigit run := by
  simp [IsRunOf]

theorem IsRunOf.notMem {run : List Char} (isRun : IsRunOf isDigit run) {character : Char}
    (other : isDigit character = false) : character ∉ run := by
  intro member
  rw [isRun.2 character member] at other
  contradiction

theorem isRangeIn_iff (noColon : isDigit ':' = false) {text : List Char} :
    isRangeIn isDigit text = true ↔ IsRangeOf isDigit text := by
  rw [isRangeIn]
  constructor
  · intro range
    split at range
    case h_1 low high fields =>
      have joined := Text.joined_fields ':' text
      rw [fields] at joined
      rw [Bool.and_assoc, Bool.and_eq_true, isRunOf_iff, isRunOf_iff] at range
      exact ⟨low, high, by simpa using joined.symm, range⟩
    case h_2 => contradiction
  · rintro ⟨low, high, rfl, lowRun, highRun⟩
    rw [Text.fields_append_cons (lowRun.notMem noColon),
      Text.fields_of_notMem (highRun.notMem noColon)]
    dsimp only
    rw [Bool.and_assoc, Bool.and_eq_true, isRunOf_iff, isRunOf_iff]
    exact ⟨lowRun, highRun⟩

end Runs

/-- A range with a line break behind it. -/
def EndsInBreak (content : String) : Prop :=
  ∃ text, content.toList = text ++ ['\n'] ∧ IsRangeOf Text.isDecimal text

/-- A range of digits that are not all known to the look-up of services. -/
def HasNewDigits (content : String) : Prop :=
  IsRangeOf Text.isRecentDecimal content.toList ∧ ¬ IsRangeOf Text.isDecimal content.toList

theorem isPortRange_iff {content : String} :
    isPortRange content = true ↔
      IsRangeOf Text.isDecimal content.toList ∨ EndsInBreak content := by
  have range_iff : ∀ {text}, isRangeIn Text.isDecimal text = true ↔ IsRangeOf Text.isDecimal text :=
    isRangeIn_iff (by decide)
  rw [isPortRange, Bool.or_eq_true, Bool.and_eq_true, beq_iff_eq, range_iff, range_iff]
  refine or_congr_right ⟨?_, ?_⟩
  · rintro ⟨last, range⟩
    exact ⟨_, (List.dropLast_append_getLast? _ last).symm, range⟩
  · rintro ⟨text, split, range⟩
    rw [split]
    exact ⟨List.getLast?_concat, by rwa [List.dropLast_concat]⟩

theorem isRange_iff {content : String} :
    isRange content.toList = true ↔ IsRangeOf Text.isRecentDecimal content.toList :=
  isRangeIn_iff (by decide)

/-- The digits of the look-up are digits of rules. -/
theorem IsRangeOf.recent {text : List Char} (range : IsRangeOf Text.isDecimal text) :
    IsRangeOf Text.isRecentDecimal text := by
  have newer : ∀ {run}, IsRunOf Text.isDecimal run → IsRunOf Text.isRecentDecimal run :=
    fun isRun => ⟨isRun.1, fun character member =>
      Text.isRecentDecimal_of_isDecimal (isRun.2 character member)⟩
  obtain ⟨low, high, split, lowRun, highRun⟩ := range
  exact ⟨low, high, split, newer lowRun, newer highRun⟩

/-- A text that ends in a line break is no range of a rule. -/
theorem EndsInBreak.not_isRange {content : String} (broken : EndsInBreak content) :
    ¬ isRange content.toList = true := by
  obtain ⟨text, split, -⟩ := broken
  intro range
  have lineBreak : '\n' ∈ content.toList := by simp [split]
  rcases eq_colon_or_isDigit_of_mem range lineBreak with colon | digit
  · exact absurd colon (by decide)
  · exact absurd digit (by decide)

/-! ## Whole texts -/

theorem isWhole_of_unmarked {content : String}
    (unmarked : ∀ character ∈ content.toList, Text.isMark character = false) :
    Text.isWhole content = true := by
  have codes : Text.codePoints content = content.toList.map Char.toNat := by
    rw [Text.codePoints]
    generalize content.toList = text at unmarked
    induction text with
    | nil => rfl
    | cons character rest ih =>
        rw [Text.codePointsFrom, unmarked character List.mem_cons_self]
        simpa using ih fun other member => unmarked other (List.mem_cons_of_mem _ member)
  rw [Text.isWhole, codes, List.all_eq_true]
  intro code member
  obtain ⟨character, -, rfl⟩ := List.mem_map.mp member
  have valid : character.toNat.isValidChar := character.valid
  rw [Bool.not_eq_true', ← Bool.not_eq_true, Text.isHalf_iff]
  simp only [Nat.isValidChar] at valid
  omega

theorem isMark_of_isRecentDecimal {character : Char}
    (digit : Text.isRecentDecimal character = true) : Text.isMark character = false := by
  by_contra marked
  have code : character.toNat = Text.markCode := by simpa [Text.isMark] using marked
  rw [Text.isRecentDecimal, Text.isDecimal, Text.digitValue?, code] at digit
  exact absurd digit (by decide)

theorem isWhole_of_digits {content : String}
    (plain : ∀ character ∈ content.toList,
      character = ':' ∨ character = '\n' ∨ Text.isRecentDecimal character = true) :
    Text.isWhole content = true := by
  apply isWhole_of_unmarked
  intro character member
  rcases plain character member with rfl | rfl | digit
  · decide
  · decide
  · exact isMark_of_isRecentDecimal digit

/-! ## Rules with a port -/

namespace Rule

/-- A rule of a document that has a text as its destination port. -/
def portMembers (content : String) : Members :=
  [("action", .text "pass"), ("dir", .text "in"), ("to", .object [("port", .text content)])]

/-- The fields of a rule to a port. -/
def fieldsTo (port : Port) : Fields where
  action := some .pass
  returns := false
  direction := .incoming
  family := none
  protocol := none
  interface := none
  inbound := none
  outbound := none
  source := .unspecified
  destination := ⟨none, some port⟩
  masquerade := none
  redirect := .unspecified

/-- The parts of this rule are valid, but for the port. -/
theorem partsOf_portMembers (content : String) :
    partsOf (portMembers content) none =
      { action := .valid (some .pass), returns := .valid false, direction := .valid .incoming,
        family := none, protocol := .valid none, interface := .valid none, inbound := .valid none,
        outbound := .valid none, source := .valid .unspecified,
        destination := (Endpoint.mk none <$>
          (some <$> portOf (.text content)).under (.key "port") <*
            (.valid () : Checked Unit)).under (.key "to"),
        masquerade := .valid none, redirect := .valid .unspecified, others := .valid () } := rfl

theorem ofValue_portMembers_eq_ok_iff {content : String} {rule : Rule} :
    ofValue (.object (portMembers content)) = .ok rule ↔
      ∃ port, portOf (.text content) = .valid port ∧ rule.toFields = fieldsTo port := by
  have parts : ofValue (.object (portMembers content)) =
      ofParts (partsOf (portMembers content) none) := rfl
  rw [parts, ofParts_eq_ok_iff, partsOf_portMembers]
  cases portOf (.text content) with
  | invalid issues => exact ⟨nofun, nofun⟩
  | valid port =>
      have fields : ∀ fields, Checked.valid (fieldsTo port) = .valid fields ↔
          fields = fieldsTo port := fun fields => by rw [Checked.valid.injEq, eq_comm]
      exact (fields _).trans (by simp)

/-- A text is accepted as the port of a rule and stays as it is. -/
def KeepsRange (content : String) : Prop :=
  ∃ rule, ofValue (.object (portMembers content)) = .ok rule ∧
    rule.destination.port.map Port.candidate = some (.range content)

theorem portOf_of_isRange {content : String} (valid : isRange content.toList = true) :
    portOf (.text content) = .valid (.range content valid) := by
  have whole := isWhole_of_digits fun character member =>
    (eq_colon_or_isDigit_of_mem valid member).imp_right .inr
  have read : portRange (.text content) = .valid (.range content valid) := by
    rw [portRange, wholeText, if_pos whole, dif_pos valid]
  rw [portOf, read]

/-- A port that keeps a text is a range with this text, so the text is one. -/
theorem isRange_of_candidate {port : Port} {content : String}
    (kept : port.candidate = .range content) : isRange content.toList = true := by
  cases port with
  | number => contradiction
  | range other valid =>
      cases kept
      exact valid

theorem keepsRange_iff {content : String} :
    KeepsRange content ↔ IsRangeOf Text.isRecentDecimal content.toList := by
  rw [← isRange_iff]
  constructor
  · rintro ⟨rule, accepted, kept⟩
    obtain ⟨port, -, fields⟩ := ofValue_portMembers_eq_ok_iff.mp accepted
    rw [fields] at kept
    exact isRange_of_candidate (Option.some.inj kept)
  · intro valid
    let rule : Rule := ⟨fieldsTo (.range content valid), rfl, rfl⟩
    exact ⟨rule, ofValue_portMembers_eq_ok_iff.mpr ⟨_, portOf_of_isRange valid, rfl⟩, rfl⟩

/-- What is kept in one rule is kept wherever a rule has a port. -/
theorem keepsRange_iff_of_endpointOf {content : String} {members : Members} {endpoint : Endpoint}
    (given : valueOf? "port" members = some (.text content))
    (valid : endpointOf (.object members) = .valid endpoint) :
    endpoint.port.map Port.candidate = some (.range content) ↔ KeepsRange content := by
  rw [endpointOf, model] at valid
  split at valid
  case isFalse => contradiction
  case isTrue =>
    obtain ⟨_, _, both, read, rfl⟩ :=
      Checked.seq_eq_valid_iff.mp (Checked.seqLeft_eq_valid_iff.mp valid).1
    obtain ⟨host, -, rfl⟩ := Checked.map_eq_valid_iff.mp both
    rw [nullable_eq_valid_iff, map_snd_given?_singleton, given, Option.getD_some] at read
    obtain ⟨port, isPort, rfl⟩ := Checked.map_eq_valid_iff.mp read
    rw [keepsRange_iff, ← isRange_iff]
    constructor
    · intro kept
      exact isRange_of_candidate (Option.some.inj kept)
    · intro isRange
      rw [portOf_of_isRange isRange] at isPort
      cases isPort
      rfl

/-! ## The two readings -/

/-- A text that ends in a line break is no port of a rule, and it is refused for its form. -/
theorem refused_of_endsInBreak {content : String} (broken : EndsInBreak content) :
    portRange (.text content) = .issue (.patternMismatch rangePattern) ∧
      ∀ port, portOf (.text content) ≠ .valid port := by
  have looksRight := isPortRange_iff.mpr (.inr broken)
  have noRange := broken.not_isRange
  obtain ⟨text, split, range⟩ := broken
  have whole : Text.isWhole content = true := by
    apply isWhole_of_digits
    intro character member
    rw [split, List.mem_append, List.mem_singleton] at member
    rcases member with inside | lineBreak
    · exact (eq_colon_or_isDigit_of_mem ((isRangeIn_iff (by decide)).mpr range.recent)
        inside).imp_right .inr
    · exact .inr (.inl lineBreak)
  constructor
  · rw [portRange, wholeText, if_pos whole, dif_neg noRange]
  · intro port valid
    have resolved : (PortCandidate.range content).IsResolved := looksRight
    exact noRange (isRange_of_candidate (candidate_of_portOf resolved valid))

/-- What the look-up of services and rules make of a text that is a range to one of them. -/
structure ReadsRange (services : Services) (content : String) : Prop where
  agree : (isPortRange content = true ↔ KeepsRange content) ↔
    ¬ EndsInBreak content ∧ ¬ HasNewDigits content
  /-- The look-up passes on what it takes for a range. -/
  passed : isPortRange content = true → Factory.portOfText services content = .ok (.range content)
  /-- A rule refuses it if there is a line break at the end. -/
  refused : isPortRange content = true → ¬ KeepsRange content →
    EndsInBreak content ∧
      portRange (.text content) = .issue (.patternMismatch rangePattern) ∧
      ∀ port, portOf (.text content) ≠ .valid port
  /-- A range of digits that the look-up does not have is the name of a service to it. -/
  named : KeepsRange content → ¬ isPortRange content = true →
    HasNewDigits content ∧
      Factory.portOfText services content =
        (services.get? content).elim (.error (.unknownService content)) (.ok ∘ .number)
  /-- A rule reads all its ports in the same way. -/
  everywhere : ∀ members endpoint, valueOf? "port" members = some (.text content) →
    endpointOf (.object members) = .valid endpoint →
    (endpoint.port.map Port.candidate = some (.range content) ↔ KeepsRange content)

/-- The look-up of services and rules take the same texts for ranges, except for those that end in
a line break and those with new digits. -/
theorem readsRange (services : Services) (content : String) : ReadsRange services content where
  agree := by
    have older := @IsRangeOf.recent content.toList
    have broken := mt isRange_iff.mpr ∘ @EndsInBreak.not_isRange content
    rw [isPortRange_iff, keepsRange_iff, HasNewDigits]
    tauto
  passed := by
    intro range
    rw [Factory.portOfText, if_pos range]
  refused := by
    intro range lost
    rw [keepsRange_iff] at lost
    have broken := (isPortRange_iff.mp range).resolve_left (mt IsRangeOf.recent lost)
    exact ⟨broken, refused_of_endsInBreak broken⟩
  named := by
    intro kept noRange
    rw [keepsRange_iff] at kept
    have notOld := (not_or.mp (mt isPortRange_iff.mpr noRange)).1
    have colon : ':' ∈ content.toList := isRangeIn_colon (isRange_iff.mpr kept)
    have noDigits : ¬ (!content.isEmpty && content.toList.all Text.isDigit) = true := by
      rw [Bool.and_eq_true, List.all_eq_true]
      intro digits
      exact absurd (digits.2 ':' colon) (by decide)
    refine ⟨⟨kept, notOld⟩, ?_⟩
    rw [Factory.portOfText, if_neg noRange, if_neg noDigits]
    cases services.get? content <;> rfl
  everywhere := fun _ _ => keepsRange_iff_of_endpointOf

/-- With a line break at its end, a range is passed on and then refused. -/
theorem range_with_break_is_lost :
    isPortRange "80:90\n" = true ∧ ¬ KeepsRange "80:90\n" ∧
    ¬ (isPortRange "80:90\n" = true ↔ KeepsRange "80:90\n") := by
  have range : isPortRange "80:90\n" = true := by decide
  have lost : ¬ KeepsRange "80:90\n" := by
    rw [keepsRange_iff, ← isRange_iff]
    decide
  exact ⟨range, lost, fun agree => lost (agree.mp range)⟩

end Rule

end Firewall
