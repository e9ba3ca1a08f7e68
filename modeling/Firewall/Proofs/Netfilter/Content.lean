import Firewall.Proofs.Netfilter.LineReader

/-!
# What a rule says

The fields of a rule settle what its line says.  Zones of addresses are not written, and neither is
what a rule does not match: an empty text counts as absent, and so does a port to which packets go
anyway.  `Rule.ruleLine` reads this off the fields, and `Rule.Agrees` compares the fields of two
rules.
-/

namespace Firewall

/-- A text as far as it is written: an empty one counts as absent. -/
def said (text : Option String) : Option String := text.filter (· ≠ "")

theorem said_eq_present (text : Option String) : said text = present text := by
  cases text with
  | none => rfl
  | some word => by_cases empty : word = "" <;> simp [said, present, empty]

theorem eq_some_of_present {text : Option String} {word : String}
    (isPresent : present text = some word) : text = some word := by
  cases text with
  | none => contradiction
  | some other =>
      rw [present] at isPresent
      split at isPresent
      · contradiction
      · exact isPresent

/-- A host reaches itself by the IPv4 addresses whose first octet is 127, and by one IPv6 address. -/
def Address.LoopsBack : Address → Prop
  | .v4 value _ => 127 * 2 ^ 24 ≤ value.toNat ∧ value.toNat < 128 * 2 ^ 24
  | .v6 value _ _ => value.toNat = 1

instance : (address : Address) → Decidable address.LoopsBack
  | .v4 .. => inferInstanceAs (Decidable (_ ∧ _))
  | .v6 .. => inferInstanceAs (Decidable (_ = _))

theorem Address.isLoopback_iff (address : Address) :
    address.isLoopback = true ↔ address.LoopsBack := by
  cases address with
  | v4 value length =>
      rw [isLoopback, beq_iff_eq, ← BitVec.toNat_inj, BitVec.toNat_ushiftRight,
        Nat.shiftRight_eq_div_pow]
      change value.toNat / 2 ^ 24 = 127 ↔ 127 * 2 ^ 24 ≤ value.toNat ∧ value.toNat < 128 * 2 ^ 24
      omega
  | v6 value zone length =>
      rw [isLoopback, beq_iff_eq, ← BitVec.toNat_inj]
      rfl

/-- The endpoint as far as it is written. -/
def Rule.Endpoint.withoutZone (endpoint : Endpoint) : Endpoint :=
  ⟨endpoint.host.map Address.withoutZone, endpoint.port⟩

/-- The target as far as it is written. -/
def Target.withoutZone : Target → Target
  | .destination host port => .destination host.withoutZone port
  | target => target

namespace Rule

/-! ## Read off the fields -/

/-- The chain of a rule: a redirect goes first, then a masquerade, then the direction. -/
def saidChain (rule : Rule) : Chain :=
  match rule.redirect.host, rule.masquerade, rule.direction with
  | some _, _, _ => .prerouting
  | none, some _, _ => .postrouting
  | none, none, .incoming => .input
  | none, none, .outgoing => .output
  | none, none, .forwarded => .forward

/-- The rule is for packets that the host passes on as they are. -/
def Forwards (rule : Rule) : Prop :=
  rule.direction = .forwarded ∧ rule.redirect.host = none ∧ rule.masquerade = none

/-- The rule looks at the interface through which a packet leaves. -/
def LooksOutbound (rule : Rule) : Prop :=
  rule.redirect.host = none ∧ (rule.masquerade ≠ none ∨ rule.direction = .outgoing)

instance (rule : Rule) : Decidable rule.Forwards := inferInstanceAs (Decidable (_ ∧ _))

instance (rule : Rule) : Decidable rule.LooksOutbound := inferInstanceAs (Decidable (_ ∧ _))

/-- The interfaces of a rule.  Behind an exclamation mark, it is always the inbound one. -/
def saidInterfaces (rule : Rule) : InterfaceMatch :=
  if rule.Forwards then .through (said rule.inbound) (said rule.outbound)
  else
    match said rule.interface with
    | none => .any
    | some name =>
        if name.toList.head? = some '!' then .allBut (String.ofList name.toList.tail)
        else .one (if rule.LooksOutbound then .outbound else .inbound) name

/-- The target of a rule.  Another host comes with the port there, unless that is absent or the port
that the packet has anyway. -/
def saidTarget (rule : Rule) : Target :=
  match rule.returns, rule.redirect.host, rule.masquerade, rule.action with
  | true, _, _, _ => .returning
  | false, some host, _, _ =>
      if host.LoopsBack then .redirect rule.redirect.port
      else
        .destination host.withoutZone
          (rule.redirect.port.filter fun port => some port ≠ rule.destination.port)
  | false, none, some _, _ => .masquerade
  | false, none, none, some .pass => .accept
  | false, none, none, _ => .drop

/-- What the line of a rule says. -/
def ruleLine (rule : Rule) : RuleLine where
  chain := rule.saidChain
  interfaces := rule.saidInterfaces
  protocol := said rule.protocol
  source := rule.source.withoutZone
  destination := rule.destination.withoutZone
  target := rule.saidTarget

/-- The protocol and the interfaces of a rule have no space in them. -/
def HasPlainWords (rule : Rule) : Prop :=
  ∀ text ∈ [rule.protocol, rule.interface, rule.inbound, rule.outbound], ∀ word ∈ text,
    ' ' ∉ word.toList

/-- Two rules agree on everything that is written of them. -/
structure Agrees (first second : Rule) : Prop where
  chain : first.saidChain = second.saidChain
  through : first.Forwards →
    said first.inbound = said second.inbound ∧ said first.outbound = said second.outbound
  interface : ¬ first.Forwards →
    said first.interface = said second.interface ∧ (first.LooksOutbound ↔ second.LooksOutbound)
  protocol : said first.protocol = said second.protocol
  source : first.source.withoutZone = second.source.withoutZone
  destination : first.destination.withoutZone = second.destination.withoutZone
  target : first.saidTarget = second.saidTarget

/-! ## As it is computed -/

theorem chain_eq_forward_iff (rule : Rule) :
    rule.chain = .forward ↔ rule.direction = .forwarded ∧ ¬ rule.isNat = true := by
  unfold Rule.chain Fields.isNat
  cases rule.redirect.host <;> cases rule.masquerade <;> cases rule.direction <;> simp

theorem side_eq_outbound_iff (rule : Rule) :
    rule.side = .outbound ↔ rule.chain = .postrouting ∨ rule.chain = .output := by
  unfold Rule.chain Rule.side
  cases rule.redirect.host <;> cases rule.masquerade <;> cases rule.direction <;> simp

theorem interfaces_of_forward {rule : Rule} (forward : rule.chain = .forward) :
    rule.interfaces = .through (present rule.inbound) (present rule.outbound) := by
  have both := (chain_eq_forward_iff rule).mp forward
  simp [Rule.interfaces, both]

theorem not_forwarded_of_chain {rule : Rule} (other : rule.chain ≠ .forward) :
    ¬ (rule.direction = .forwarded ∧ (!rule.isNat) = true) := by
  rw [Bool.not_eq_true', ← Bool.not_eq_true, ← chain_eq_forward_iff]
  exact other

theorem saidChain_eq_chain (rule : Rule) : rule.saidChain = rule.chain := by
  unfold saidChain Rule.chain
  cases rule.redirect.host <;> cases rule.masquerade <;> cases rule.direction <;> rfl

theorem forwards_iff (rule : Rule) : rule.Forwards ↔ rule.chain = .forward := by
  rw [← saidChain_eq_chain]
  unfold Forwards saidChain
  cases rule.redirect.host <;> cases rule.masquerade <;> cases rule.direction <;> simp

theorem looksOutbound_iff (rule : Rule) :
    rule.LooksOutbound ↔ rule.chain = .postrouting ∨ rule.chain = .output := by
  rw [← saidChain_eq_chain]
  unfold LooksOutbound saidChain
  cases rule.redirect.host <;> cases rule.masquerade <;> cases rule.direction <;> simp

theorem side_eq (rule : Rule) :
    rule.side = if rule.LooksOutbound then .outbound else .inbound := by
  have side := (side_eq_outbound_iff rule).trans (looksOutbound_iff rule).symm
  by_cases outbound : rule.LooksOutbound
  · rw [if_pos outbound, side.mpr outbound]
  · rw [if_neg outbound]
    cases known : rule.side with
    | inbound => rfl
    | outbound => exact absurd (side.mp known) outbound

theorem saidInterfaces_eq_interfaces (rule : Rule) : rule.saidInterfaces = rule.interfaces := by
  rw [saidInterfaces, said_eq_present, said_eq_present, said_eq_present, ← side_eq]
  by_cases forward : rule.chain = .forward
  · rw [if_pos ((forwards_iff rule).mpr forward), interfaces_of_forward forward]
  · rw [if_neg (mt (forwards_iff rule).mp forward), Rule.interfaces,
      if_neg (not_forwarded_of_chain forward)]
    cases present rule.interface with
    | none => rfl
    | some name =>
        dsimp only
        cases name.toList with
        | nil => rfl
        | cons first rest =>
            by_cases negated : first = '!'
            · rw [negated]
              rfl
            · rw [List.head?_cons, if_neg fun same => negated (Option.some.inj same)]
              split
              case h_1 other same => exact absurd (List.cons.inj same).1 negated
              case h_2 => rfl

/-- A port that the packet has anyway is left out, like one that is absent. -/
theorem filter_port (port own : Option Port) :
    (port.filter fun other => some other ≠ own) = if port = own then none else port := by
  cases port with
  | none => split <;> rfl
  | some port => by_cases same : some port = own <;> simp [Option.filter, same]

theorem saidTarget_eq_target (rule : Rule) : rule.saidTarget = rule.target.withoutZone := by
  unfold saidTarget Rule.target
  cases rule.returns with
  | true => rfl
  | false =>
      rw [if_neg Bool.false_ne_true]
      cases rule.redirect.host with
      | some host =>
          dsimp only
          by_cases own : host.LoopsBack
          · rw [if_pos own, if_pos (host.isLoopback_iff.mpr own)]
            rfl
          · rw [if_neg own, if_neg (mt host.isLoopback_iff.mp own), filter_port]
            split <;> rfl
      | none =>
          cases rule.masquerade with
          | some address => rfl
          | none =>
              cases rule.action with
              | none => rfl
              | some action => cases action <;> rfl

theorem ruleLine_eq (rule : Rule) :
    rule.ruleLine =
      ⟨rule.chain, rule.interfaces, present rule.protocol, rule.source.withoutZone,
        rule.destination.withoutZone, rule.target.withoutZone⟩ := by
  rw [ruleLine, saidChain_eq_chain, saidInterfaces_eq_interfaces, said_eq_present,
    saidTarget_eq_target]

end Rule

/-! ## Rules that agree -/

/-- The interface as it was written in the rule. -/
def InterfaceMatch.interface : InterfaceMatch → Option String
  | .any => none
  | .allBut name => some ("!" ++ name)
  | .one _ name => some name
  | .through .. => none

namespace Rule

theorem interface_interfaces {rule : Rule} (other : rule.chain ≠ .forward) :
    rule.interfaces.interface = present rule.interface := by
  rw [Rule.interfaces, if_neg (not_forwarded_of_chain other)]
  cases present rule.interface with
  | none => rfl
  | some name =>
      dsimp only
      split
      case h_1 rest characters =>
        have whole : name = "!" ++ String.ofList rest := by
          rw [← String.toList_inj, characters]
          simp
        rw [InterfaceMatch.interface, ← whole]
      case h_2 => rfl

theorem interface_saidInterfaces {rule : Rule} (other : ¬ rule.Forwards) :
    rule.saidInterfaces.interface = said rule.interface := by
  rw [saidInterfaces_eq_interfaces, said_eq_present]
  exact interface_interfaces (mt (forwards_iff rule).mpr other)

theorem saidInterfaces_of_forwards {rule : Rule} (forwards : rule.Forwards) :
    rule.saidInterfaces = .through (said rule.inbound) (said rule.outbound) := if_pos forwards

theorem forwards_congr {first second : Rule} (chain : first.saidChain = second.saidChain) :
    first.Forwards ↔ second.Forwards := by
  rw [forwards_iff, forwards_iff, ← saidChain_eq_chain, chain, saidChain_eq_chain]

theorem looksOutbound_congr {first second : Rule} (chain : first.saidChain = second.saidChain) :
    first.LooksOutbound ↔ second.LooksOutbound := by
  rw [looksOutbound_iff, looksOutbound_iff, ← saidChain_eq_chain, chain, saidChain_eq_chain]

theorem saidInterfaces_congr {first second : Rule} (chain : first.saidChain = second.saidChain)
    (through : first.Forwards →
      said first.inbound = said second.inbound ∧ said first.outbound = said second.outbound)
    (interface : ¬ first.Forwards → said first.interface = said second.interface) :
    first.saidInterfaces = second.saidInterfaces := by
  by_cases forwards : first.Forwards
  · have also : second.Forwards := (forwards_congr chain).mp forwards
    have same := through forwards
    rw [saidInterfaces_of_forwards forwards, saidInterfaces_of_forwards also, same.1, same.2]
  · have other : ¬ second.Forwards := mt (forwards_congr chain).mpr forwards
    rw [saidInterfaces, saidInterfaces, if_neg forwards, if_neg other, interface forwards]
    simp only [looksOutbound_congr chain]

/-- The lines of two rules say the same exactly when the rules agree. -/
theorem ruleLine_eq_iff_agrees (first second : Rule) :
    first.ruleLine = second.ruleLine ↔ first.Agrees second := by
  constructor
  case mp =>
    intro same
    have chain : first.saidChain = second.saidChain := congrArg RuleLine.chain same
    have interfaces : first.saidInterfaces = second.saidInterfaces :=
      congrArg RuleLine.interfaces same
    constructor
    case chain => exact chain
    case through =>
      intro forwards
      rw [saidInterfaces_of_forwards forwards,
        saidInterfaces_of_forwards ((forwards_congr chain).mp forwards)] at interfaces
      exact ⟨(InterfaceMatch.through.inj interfaces).1, (InterfaceMatch.through.inj interfaces).2⟩
    case interface =>
      intro other
      refine ⟨?_, looksOutbound_congr chain⟩
      rw [← interface_saidInterfaces other, interfaces,
        interface_saidInterfaces (mt (forwards_congr chain).mpr other)]
    case protocol => exact congrArg RuleLine.protocol same
    case source => exact congrArg RuleLine.source same
    case destination => exact congrArg RuleLine.destination same
    case target => exact congrArg RuleLine.target same
  case mpr =>
    intro agrees
    have interfaces := saidInterfaces_congr agrees.chain agrees.through
      fun other => (agrees.interface other).1
    rw [ruleLine, ruleLine, agrees.chain, interfaces, agrees.protocol, agrees.source,
      agrees.destination, agrees.target]

end Rule

end Firewall
