import Firewall.Proofs.Netfilter.Content
import Firewall.Proofs.Netfilter.Placement

/-!
# Chains, interfaces and targets of one rule

Not every target can stand in every chain, and neither can every interface option: a packet has no
outgoing interface before it is routed, and no incoming one when it is sent by the host or about to
leave.  Chain, interfaces and target are computed apart from each other, each with an order of its
own among the fields of the rule.  `Rule.FitsTogether` says that they agree nevertheless.
-/

namespace Firewall

/-! ## What can stand in a chain -/

/-- The chains in which a target can stand. -/
def Target.chains : Target → List Chain
  | .returning => [.prerouting, .input, .forward, .output, .postrouting]
  | .redirect _ | .destination .. => [.prerouting]
  | .masquerade => [.postrouting]
  | .accept | .drop => [.input, .output, .forward]

def Action.target : Action → Target
  | .pass => .accept
  | .block => .drop

/-- The chains whose packets have an interface on this side. -/
def InterfaceSide.chains : InterfaceSide → List Chain
  | .inbound => [.input, .forward, .prerouting]
  | .outbound => [.output, .forward, .postrouting]

theorem InterfaceSide.forward_mem_chains (side : InterfaceSide) : .forward ∈ side.chains := by
  cases side <;> decide

/-- One interface option of a line: the interface, or all others, on one side. -/
structure InterfaceOption where
  negated : Bool
  side : InterfaceSide
  name : String
  deriving DecidableEq

def InterfaceOption.words (option : InterfaceOption) : List String :=
  (if option.negated then ["!"] else []) ++ [option.side.option, option.name]

/-- The options of an interface match, in the order of the line. -/
def InterfaceMatch.options : InterfaceMatch → List InterfaceOption
  | .any => []
  | .allBut name => [⟨true, .inbound, name⟩]
  | .one side name => [⟨false, side, name⟩]
  | .through inbound outbound =>
      inbound.toList.map (⟨false, .inbound, ·⟩) ++ outbound.toList.map (⟨false, .outbound, ·⟩)

theorem InterfaceMatch.words_eq_flatMap_options (interfaces : InterfaceMatch) :
    interfaces.words = interfaces.options.flatMap InterfaceOption.words := by
  cases interfaces with
  | any | allBut | one => rfl
  | through inbound outbound => cases inbound <;> cases outbound <;> rfl

namespace Rule

/-! ## Targets -/

/-- The ways in which a rule comes to its target, the first that applies. -/
inductive JumpsTo (rule : Rule) : Target → Prop where
  | returning : rule.returns = true → JumpsTo rule .returning
  | redirect {host : Address} :
      rule.returns = false → rule.redirect.host = some host → host.LoopsBack →
      JumpsTo rule (.redirect rule.redirect.port)
  /-- The port is left out if it is the one the packet has anyway. -/
  | destination {host : Address} {port : Option Port} :
      rule.returns = false → rule.redirect.host = some host → ¬ host.LoopsBack →
      port = (if rule.redirect.port = rule.destination.port then none else rule.redirect.port) →
      JumpsTo rule (.destination host port)
  | masquerade :
      rule.returns = false → rule.redirect.host = none → rule.masquerade.isSome = true →
      JumpsTo rule .masquerade
  | accept :
      rule.returns = false → rule.isNat = false → rule.action = some .pass → JumpsTo rule .accept
  | drop :
      rule.returns = false → rule.isNat = false → rule.action = some .block → JumpsTo rule .drop

theorem exists_action {rule : Rule} (stays : rule.returns = false) (plain : rule.isNat = false) :
    ∃ action, rule.action = some action := by
  have acts := rule.targeted
  rw [Fields.hasTarget, stays, plain, Bool.or_false, Bool.or_false] at acts
  exact Option.isSome_iff_exists.mp acts

theorem target_of_plain {rule : Rule} {action : Action} (stays : rule.returns = false)
    (plain : rule.isNat = false) (acts : rule.action = some action) :
    rule.target = action.target := by
  obtain ⟨unredirected, unmasked⟩ := Bool.or_eq_false_iff.mp plain
  have noHost : rule.redirect.host = none := by simpa using unredirected
  cases action <;> simp [target, Action.target, stays, noHost, unmasked, acts]

/-- The target of a rule is one that it comes to. -/
theorem jumpsTo_target (rule : Rule) : rule.JumpsTo rule.target := by
  by_cases returns : rule.returns = true
  · rw [target, if_pos returns]
    exact .returning returns
  have stays := Bool.eq_false_iff.mpr returns
  cases translates : rule.isNat with
  | false =>
      obtain ⟨action, acts⟩ := exists_action stays translates
      rw [target_of_plain stays translates acts]
      cases action with
      | pass => exact .accept stays translates acts
      | block => exact .drop stays translates acts
  | true =>
      rw [target, if_neg returns]
      cases redirects : rule.redirect.host with
      | some host =>
          dsimp only
          split
          case isTrue own => exact .redirect stays redirects (host.isLoopback_iff.mp own)
          case isFalse other =>
            have foreign := mt host.isLoopback_iff.mpr other
            split
            case isTrue same => exact .destination stays redirects foreign (if_pos same).symm
            case isFalse differ => exact .destination stays redirects foreign (if_neg differ).symm
      | none =>
          have masquerades : rule.masquerade.isSome = true := by
            rwa [Fields.isNat, redirects, Option.isSome_none, Bool.false_or] at translates
          dsimp only
          rw [if_pos masquerades]
          exact .masquerade stays redirects masquerades

theorem chain_of_redirect {rule : Rule} {host : Address}
    (redirects : rule.redirect.host = some host) : rule.chain = .prerouting := by
  simp [chain, redirects]

/-- A target stands in the chain of its rule. -/
theorem JumpsTo.chain_mem_chains {rule : Rule} {target : Target} (jumps : rule.JumpsTo target) :
    rule.chain ∈ target.chains := by
  have untranslated : rule.isNat = false → rule.chain ∈ [Chain.input, .output, .forward] := by
    rw [← Bool.not_eq_true, isNat_iff_chain]
    cases rule.chain <;> simp
  cases jumps with
  | returning => cases rule.chain <;> decide
  | redirect _ redirects | destination _ redirects =>
      exact List.mem_singleton.mpr (chain_of_redirect redirects)
  | masquerade _ unredirected masquerades =>
      simp [Target.chains, chain, unredirected, masquerades]
  | accept _ plain | drop _ plain => exact untranslated plain

/-- Only a rule that neither returns nor translates accepts or drops, as its action says. -/
theorem target_eq_iff (rule : Rule) (action : Action) :
    rule.target = action.target ↔
      rule.returns = false ∧ rule.isNat = false ∧ rule.action = some action := by
  constructor
  · intro same
    have jumps := same ▸ rule.jumpsTo_target
    cases action with
    | pass =>
        cases jumps with
        | accept stays plain acts => exact ⟨stays, plain, acts⟩
    | block =>
        cases jumps with
        | drop stays plain acts => exact ⟨stays, plain, acts⟩
  · rintro ⟨stays, plain, acts⟩
    exact target_of_plain stays plain acts

theorem exists_redirect_host {rule : Rule} {port : Port}
    (given : rule.redirect.port = some port) : ∃ host, rule.redirect.host = some host := by
  have complete := rule.redirected
  rw [Fields.redirectComplete, given] at complete
  exact Option.isSome_iff_exists.mp complete

/-- A redirect goes to its host, unless the rule returns. -/
theorem JumpsTo.of_redirect {rule : Rule} {target : Target} (jumps : rule.JumpsTo target)
    {host : Address} (redirects : rule.redirect.host = some host) :
    target = .returning ∨ target = .redirect rule.redirect.port ∨
      ∃ port ∈ [none, rule.redirect.port], target = .destination host port := by
  have translates : rule.isNat = true := by
    rw [Fields.isNat, redirects]
    rfl
  cases jumps with
  | returning => exact .inl rfl
  | redirect => exact .inr (.inl rfl)
  | @destination other port _ isOther _ isPort =>
      obtain rfl := Option.some.inj (isOther.symm.trans redirects)
      refine .inr (.inr ⟨port, ?_, rfl⟩)
      rw [isPort]
      split <;> simp
  | masquerade _ unredirected =>
      rw [redirects] at unredirected
      contradiction
  | accept _ plain | drop _ plain =>
      rw [translates] at plain
      contradiction

/-! ## Interfaces -/

/-- The rule matches an interface that starts with an exclamation mark. -/
def NegatesInterface (rule : Rule) : Prop :=
  ¬ (rule.direction = .forwarded ∧ ¬ rule.isNat = true) ∧
    ∃ name ∈ rule.interface, ∃ rest, name.toList = '!' :: rest

theorem chain_mem_chains_side {rule : Rule} (other : rule.chain ≠ .forward) :
    rule.chain ∈ rule.side.chains := by
  cases side : rule.side with
  | outbound =>
      cases (side_eq_outbound_iff rule).mp side with
      | inl last => rw [last]; decide
      | inr sent => rw [sent]; decide
  | inbound =>
      have inner := mt (side_eq_outbound_iff rule).mpr (by simp [side])
      revert other inner
      cases rule.chain <;> decide

/-- The interface that is matched outside the chain for forwarding, if there is any. -/
inductive Matches (rule : Rule) : InterfaceMatch → Prop where
  | any : Matches rule .any
  | allBut {name : String} {rest : List Char} :
      rule.interface = some name → name.toList = '!' :: rest →
      Matches rule (.allBut (String.ofList rest))
  | one {name : String} :
      rule.interface = some name → (∀ rest, name.toList ≠ '!' :: rest) →
      Matches rule (.one rule.side name)

theorem matches_interfaces {rule : Rule} (other : rule.chain ≠ .forward) :
    rule.Matches rule.interfaces := by
  rw [Rule.interfaces, if_neg (not_forwarded_of_chain other)]
  cases matched : present rule.interface with
  | none => exact .any
  | some name =>
      have given := eq_some_of_present matched
      dsimp only
      split
      case h_1 rest characters => exact .allBut given characters
      case h_2 plain => exact .one given plain

/-- An option is negated exactly if the rule says so, and otherwise suits the chain. -/
theorem option_suits_chain {rule : Rule} {option : InterfaceOption}
    (member : option ∈ rule.interfaces.options) :
    (option.negated = true ↔ rule.NegatesInterface) ∧
      (option.negated = false → rule.chain ∈ option.side.chains) := by
  by_cases forward : rule.chain = .forward
  · have forwards := (chain_eq_forward_iff rule).mp forward
    have unnegated : option.negated = false := by
      rw [interfaces_of_forward forward, InterfaceMatch.options, List.mem_append, List.mem_map,
        List.mem_map] at member
      rcases member with ⟨name, -, rfl⟩ | ⟨name, -, rfl⟩ <;> rfl
    constructor
    · rw [unnegated]
      exact ⟨nofun, fun negates => absurd forwards negates.1⟩
    · intro _
      rw [forward]
      exact option.side.forward_mem_chains
  · have elsewhere := mt (chain_eq_forward_iff rule).mpr forward
    have matched := matches_interfaces forward
    generalize rule.interfaces = interfaces at member matched
    cases matched with
    | any => contradiction
    | @allBut name rest given negated =>
        obtain rfl := List.mem_singleton.mp member
        exact ⟨⟨fun _ => ⟨elsewhere, name, given, rest, negated⟩, fun _ => rfl⟩, nofun⟩
    | @one name given plain =>
        obtain rfl := List.mem_singleton.mp member
        refine ⟨⟨nofun, ?_⟩, fun _ => chain_mem_chains_side forward⟩
        rintro ⟨-, other, isOther, rest, negated⟩
        obtain rfl := Option.some.inj (given.symm.trans isOther)
        exact absurd negated (plain rest)

/-! ## The whole rule -/

/-- Chain, interfaces and target of a rule agree with each other and with what the rule is. -/
structure FitsTogether (rule : Rule) : Prop where
  jumps : rule.JumpsTo rule.target
  target : rule.chain ∈ rule.target.chains
  accepts : rule.target = .accept ↔
    rule.returns = false ∧ rule.isNat = false ∧ rule.action = some .pass
  /-- No rule drops packets only because it has no action. -/
  drops : rule.target = .drop ↔
    rule.returns = false ∧ rule.isNat = false ∧ rule.action = some .block
  redirectPort : ∀ port, rule.redirect.port = some port → ∃ host,
    rule.redirect.host = some host ∧ rule.chain = .prerouting ∧
    (rule.target = .returning ∨ rule.target = .redirect (some port) ∨
      ∃ other ∈ [none, some port], rule.target = .destination host other)
  /-- No interface is left out, on either side of a rule that forwards or in any other rule. -/
  through : rule.chain = .forward →
    rule.interfaces = .through (present rule.inbound) (present rule.outbound)
  interface : rule.chain ≠ .forward → rule.interfaces.interface = present rule.interface
  written : rule.interfaces.words = rule.interfaces.options.flatMap InterfaceOption.words
  negations : ∀ option ∈ rule.interfaces.options,
    option.negated = true ↔ rule.NegatesInterface
  sides : ∀ option ∈ rule.interfaces.options,
    option.negated = false → rule.chain ∈ option.side.chains

/-- Chain, interfaces and target of every rule fit together. -/
theorem fitsTogether (rule : Rule) : rule.FitsTogether where
  jumps := rule.jumpsTo_target
  target := rule.jumpsTo_target.chain_mem_chains
  accepts := target_eq_iff rule .pass
  drops := target_eq_iff rule .block
  redirectPort := by
    intro port given
    obtain ⟨host, redirects⟩ := exists_redirect_host given
    exact ⟨host, redirects, chain_of_redirect redirects,
      given ▸ rule.jumpsTo_target.of_redirect redirects⟩
  through := interfaces_of_forward
  interface := interface_interfaces
  written := rule.interfaces.words_eq_flatMap_options
  negations := fun _ member => (option_suits_chain member).1
  sides := fun _ member => (option_suits_chain member).2

/-- A rule that sends packets through every interface but one; the option is the inbound one all the
same, as the outbound option cannot be negated. -/
example :
    line ⟨⟨some .pass, false, .outgoing, none, none, some "!eth0", none, none, .unspecified,
      .unspecified, none, .unspecified⟩, rfl, rfl⟩ = "-A OUTPUT ! -i eth0 -j ACCEPT" := by
  decide +kernel

end Rule

end Firewall
