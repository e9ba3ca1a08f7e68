import Firewall.Proofs.Build.Carrying
import Firewall.Proofs.Build.Outcome
import Mathlib.Data.List.ProdSigma

/-!
# Accounting for every combination

A build that succeeds has looked at every choice of one alternative in each of the eight fields, in
lexicographic order.  `Batch.AccountsFor` says what becomes of the choices: those that mix the two
families are counted as dropped, those of another family than the one asked for as filtered, and
each of the others has its rule, in the order of the choices.
-/

namespace Firewall

open Resolver

/-! ## The choices -/

/-- One alternative for each field, the outermost field first. -/
abbrev Choice :=
  Option String × Option Address × Option PortCandidate × Option Address × Option PortCandidate ×
    Option Address × Option Address × Option PortCandidate

def Combination.ofChoice : Choice → Combination
  | (protocol, sourceHost, sourcePort, destinationHost, destinationPort, masquerade, redirectHost,
      redirectPort) =>
      { protocol, sourceHost, sourcePort, destinationHost, destinationPort, masquerade,
        redirectHost, redirectPort }

/-- The combinations are the product of the alternatives, in lexicographic order. -/
theorem combinations_eq_product (alternatives : Alternatives) :
    alternatives.combinations =
      (alternatives.protocols ×ˢ alternatives.sourceHosts ×ˢ alternatives.sourcePorts ×ˢ
        alternatives.destinationHosts ×ˢ alternatives.destinationPorts ×ˢ
        alternatives.masquerades ×ˢ alternatives.redirectHosts ×ˢ
        alternatives.redirectPorts).map Combination.ofChoice := by
  simp only [Alternatives.combinations, SProd.sprod, List.product, List.map_flatMap, List.map_map]
  rfl

namespace Intent

def Hosts.names (hosts : Hosts) : List String :=
  hosts.toList.filterMap fun
    | some (.named name) => some name
    | _ => none

/-- The names of all hosts of an intent. -/
def hostNames (intent : Intent) : List String :=
  intent.source.hosts.names ++ intent.destination.hosts.names ++ intent.masquerade.names
    ++ intent.redirect.hosts.names

/-- The addresses that a host stands for. -/
def Host.addresses (addresses : String → List Address) : Host → List Address
  | .address literal => [literal]
  | .named name => addresses name

/-- The alternatives for hosts: their addresses one after the other, or one absent host. -/
def Hosts.choices (addresses : String → List Address) : Hosts → List (Option Address)
  | .absent => [none]
  | .one host => (host.addresses addresses).map some
  | .many hosts => (hosts.flatMap (Host.addresses addresses)).map some

end Intent

/-! ## The verdicts -/

namespace Combination

variable (intent : Intent) (restriction : Option Family) (combination : Combination)

/-- The combination has addresses of two families, or one of another family than its intent
asks for. -/
def Mixes : Prop :=
  .inet ∈ combination.families intent ∧ .inet6 ∈ combination.families intent

/-- The combination is of one family, and that is not the one asked for. -/
def IsOutside : Prop :=
  ¬ combination.Mixes intent ∧
    ∃ required ∈ restriction, ∃ family ∈ combination.families intent, family ≠ required

/-- The combination makes a rule that is wanted. -/
def IsKept : Prop :=
  ¬ combination.Mixes intent ∧ ¬ combination.IsOutside intent restriction

instance : Decidable (combination.Mixes intent) := inferInstanceAs (Decidable (_ ∧ _))

instance : Decidable (combination.IsOutside intent restriction) :=
  inferInstanceAs (Decidable (_ ∧ _))

instance : Decidable (combination.IsKept intent restriction) :=
  inferInstanceAs (Decidable (_ ∧ _))

end Combination

/-- A batch accounts for some combinations: every one of them is dropped, filtered or kept, and the
rules that are kept carry their combinations in order. -/
structure Batch.AccountsFor (intent : Intent) (restriction : Option Family)
    (combinations : List Combination) (batch : Batch) : Prop where
  considered : batch.attempts = combinations.length
  dropped : batch.dropped = combinations.countP fun combination =>
    decide (combination.Mixes intent)
  filtered : batch.filtered = combinations.countP fun combination =>
    decide (combination.IsOutside intent restriction)
  kept : List.Forall₂ (Rule.Carries intent)
    (combinations.filter fun combination => decide (combination.IsKept intent restriction))
    batch.kept

namespace Batch

theorem ofVerdicts_dropped (conflict : FamilyConflict) (verdicts : List Verdict) :
    ofVerdicts (.dropped conflict :: verdicts) =
      { ofVerdicts verdicts with dropped := (ofVerdicts verdicts).dropped + 1 } := by
  simp [ofVerdicts, List.filterMap_cons, List.countP_cons, Verdict.rule?, Verdict.isDropped,
    Verdict.isFiltered]

theorem ofVerdicts_filtered (family restriction : Family) (verdicts : List Verdict) :
    ofVerdicts (.filtered family restriction :: verdicts) =
      { ofVerdicts verdicts with filtered := (ofVerdicts verdicts).filtered + 1 } := by
  simp [ofVerdicts, List.filterMap_cons, List.countP_cons, Verdict.rule?, Verdict.isDropped,
    Verdict.isFiltered]

theorem ofVerdicts_kept (rule : Rule) (verdicts : List Verdict) :
    ofVerdicts (.kept rule :: verdicts) =
      { ofVerdicts verdicts with kept := rule :: (ofVerdicts verdicts).kept } := by
  simp [ofVerdicts, Verdict.rule?, Verdict.isDropped, Verdict.isFiltered]

namespace AccountsFor

variable {intent : Intent} {restriction : Option Family} {combination : Combination}
  {rest : List Combination} {batch : Batch}

theorem cons_dropped (accounts : batch.AccountsFor intent restriction rest)
    (mixes : combination.Mixes intent) :
    { batch with dropped := batch.dropped + 1 }.AccountsFor intent restriction
      (combination :: rest) := by
  have notOutside : ¬ combination.IsOutside intent restriction := fun outside => outside.1 mixes
  have notKept : ¬ combination.IsKept intent restriction := fun kept => kept.1 mixes
  obtain ⟨considered, dropped, filtered, kept⟩ := accounts
  refine ⟨?_, ?_, ?_, ?_⟩
  · rw [List.length_cons, ← considered, attempts, attempts]
    exact Nat.add_right_comm (batch.kept.length + batch.dropped) 1 batch.filtered
  · rw [List.countP_cons_of_pos (by simpa using mixes), ← dropped]
  · rw [List.countP_cons_of_neg (by simpa using notOutside), ← filtered]
  · rw [List.filter_cons_of_neg (by simpa using notKept)]
    exact kept

theorem cons_filtered (accounts : batch.AccountsFor intent restriction rest)
    (outside : combination.IsOutside intent restriction) :
    { batch with filtered := batch.filtered + 1 }.AccountsFor intent restriction
      (combination :: rest) := by
  have single : ¬ combination.Mixes intent := outside.1
  have notKept : ¬ combination.IsKept intent restriction := fun kept => kept.2 outside
  obtain ⟨considered, dropped, filtered, kept⟩ := accounts
  refine ⟨?_, ?_, ?_, ?_⟩
  · rw [List.length_cons, ← considered]
    rfl
  · rw [List.countP_cons_of_neg (by simpa using single), ← dropped]
  · rw [List.countP_cons_of_pos (by simpa using outside), ← filtered]
  · rw [List.filter_cons_of_neg (by simpa using notKept)]
    exact kept

theorem cons_kept (accounts : batch.AccountsFor intent restriction rest)
    (isKept : combination.IsKept intent restriction) {rule : Rule}
    (carries : rule.Carries intent combination) :
    { batch with kept := rule :: batch.kept }.AccountsFor intent restriction
      (combination :: rest) := by
  obtain ⟨considered, dropped, filtered, kept⟩ := accounts
  refine ⟨?_, ?_, ?_, ?_⟩
  · rw [List.length_cons, ← considered, attempts, attempts, List.length_cons]
    dsimp only
    omega
  · rw [List.countP_cons_of_neg (by simpa using isKept.1), ← dropped]
  · rw [List.countP_cons_of_neg (by simpa using isKept.2), ← filtered]
  · rw [List.filter_cons_of_pos (by simpa using isKept)]
    exact .cons carries kept

end AccountsFor

end Batch

/-- The verdict on the rule of a combination looks only at the families. -/
theorem onRule_cases {intent : Intent} {restriction : Option Family} {combination : Combination}
    {rule : Rule} (single : ¬ combination.Mixes intent)
    (carries : rule.Carries intent combination) :
    (combination.IsOutside intent restriction ∧
      ∃ family required, Verdict.onRule restriction rule = .filtered family required) ∨
    (combination.IsKept intent restriction ∧ Verdict.onRule restriction rule = .kept rule) := by
  unfold Verdict.onRule
  cases restriction with
  | none =>
      right
      refine ⟨⟨single, ?_⟩, by cases rule.family <;> rfl⟩
      rintro ⟨-, required, ⟨⟩, -⟩
  | some required =>
      cases occurs : rule.family with
      | none =>
          right
          refine ⟨⟨single, ?_⟩, rfl⟩
          rintro ⟨-, -, -, family, member, -⟩
          rw [← carries.family, occurs] at member
          contradiction
      | some family =>
          have member := (carries.family family).mp occurs
          dsimp only
          by_cases same : family = required
          · right
            refine ⟨⟨single, ?_⟩, if_pos same⟩
            rintro ⟨-, other, isRestriction, found, foundMember, different⟩
            cases isRestriction
            rw [← carries.family, occurs, same] at foundMember
            exact different (Option.some.inj foundMember).symm
          · left
            exact ⟨⟨single, required, rfl, family, member, same⟩, family, required, if_neg same⟩

/-- The verdict on a combination says whether it mixes families, is outside, or is kept with a rule
that carries it. -/
theorem verdict_cases {intent : Intent} {restriction : Option Family} {combination : Combination}
    {verdict : Verdict} (resolved : ∀ candidate ∈ combination.ports, candidate.IsResolved)
    (reached : Verdict.onCombination intent restriction combination = .ok verdict) :
    (combination.Mixes intent ∧ ∃ conflict, verdict = .dropped conflict) ∨
    (combination.IsOutside intent restriction ∧
      ∃ family required, verdict = .filtered family required) ∨
    (combination.IsKept intent restriction ∧
      ∃ rule, verdict = .kept rule ∧ rule.Carries intent combination) := by
  unfold Verdict.onCombination at reached
  cases made : combination.rule intent with
  | error fault =>
      rw [made] at reached
      cases fault with
      | conflict conflict =>
          cases reached
          exact .inl ⟨Combination.rule_eq_conflict_iff.mp ⟨conflict, made⟩, conflict, rfl⟩
      | invalid invalid => contradiction
  | ok rule =>
      have single : ¬ combination.Mixes intent := by
        intro mixes
        obtain ⟨conflict, clash⟩ := Combination.rule_eq_conflict_iff.mpr mixes
        rw [made] at clash
        contradiction
      have carries := Combination.carries_of_rule_eq_ok resolved made
      rw [made] at reached
      cases reached
      right
      rcases onRule_cases single carries with outside | kept
      · exact .inl outside
      · exact .inr ⟨kept.1, rule, kept.2, carries⟩

/-- A run through all combinations without an invalid one accounts for every one of them. -/
theorem accountsFor_of_onAll {intent : Intent} {restriction : Option Family}
    {combinations : List Combination} {verdicts : List Verdict}
    (resolved : ∀ combination ∈ combinations, ∀ candidate ∈ combination.ports, candidate.IsResolved)
    (reached : Verdict.onAll intent restriction combinations = (verdicts, none)) :
    (Batch.ofVerdicts verdicts).AccountsFor intent restriction combinations := by
  induction combinations generalizing verdicts with
  | nil =>
      cases reached
      exact ⟨rfl, rfl, rfl, .nil⟩
  | cons combination rest ih =>
      unfold Verdict.onAll at reached
      cases first : Verdict.onCombination intent restriction combination with
      | error invalid =>
          rw [first] at reached
          cases reached
      | ok verdict =>
          cases others : Verdict.onAll intent restriction rest with
          | mk restVerdicts invalid =>
              rw [first, others] at reached
              cases reached
              have accounts := ih (fun other member =>
                resolved other (List.mem_cons_of_mem combination member)) others
              rcases verdict_cases (resolved combination List.mem_cons_self) first with
                ⟨mixes, conflict, rfl⟩ | ⟨outside, family, required, rfl⟩ |
                ⟨isKept, rule, rfl, carries⟩
              · rw [Batch.ofVerdicts_dropped]
                exact accounts.cons_dropped mixes
              · rw [Batch.ofVerdicts_filtered]
                exact accounts.cons_filtered outside
              · rw [Batch.ofVerdicts_kept]
                exact accounts.cons_kept isKept carries

/-! ## The references -/

namespace Intent

variable {answers : Answers} {addresses : String → List Address}

/-- A host that is resolved stands for the addresses of its name, or for itself. -/
theorem Host.addresses_of_outcome {host : Host} {found : List (Option Address)}
    (answered : ∀ name list, answers name = .ok list → addresses name = list)
    (reached : hostOutcome answers (some host) = .ok found) :
    (host.addresses addresses).map some = found ∧
      ∀ name, host = .named name → answers name = .ok (addresses name) := by
  cases host with
  | address literal =>
      cases reached
      exact ⟨rfl, nofun⟩
  | named name =>
      obtain ⟨list, isAnswer, same⟩ := bind_eq_ok_iff.mp reached
      have known := answered name list isAnswer
      cases same
      refine ⟨congrArg (List.map some) known, ?_⟩
      rintro other ⟨⟩
      rw [known]
      exact isAnswer

/-- Hosts that are resolved stand for the addresses of each, one after the other. -/
theorem addresses_of_outcomes {hosts : List Host} {lists : List (List (Option Address))}
    (answered : ∀ name list, answers name = .ok list → addresses name = list)
    (reached : (hosts.map some).mapM (hostOutcome answers) = .ok lists) :
    (hosts.flatMap (Host.addresses addresses)).map some = lists.flatten ∧
      ∀ name, .named name ∈ hosts → answers name = .ok (addresses name) := by
  rw [mapM_eq_ok_iff] at reached
  induction hosts generalizing lists with
  | nil =>
      cases reached
      exact ⟨rfl, nofun⟩
  | cons host rest ih =>
      rw [List.map_cons] at reached
      cases reached with
      | cons first others =>
          obtain ⟨firstAddresses, firstAnswers⟩ := Host.addresses_of_outcome answered first
          obtain ⟨restAddresses, restAnswers⟩ := ih others
          constructor
          · rw [List.flatMap_cons, List.map_append, firstAddresses, restAddresses,
              List.flatten_cons]
          · intro name member
            rcases List.mem_cons.mp member with isFirst | inRest
            · exact firstAnswers name isFirst.symm
            · exact restAnswers name inRest

theorem Hosts.mem_names_iff {hosts : Hosts} {name : String} :
    name ∈ hosts.names ↔ some (.named name) ∈ hosts.toList := by
  rw [names, List.mem_filterMap]
  constructor
  · rintro ⟨host, member, isName⟩
    split at isName
    · cases isName
      exact member
    · contradiction
  · intro member
    exact ⟨_, member, rfl⟩

/-- The alternatives for hosts are their choices, and all their names are answered. -/
theorem Hosts.choices_of_outcome {hosts : Hosts} {list : List (Option Address)}
    (answered : ∀ name list, answers name = .ok list → addresses name = list)
    (reached : hosts.outcome answers = .ok list) :
    hosts.choices addresses = list ∧
      ∀ name ∈ hosts.names, answers name = .ok (addresses name) := by
  obtain ⟨lists, each, same⟩ := bind_eq_ok_iff.mp reached
  cases same
  simp only [Hosts.mem_names_iff]
  cases hosts with
  | absent =>
      cases each
      exact ⟨rfl, by simp [Hosts.toList]⟩
  | one host =>
      have asList : ([host].map some).mapM (hostOutcome answers) = .ok lists := each
      obtain ⟨known, names⟩ := addresses_of_outcomes answered asList
      rw [List.flatMap_singleton] at known
      exact ⟨known, by simpa [Hosts.toList] using names⟩
  | many hosts =>
      obtain ⟨known, names⟩ := addresses_of_outcomes answered each
      exact ⟨known, by simpa [Hosts.toList] using names⟩

end Intent

theorem isResolved_of_outcome {services : Services} {ports : Intent.Ports}
    {list : List (Option PortCandidate)} (reached : ports.outcome services = .ok list) :
    ports.leaves.map (Factory.portOfLeaf services) = list.map .ok ∧
      ∀ candidate, some candidate ∈ list → candidate.IsResolved := by
  rw [Intent.Ports.outcome, mapM_eq_ok_iff] at reached
  generalize ports.leaves = leaves at reached
  induction reached with
  | nil => exact ⟨rfl, nofun⟩
  | cons first _ ih =>
      constructor
      · rw [List.map_cons, List.map_cons, first, ih.1]
      · intro candidate member
        rcases List.mem_cons.mp member with rfl | inRest
        · exact portOfLeaf_isResolved first
        · exact ih.2 candidate inRest

theorem ports_isResolved {alternatives : Alternatives}
    (resolved : ∀ ports ∈ [alternatives.sourcePorts, alternatives.destinationPorts,
      alternatives.redirectPorts], ∀ candidate, some candidate ∈ ports → candidate.IsResolved) :
    ∀ combination ∈ alternatives.combinations, ∀ candidate ∈ combination.ports,
      candidate.IsResolved := by
  intro combination member candidate candidateMember
  simp only [Alternatives.combinations, List.mem_flatMap, List.mem_map] at member
  obtain ⟨_, _, _, _, sourcePort, inSource, _, _, destinationPort, inDestination, _, _, _, _,
    redirectPort, inRedirect, rfl⟩ := member
  simp only [Combination.ports, List.mem_filterMap, id_eq, List.mem_cons, List.not_mem_nil,
    or_false] at candidateMember
  obtain ⟨port, isAmong, rfl⟩ := candidateMember
  rcases isAmong with rfl | rfl | rfl
  · exact resolved _ (by simp) candidate inSource
  · exact resolved _ (by simp) candidate inDestination
  · exact resolved _ (by simp) candidate inRedirect

/-! ## Builds -/

/-- Known alternatives without an invalid combination have a batch that accounts for them. -/
theorem accountsFor_of_batch {intent : Intent} {restriction : Option Family}
    {combinations : List Combination} {batch : Batch}
    (resolved : ∀ combination ∈ combinations, ∀ candidate ∈ combination.ports, candidate.IsResolved)
    (reached : Verdict.batch (Verdict.onAll intent restriction combinations) = .ok batch) :
    batch.AccountsFor intent restriction combinations := by
  cases run : Verdict.onAll intent restriction combinations with
  | mk verdicts invalid =>
      rw [run] at reached
      cases invalid with
      | some invalid => contradiction
      | none =>
          cases reached
          exact accountsFor_of_onAll resolved run

/-- What the references of an intent stand for, as its names and ports are resolved. -/
structure Resolution (factory : Factory) (history : History) (intent : Intent) where
  addresses : String → List Address
  sourcePorts : List (Option PortCandidate)
  destinationPorts : List (Option PortCandidate)
  redirectPorts : List (Option PortCandidate)
  named : ∀ name ∈ intent.hostNames,
    ((factory.resolver.resolve name).after history).1 = .ok (addresses name)
  source : intent.source.ports.leaves.map (Factory.portOfLeaf factory.services) =
    sourcePorts.map .ok
  destination : intent.destination.ports.leaves.map (Factory.portOfLeaf factory.services) =
    destinationPorts.map .ok
  redirect : intent.redirect.ports.leaves.map (Factory.portOfLeaf factory.services) =
    redirectPorts.map .ok

/-- The product of the eight fields, the outermost first: hosts are the addresses of their names one
after the other, ports the leaves as they are resolved, and an absent field has one alternative. -/
def Resolution.choices {factory : Factory} {history : History} {intent : Intent}
    (resolution : Resolution factory history intent) : List Choice :=
  intent.protocols.toList ×ˢ
    intent.source.hosts.choices resolution.addresses ×ˢ resolution.sourcePorts ×ˢ
    intent.destination.hosts.choices resolution.addresses ×ˢ resolution.destinationPorts ×ˢ
    intent.masquerade.choices resolution.addresses ×ˢ
    intent.redirect.hosts.choices resolution.addresses ×ˢ resolution.redirectPorts

/-- Known alternatives come from a resolution. -/
theorem exists_resolution {factory : Factory} {history : History} {intent : Intent}
    {alternatives : Alternatives}
    (known : intent.alternatives factory.services (factory.resolver.answers history) =
      .ok alternatives) :
    ∃ resolution : Resolution factory history intent,
      resolution.choices.map Combination.ofChoice = alternatives.combinations ∧
      ∀ combination ∈ alternatives.combinations, ∀ candidate ∈ combination.ports,
        candidate.IsResolved := by
  let addresses : String → List Address := fun name =>
    (factory.resolver.answers history name).toOption.getD []
  have answered : ∀ name list, factory.resolver.answers history name = .ok list →
      addresses name = list := by
    intro name list isAnswer
    simp only [addresses, isAnswer, Except.toOption, Option.getD_some]
  obtain ⟨protocols, sourceHosts, sourcePorts, destinationHosts, destinationPorts, redirectHosts,
    redirectPorts, masquerades⟩ := Intent.alternatives_eq_ok_iff.mp known
  have atSourceHosts := Intent.Hosts.choices_of_outcome answered sourceHosts
  have atDestinationHosts := Intent.Hosts.choices_of_outcome answered destinationHosts
  have atMasquerades := Intent.Hosts.choices_of_outcome answered masquerades
  have atRedirectHosts := Intent.Hosts.choices_of_outcome answered redirectHosts
  have atSourcePorts := isResolved_of_outcome sourcePorts
  have atDestinationPorts := isResolved_of_outcome destinationPorts
  have atRedirectPorts := isResolved_of_outcome redirectPorts
  have named : ∀ name ∈ intent.hostNames,
      ((factory.resolver.resolve name).after history).1 = .ok (addresses name) := by
    intro name member
    rw [(resolve_determined factory.resolver name history).1]
    simp only [Intent.hostNames, List.mem_append] at member
    rcases member with ((inSource | inDestination) | inMasquerade) | inRedirect
    · exact atSourceHosts.2 name inSource
    · exact atDestinationHosts.2 name inDestination
    · exact atMasquerades.2 name inMasquerade
    · exact atRedirectHosts.2 name inRedirect
  refine ⟨⟨addresses, _, _, _, named, atSourcePorts.1, atDestinationPorts.1, atRedirectPorts.1⟩,
    ?_, ports_isResolved ?_⟩
  · rw [combinations_eq_product, Resolution.choices, atSourceHosts.1, atDestinationHosts.1,
      atMasquerades.1, atRedirectHosts.1, ← protocols]
  · intro ports member
    simp only [List.mem_cons, List.not_mem_nil, or_false] at member
    rcases member with rfl | rfl | rfl
    · exact atSourcePorts.2
    · exact atDestinationPorts.2
    · exact atRedirectPorts.2

/-- A build that succeeds accounts for the product of the alternatives of its intent. -/
theorem build_accountsFor_product (factory : Factory) (intent : Intent)
    (scope : Option FamilyChoice) (history : History) (batch : Batch)
    (nonempty : intent.isEmpty = false)
    (returned : ((factory.build intent (scope.bind FamilyChoice.restriction)).after history).1 =
      .ok batch) :
    ∃ resolution : Resolution factory history intent,
      batch.AccountsFor intent (FamilyChoice.asked? scope)
        (resolution.choices.map Combination.ofChoice) := by
  rw [FamilyChoice.bind_restriction] at returned
  have reached := (factory.build_determined intent _ history).1.symm.trans returned
  dsimp only [Factory.outcome] at reached
  rw [if_neg (by simp [nonempty])] at reached
  obtain ⟨alternatives, known, given⟩ := bind_eq_ok_iff.mp reached
  obtain ⟨resolution, same, resolved⟩ := exists_resolution known
  refine ⟨resolution, ?_⟩
  rw [same]
  exact accountsFor_of_batch resolved given

/-- A name with an address of each family, and one service. -/
def dualFactory : Factory where
  resolver :=
    ⟨Table.ofList [("dual", [.v4 0x0A000001#32 (.last 32), .v6 1#128 none (.last 128)])], none⟩
  services := Table.ofList [("http", 80)]

/-- From the name to itself and to another address, at nested ports. -/
def dualIntent : Intent where
  action := some .pass
  returns := false
  direction := some .incoming
  family := none
  protocols := .many ["tcp", "udp"]
  interface := none
  inbound := none
  outbound := none
  source := ⟨.one (.named "dual"), .absent⟩
  destination := ⟨.many [.named "dual", .address (.v4 0x0A000002#32 (.last 32))],
    .many [.int 443, .list [.text "http", .text "8000:8010"]]⟩
  masquerade := .absent
  redirect := .unspecified
  given := [.action, .direction, .protocols, .source, .destination]

/-- The same intent, asking for a family. -/
def dualIntentOf (family : Family) : Intent :=
  { dualIntent with
    family := some (.only family)
    given := .family :: dualIntent.given }

/-- Of thirty-six choices half mix the families, and six of the others are of the other family.  If
the intent asks for a family itself, six more are dropped, and what is left may all be filtered. -/
theorem build_dual_accountsFor_product :
    (dualIntent.isEmpty = false ∧
      ∃ batch : Batch,
        ((dualFactory.build dualIntent (some .inet)).after .empty).1 = .ok batch ∧
        (batch.kept.length, batch.dropped, batch.filtered) = (12, 18, 6) ∧
        ∃ resolution : Resolution dualFactory .empty dualIntent,
          batch.AccountsFor dualIntent (some .inet)
            (resolution.choices.map Combination.ofChoice)) ∧
    (dualIntentOf .inet).isEmpty = false ∧
    (∃ batch : Batch,
      ((dualFactory.build (dualIntentOf .inet) none).after .empty).1 = .ok batch ∧
      (batch.kept.length, batch.dropped, batch.filtered) = (12, 24, 0) ∧
      ∃ resolution : Resolution dualFactory .empty (dualIntentOf .inet),
        batch.AccountsFor (dualIntentOf .inet) none
          (resolution.choices.map Combination.ofChoice)) ∧
    ∃ batch : Batch,
      ((dualFactory.build (dualIntentOf .inet) (some .inet6)).after .empty).1 = .ok batch ∧
      (batch.kept.length, batch.dropped, batch.filtered) = (0, 24, 12) ∧
      ∃ resolution : Resolution dualFactory .empty (dualIntentOf .inet),
        batch.AccountsFor (dualIntentOf .inet) (some .inet6)
          (resolution.choices.map Combination.ofChoice) := by
  have unasked : ((dualFactory.build dualIntent (some .inet)).after .empty).1.toOption.map
      (fun batch => (batch.kept.length, batch.dropped, batch.filtered)) = some (12, 18, 6) := by
    decide +kernel
  have asked : ((dualFactory.build (dualIntentOf .inet) none).after .empty).1.toOption.map
      (fun batch => (batch.kept.length, batch.dropped, batch.filtered)) = some (12, 24, 0) := by
    decide +kernel
  have askedOtherwise :
      ((dualFactory.build (dualIntentOf .inet) (some .inet6)).after .empty).1.toOption.map
        (fun batch => (batch.kept.length, batch.dropped, batch.filtered)) = some (0, 24, 12) := by
    decide +kernel
  refine ⟨⟨rfl, ?_⟩, rfl, ?_, ?_⟩
  · obtain ⟨batch, returned, counts⟩ := exists_ok_of_map_toOption unasked
    exact ⟨batch, returned, counts, build_accountsFor_product dualFactory dualIntent
      (some (.only .inet)) .empty batch rfl returned⟩
  · obtain ⟨batch, returned, counts⟩ := exists_ok_of_map_toOption asked
    exact ⟨batch, returned, counts, build_accountsFor_product dualFactory (dualIntentOf .inet)
      (some .any) .empty batch rfl returned⟩
  · obtain ⟨batch, returned, counts⟩ := exists_ok_of_map_toOption askedOtherwise
    exact ⟨batch, returned, counts, build_accountsFor_product dualFactory (dualIntentOf .inet)
      (some (.only .inet6)) .empty batch rfl returned⟩

end Firewall
