import Firewall.Build.Factory
import Firewall.Proofs.Family
import Firewall.Proofs.Number.Tolerant
import Firewall.Proofs.Port
import Firewall.Proofs.Rule.Parts

/-!
# Rules that carry combinations

The rule of a combination has the values of the combination, and takes everything else over from
the intent.  Reading checks the values but never replaces one: a port that is a number stays this
number, and a range that the look-up of services has let through is no text that could be read as a
number (`candidate_of_portOf`).
-/

namespace Firewall

open Schema

/-! ## Ports -/

/-- The port as it was before it was checked. -/
def Port.candidate : Port → PortCandidate
  | .number value => .number value.val
  | .range content _ => .range content

/-- What the look-up of services lets through: numbers, and texts that it takes for ranges. -/
def PortCandidate.IsResolved : PortCandidate → Prop
  | .number _ => True
  | .range content => isPortRange content = true

theorem isPortRange_colon {content : String} (range : isPortRange content = true) :
    ':' ∈ content.toList := by
  rw [isPortRange, Bool.or_eq_true] at range
  rcases range with whole | lineBreak
  · exact isRangeIn_colon whole
  · rw [Bool.and_eq_true] at lineBreak
    exact List.dropLast_subset _ (isRangeIn_colon lineBreak.2)

theorem integer_range_ne_valid {content : String} (range : isPortRange content = true)
    (number : Int) : integer (.text content) ≠ .valid number := by
  rw [integer, wholeText]
  split
  · rw [integerOfText]
    split
    · rename_i read
      exact absurd read (Integer.readTolerantly_of_colon (isPortRange_colon range) _)
    · exact nofun
    · exact nofun
  · exact nofun

theorem portNumber_eq_valid {value : Value} {port : Port}
    (valid : Rule.portNumber value = .valid port) :
    ∃ number, integer value = .valid number ∧ port.candidate = .number number := by
  rw [Rule.portNumber] at valid
  cases read : integer value with
  | invalid issues =>
      rw [read] at valid
      contradiction
  | valid number =>
      rw [read, Checked.further] at valid
      split at valid
      · contradiction
      · split at valid
        · contradiction
        · rename_i notNegative notLarge
          cases valid
          refine ⟨number, rfl, ?_⟩
          rw [Port.candidate, Int.toNat_of_nonneg (Int.not_lt.mp notNegative)]

/-- A port that was checked is the port that was resolved. -/
theorem candidate_of_portOf {candidate : PortCandidate} {port : Port}
    (resolved : candidate.IsResolved) (valid : Rule.portOf candidate.value = .valid port) :
    port.candidate = candidate := by
  cases candidate with
  | number number =>
      have isNumber : Rule.portNumber (.int number) = .valid port := by
        have noText : Rule.portRange (.int number) = .issue .stringType := rfl
        rw [PortCandidate.value, Rule.portOf, noText, Checked.issue] at valid
        cases read : Rule.portNumber (.int number) with
        | valid found =>
            rw [read] at valid
            exact valid
        | invalid issues =>
            rw [read] at valid
            contradiction
      obtain ⟨found, read, same⟩ := portNumber_eq_valid isNumber
      cases read
      exact same
  | range content =>
      rw [PortCandidate.value, Rule.portOf] at valid
      cases read : Rule.portRange (.text content) with
      | valid found =>
          rw [read] at valid
          cases valid
          rw [Rule.portRange, wholeText] at read
          split at read
          · split at read
            · cases read
              rfl
            · contradiction
          · contradiction
      | invalid issues =>
          rw [read] at valid
          cases number : Rule.portNumber (.text content) with
          | valid found =>
              obtain ⟨number, read, -⟩ := portNumber_eq_valid number
              exact absurd read (integer_range_ne_valid resolved number)
          | invalid others =>
              rw [number] at valid
              contradiction

/-- The look-up of services lets through nothing else. -/
theorem portOfLeaf_isResolved {services : Services} {leaf : Value} {candidate : PortCandidate}
    (found : Factory.portOfLeaf services leaf = .ok (some candidate)) : candidate.IsResolved := by
  cases leaf with
  | text content =>
      rw [Factory.portOfLeaf, Factory.portOfText] at found
      split at found
      · rename_i range
        cases found
        exact range
      · -- Digits and services give numbers.
        split at found
        · split at found
          · cases found
            exact trivial
          · contradiction
        · split at found
          · cases found
            exact trivial
          · contradiction
  | int number =>
      cases found
      exact trivial
  | bool value =>
      cases found
      exact trivial
  | null | float | list | object => cases found

/-! ## Rules -/

/-- The families that are to agree: the one that the intent asks for, and those of the
addresses. -/
def Combination.families (intent : Intent) (combination : Combination) : List Family :=
  (FamilyChoice.asked? intent.family).toList ++
    [combination.sourceHost, combination.destinationHost, combination.masquerade,
      combination.redirectHost].filterMap (Option.map Address.family)

def Combination.ports (combination : Combination) : List PortCandidate :=
  [combination.sourcePort, combination.destinationPort, combination.redirectPort].filterMap id

/-- The rule has the values of a combination.  Its action, its direction, its interfaces and
whether it returns come from the intent, and its family is the one that occurs. -/
structure Rule.Carries (intent : Intent) (combination : Combination) (rule : Rule) : Prop where
  action : rule.action = intent.action
  returns : rule.returns = intent.returns
  direction : some rule.direction = intent.direction
  interface : rule.interface = intent.interface
  inbound : rule.inbound = intent.inbound
  outbound : rule.outbound = intent.outbound
  protocol : rule.protocol = combination.protocol
  sourceHost : rule.source.host = combination.sourceHost
  sourcePort : rule.source.port.map Port.candidate = combination.sourcePort
  destinationHost : rule.destination.host = combination.destinationHost
  destinationPort : rule.destination.port.map Port.candidate = combination.destinationPort
  masquerade : rule.masquerade = combination.masquerade
  redirectHost : rule.redirect.host = combination.redirectHost
  redirectPort : rule.redirect.port.map Port.candidate = combination.redirectPort
  family : ∀ family, rule.family = some family ↔ family ∈ combination.families intent

namespace Combination

theorem family_eq_commonFamily (intent : Intent) (combination : Combination) :
    combination.family intent = commonFamily (combination.families intent) := by
  rw [family, families, ← FamilyChoice.bind_restriction, hosts, List.map_filterMap]
  rfl

theorem family_mem_families {combination : Combination} {host : Address}
    (member : host ∈ combination.hosts) (intent : Intent) :
    host.family ∈ combination.families intent := by
  obtain ⟨place, isPlace, isHost⟩ := List.mem_filterMap.mp member
  apply List.mem_append_right
  exact List.mem_filterMap.mpr ⟨place, isPlace, Option.map_eq_some_iff.mpr ⟨host, isHost, rfl⟩⟩

theorem endpoint_eq_valid {field : Intent.Field} {host : Option Address}
    {port : Option PortCandidate} {found : Rule.Endpoint}
    (resolved : ∀ candidate, port = some candidate → candidate.IsResolved)
    (valid : endpoint field host port = .valid found) :
    found.host = host ∧ found.port.map Port.candidate = port := by
  unfold endpoint at valid
  rw [Checked.under_eq_valid_iff, Checked.map_eq_valid_iff] at valid
  obtain ⟨checkedPort, valid, rfl⟩ := valid
  refine ⟨rfl, ?_⟩
  cases port with
  | none =>
      cases valid
      rfl
  | some candidate =>
      obtain ⟨value, read, rfl⟩ := Checked.map_eq_valid_iff.mp valid
      rw [Checked.under_eq_valid_iff] at read
      exact congrArg some (candidate_of_portOf (resolved candidate rfl) read)

theorem direction_eq_valid {intent : Intent} {found : Direction}
    (valid : direction intent = .valid found) : some found = intent.direction := by
  rw [direction] at valid
  split at valid
  · rename_i given
    cases valid
    exact given.symm
  · contradiction

/-- A combination gives no rule for a conflict exactly when it mixes the two families. -/
theorem rule_eq_conflict_iff {intent : Intent} {combination : Combination} :
    (∃ conflict, combination.rule intent = .error (.conflict conflict)) ↔
      .inet ∈ combination.families intent ∧ .inet6 ∈ combination.families intent := by
  refine Iff.trans ?_ commonFamily_eq_error_iff
  rw [rule, family_eq_commonFamily]
  cases commonFamily (combination.families intent) with
  | error conflict => exact ⟨fun _ => ⟨conflict, rfl⟩, fun _ => ⟨conflict, rfl⟩⟩
  | ok common =>
      constructor
      · rintro ⟨conflict, clash⟩
        exact absurd clash (Rule.ofParts_ne_conflict _ conflict)
      · rintro ⟨conflict, ⟨⟩⟩

theorem family_of_rule_eq_ok {intent : Intent} {combination : Combination} {rule : Rule}
    (made : combination.rule intent = .ok rule) (family : Family) :
    rule.family = some family ↔ family ∈ combination.families intent := by
  unfold Combination.rule at made
  cases common : combination.family intent with
  | error conflict =>
      rw [common] at made
      contradiction
  | ok found =>
      rw [common] at made
      dsimp only at made
      rw [Rule.ofParts_eq_ok_iff, Rule.fields_eq_valid_iff] at made
      rw [← made.2.2.2.1]
      rw [family_eq_commonFamily] at common
      exact (commonFamily_eq_ok_iff.mp common).2 family

/-- The rule of a combination carries it. -/
theorem carries_of_rule_eq_ok {intent : Intent} {combination : Combination} {rule : Rule}
    (resolved : ∀ candidate ∈ combination.ports, candidate.IsResolved)
    (made : combination.rule intent = .ok rule) : rule.Carries intent combination := by
  have families := family_of_rule_eq_ok made
  unfold Combination.rule at made
  cases common : combination.family intent with
  | error conflict =>
      rw [common] at made
      contradiction
  | ok found =>
      rw [common] at made
      dsimp only at made
      rw [Rule.ofParts_eq_ok_iff, Rule.fields_eq_valid_iff] at made
      obtain ⟨action, returns, direction, -, protocol, interface, inbound, outbound,
        source, destination, masquerade, redirect, -⟩ := made
      have endpointsResolved : ∀ port ∈ [combination.sourcePort, combination.destinationPort,
          combination.redirectPort], ∀ candidate, port = some candidate → candidate.IsResolved := by
        intro port member candidate isCandidate
        apply resolved
        rw [ports, List.mem_filterMap]
        exact ⟨port, member, isCandidate⟩
      have atSource := endpoint_eq_valid (endpointsResolved _ (by simp)) source
      have atDestination := endpoint_eq_valid (endpointsResolved _ (by simp)) destination
      have atRedirect := endpoint_eq_valid (endpointsResolved _ (by simp)) redirect
      exact {
        action := (Checked.valid.inj action).symm
        returns := (Checked.valid.inj returns).symm
        direction := direction_eq_valid direction
        interface := (Checked.valid.inj interface).symm
        inbound := (Checked.valid.inj inbound).symm
        outbound := (Checked.valid.inj outbound).symm
        protocol := (Checked.valid.inj protocol).symm
        sourceHost := atSource.1
        sourcePort := atSource.2
        destinationHost := atDestination.1
        destinationPort := atDestination.2
        masquerade := (Checked.valid.inj masquerade).symm
        redirectHost := atRedirect.1
        redirectPort := atRedirect.2
        family := families }

end Combination

end Firewall
