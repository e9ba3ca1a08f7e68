import Firewall.Proofs.Build.Accounting
import Firewall.Proofs.Build.References
import Firewall.Proofs.Intent.Arrangement

/-!
# Nested ports

Ports may be looked up in two passes: one that keeps their arrangement (`Nested.lookUp`), and one
that takes the leaves of what was found.  Both together come to the look-up of the leaves
(`Nested.leaves_lookUp`), so that only the leaves of ports matter: what is built from an intent, or
from a document, stays the same with any other arrangement of the ports of an endpoint, and so does
the error if nothing is built (`Factory.build_rearranged`).
-/

namespace Firewall

open Resolver

/-! ## Looking up in two passes -/

/-- Values in an arrangement: one value, or a list of arrangements. -/
inductive Nested (α : Type) where
  | leaf (value : α)
  | list (items : List (Nested α))

namespace Nested

variable {α : Type}

mutual

/-- The values of an arrangement, in order. -/
def leaves : Nested α → List α
  | .leaf value => [value]
  | .list items => leavesOfItems items

def leavesOfItems : List (Nested α) → List α
  | [] => []
  | item :: rest => item.leaves ++ leavesOfItems rest

end

mutual

/-- The ports that a value stands for, in the arrangement of the value. -/
def lookUp (services : Services) : Value → Except BuildError (Nested (Option PortCandidate))
  | .list items => .list <$> lookUpItems services items
  | value => .leaf <$> Factory.portOfLeaf services value

def lookUpItems (services : Services) :
    List Value → Except BuildError (List (Nested (Option PortCandidate)))
  | [] => .ok []
  | item :: rest => do return (← lookUp services item) :: (← lookUpItems services rest)

end

variable {services : Services}

theorem lookUp_leaf (value : Value) :
    leaves <$> leaf <$> Factory.portOfLeaf services value =
      [value].mapM (Factory.portOfLeaf services) := by
  rw [List.mapM_cons]
  cases Factory.portOfLeaf services value with
  | error error => rfl
  | ok port => rfl

mutual

/-- The leaves of what is found are what is found for the leaves. -/
theorem leaves_lookUp (value : Value) :
    leaves <$> lookUp services value = value.leaves.mapM (Factory.portOfLeaf services) := by
  cases value with
  | list items =>
      rw [lookUp, Value.leaves, ← leavesOfItems_lookUpItems items]
      cases lookUpItems services items with
      | error error => rfl
      | ok found => rfl
  | null | bool | int | float | text | object => exact lookUp_leaf _

theorem leavesOfItems_lookUpItems (items : List Value) :
    leavesOfItems <$> lookUpItems services items =
      (Firewall.leavesOfItems items).mapM (Factory.portOfLeaf services) := by
  match items with
  | [] => rfl
  | item :: rest =>
      rw [lookUpItems, Firewall.leavesOfItems, List.mapM_append, ← leaves_lookUp item,
        ← leavesOfItems_lookUpItems rest]
      cases lookUp services item with
      | error error => rfl
      | ok found =>
          cases lookUpItems services rest with
          | error error => rfl
          | ok others => rfl

end

/-- The look-up fails for the first leaf that stands for no port. -/
theorem lookUp_eq_error_iff {value : Value} {error : BuildError} :
    lookUp services value = .error error ↔
      ∃ front leaf back, value.leaves = front ++ leaf :: back ∧
        Factory.portOfLeaf services leaf = .error error ∧
        ∀ other ∈ front, error? (Factory.portOfLeaf services other) = none := by
  have sameError : error? (lookUp services value) = error? (leaves <$> lookUp services value) := by
    cases lookUp services value with
    | error error => rfl
    | ok found => rfl
  rw [← error?_eq_some_iff, sameError, leaves_lookUp, error?_mapM, List.findSome?_eq_some_iff]
  simp only [error?_eq_some_iff]

end Nested

namespace Intent

/-! ## Endpoints of an intent -/

/-- What an endpoint is to an intent. -/
inductive Role where
  | source
  | destination
  | redirect
  deriving DecidableEq, Repr

def withPorts (intent : Intent) (ports : Ports) : Role → Intent
  | .source => { intent with source.ports := ports }
  | .destination => { intent with destination.ports := ports }
  | .redirect => { intent with redirect.ports := ports }

/-- What is resolved before the ports of an endpoint. -/
def referencesBefore (intent : Intent) : Role → List Reference
  | .source => intent.source.hosts.toList.map .host
  | .destination => intent.source.references ++ intent.destination.hosts.toList.map .host
  | .redirect =>
      intent.source.references ++ intent.destination.references
        ++ intent.redirect.hosts.toList.map .host

/-- The ports of an endpoint are resolved as their leaves, after what comes before them. -/
theorem exists_references_withPorts (intent : Intent) (role : Role) (ports : Ports) :
    ∃ afterwards, (intent.withPorts ports role).references =
      intent.referencesBefore role ++ (ports.leaves.map .port ++ afterwards) := by
  cases role <;>
    exact ⟨_, by simp only [references, Endpoint.references, referencesBefore, withPorts,
      List.append_assoc]; rfl⟩

theorem rearranges_withPorts (intent : Intent) (role : Role) {ports other : Ports}
    (same : other.leaves = ports.leaves) :
    (intent.withPorts ports role).Rearranges (intent.withPorts other role) := by
  have moved (endpoint : Endpoint) :
      Endpoint.Rearranges { endpoint with ports } { endpoint with ports := other } := ⟨rfl, same⟩
  have still := Endpoint.rearranges_refl
  cases role with
  | source => exact ⟨rfl, moved _, still _, still _⟩
  | destination => exact ⟨rfl, still _, moved _, still _⟩
  | redirect => exact ⟨rfl, still _, still _, moved _⟩

namespace Rearranges

variable {first second : Intent}

theorem alternatives_eq (rearranges : first.Rearranges second) (services : Services)
    (answers : Answers) :
    second.alternatives services answers = first.alternatives services answers := by
  obtain ⟨rest, source, destination, redirect⟩ := rearranges
  rw [rest]
  simp only [alternatives, Ports.outcome, source.hosts, source.leaves, destination.hosts,
    destination.leaves, redirect.hosts, redirect.leaves]

/-- The verdict on a combination does not look at the ports of the intent. -/
theorem onCombination_eq (rearranges : first.Rearranges second) (restriction : Option Family) :
    Verdict.onCombination second restriction = Verdict.onCombination first restriction := by
  rw [rearranges.rest]
  rfl

theorem onAll_eq (rearranges : first.Rearranges second) (restriction : Option Family)
    (combinations : List Combination) :
    Verdict.onAll second restriction combinations =
      Verdict.onAll first restriction combinations := by
  induction combinations with
  | nil => rfl
  | cons combination rest ih =>
      simp only [Verdict.onAll, rearranges.onCombination_eq, ih]

theorem isEmpty_eq (rearranges : first.Rearranges second) : second.isEmpty = first.isEmpty := by
  rw [rearranges.rest]
  rfl

end Rearranges

end Intent

namespace Factory

open Intent Schema

variable {factory : Factory} {answers : Answers}

/-! ## Builds -/

theorem outcome_rearranged {first second : Intent} (rearranges : first.Rearranges second)
    (restriction : Option Family) :
    factory.outcome second restriction answers = factory.outcome first restriction answers := by
  simp only [outcome, rearranges.isEmpty_eq, rearranges.alternatives_eq, rearranges.onAll_eq]

/-- The first leaf of the ports that stands for no port is why nothing is built, unless something
before the ports is. -/
theorem outcome_of_lookUp_eq_error {intent : Intent} (nonempty : intent.isEmpty = false)
    {role : Role} (restriction : Option Family)
    (resolved : ∀ reference ∈ intent.referencesBefore role,
      reference.error? factory.services answers = none)
    {value : Value} {ports : Ports} (leaves : ports.leaves = value.leaves) {error : BuildError}
    (failed : Nested.lookUp factory.services value = .error error) :
    factory.outcome (intent.withPorts ports role) restriction answers = .error error := by
  obtain ⟨front, leaf, back, split, leafFailed, frontResolved⟩ :=
    Nested.lookUp_eq_error_iff.mp failed
  obtain ⟨afterwards, references⟩ := intent.exists_references_withPorts role ports
  have noAlternatives : (intent.withPorts ports role).alternatives factory.services answers =
      .error error := by
    rw [← error?_eq_some_iff, error?_alternatives, List.findSome?_eq_some_iff]
    refine ⟨intent.referencesBefore role ++ front.map .port, .port leaf,
      back.map .port ++ afterwards, ?_, error?_eq_some_iff.mpr leafFailed, ?_⟩
    · rw [references, leaves, split]
      simp
    · intro reference before
      rcases List.mem_append.mp before with outside | inside
      · exact resolved reference outside
      · obtain ⟨other, member, rfl⟩ := List.mem_map.mp inside
        exact frontResolved other member
  have stillNonempty : (intent.withPorts ports role).isEmpty = false := by
    cases role <;> exact nonempty
  rw [outcome, stillNonempty, if_neg Bool.false_ne_true, noAlternatives]
  rfl

theorem readIntent_object {members : Members} (nonempty : members ≠ []) :
    readIntent (.object members) =
      match (ofMembers members).toExcept "Intent" with
      | .ok intent => .ok (some intent)
      | .error invalid => .error (.invalid invalid) := by
  have notBlank : (Value.object members).isBlank = false := by
    simpa [Value.isBlank] using nonempty
  unfold readIntent
  rw [notBlank]
  exact if_neg Bool.false_ne_true

theorem documentOutcome_of_alike {first second : Members} (given : first ≠ []) (other : second ≠ [])
    (alike : Checked.Alike Rearranges (ofMembers first) (ofMembers second))
    (restriction : Except BuildError (Option Family)) :
    factory.documentOutcome (.object second) restriction answers =
      factory.documentOutcome (.object first) restriction answers := by
  unfold documentOutcome
  rw [readIntent_object given, readIntent_object other]
  generalize ofMembers first = read at alike
  generalize ofMembers second = readOther at alike
  cases alike with
  | invalid issues => rfl
  | valid rearranges =>
      simp only [Checked.toExcept, bind, Except.bind, rearranges.isEmpty_eq,
        outcome_rearranged rearranges]

/-- A document is built alike with another arrangement of the ports of an endpoint. -/
theorem documentOutcome_rearranged {first second : Value}
    (plain : ∀ leaf ∈ first.leaves, leaf.IsPlain) (same : second.leaves = first.leaves)
    {key : String} (isEndpoint : key ∈ endpointKeys) (document : Value)
    (restriction : Except BuildError (Option Family)) :
    factory.documentOutcome ((Expansion.Place.inside key "port").set second document) restriction
        answers =
      factory.documentOutcome ((Expansion.Place.inside key "port").set first document) restriction
        answers := by
  cases found : Expansion.member key document with
  | error fault => simp only [Expansion.Place.set, found]
  | ok endpoint =>
      cases document with
      | null | bool | int | float | text | list => contradiction
      | object members =>
          have given (value : Value) : putEntry key value members ≠ [] := by
            intro empty
            have found := congrArg (valueOf? key) empty
            rw [valueOf?_putEntry, if_pos rfl] at found
            contradiction
          simp only [Expansion.Place.set, found]
          apply documentOutcome_of_alike (given _) (given _)
          exact ofMembers_alike isEndpoint (Endpoint.ofValue_alike plain same endpoint)

/-- The ports of an endpoint are the leaves of what is found in two passes. -/
theorem resolvePorts_eq_leaves_lookUp {value : Value} {ports : Ports}
    (leaves : ports.leaves = value.leaves) (history : History) :
    ((factory.resolvePorts ports).after history).1 =
      Nested.leaves <$> Nested.lookUp factory.services value := by
  rw [(factory.resolvePorts_determined ports history).1, Ports.outcome, leaves,
    Nested.leaves_lookUp]

/-- Two arrangements are read as ports, and what is built with the one before is built with the
other after. -/
structure BuildsAlike (factory : Factory) (before after : History) (first second : Value)
    (ports other : Ports) : Prop where
  read : Ports.ofValue first = .valid ports
  readOther : Ports.ofValue second = .valid other
  intents : ∀ (intent : Intent) (role : Role) (restriction : Option Family),
    ((factory.build (intent.withPorts other role) restriction).after after).1 =
      ((factory.build (intent.withPorts ports role) restriction).after before).1
  documents : ∀ (document : Value) (restriction : Except BuildError (Option Family)),
    ∀ key ∈ endpointKeys,
      ((factory.buildDocument ((Expansion.Place.inside key "port").set second document)
          restriction).after after).1 =
        ((factory.buildDocument ((Expansion.Place.inside key "port").set first document)
          restriction).after before).1
  resolved : ((factory.resolvePorts ports).after before).1 =
    Nested.leaves <$> Nested.lookUp factory.services first
  /-- The look-up fails for the first leaf that stands for no port. -/
  failed : ∀ error, Nested.lookUp factory.services first = .error error ↔
    ∃ front leaf back, first.leaves = front ++ leaf :: back ∧
      portOfLeaf factory.services leaf = .error error ∧
      ∀ other ∈ front, error? (portOfLeaf factory.services other) = none
  /-- The failure is the one of the build, unless something before the ports fails. -/
  ends : ∀ (intent : Intent) (role : Role) (restriction : Option Family),
    intent.isEmpty = false →
    (∀ reference ∈ intent.referencesBefore role,
      reference.error? factory.services (factory.resolver.answers before) = none) →
    ∀ error, Nested.lookUp factory.services first = .error error →
      ((factory.build (intent.withPorts ports role) restriction).after before).1 = .error error

/-- Only the leaves of ports matter: two arrangements of the same numbers, texts and nulls build
alike, whatever the rest of an intent or of a document is.  The names may be resolved anew in
between, as long as the answers stay the same. -/
theorem build_rearranged (factory : Factory) {first second : Value}
    (plain : ∀ leaf ∈ first.leaves, leaf.IsPlain) (same : second.leaves = first.leaves)
    {before after : History}
    (answered : factory.resolver.answers after = factory.resolver.answers before) :
    ∃ ports other, factory.BuildsAlike before after first second ports other := by
  obtain ⟨ports, read, leaves⟩ := Ports.exists_ofValue plain
  obtain ⟨other, readOther, leavesOther⟩ := Ports.exists_ofValue (same ▸ plain)
  have sameLeaves : other.leaves = ports.leaves := leavesOther.trans (same.trans leaves.symm)
  refine ⟨ports, other, read, readOther, ?intents, ?documents,
    resolvePorts_eq_leaves_lookUp leaves before, fun error => Nested.lookUp_eq_error_iff, ?ends⟩
  case intents =>
    intro intent role restriction
    rw [(factory.build_determined _ restriction after).1,
      (factory.build_determined _ restriction before).1, answered]
    exact outcome_rearranged (intent.rearranges_withPorts role sameLeaves) restriction
  case documents =>
    intro document restriction key isEndpoint
    rw [(factory.buildDocument_determined _ restriction after).1,
      (factory.buildDocument_determined _ restriction before).1, answered]
    exact documentOutcome_rearranged plain same isEndpoint document restriction
  case ends =>
    intro intent role restriction nonempty resolved error failed
    rw [(factory.build_determined _ restriction before).1]
    exact outcome_of_lookUp_eq_error nonempty restriction resolved leaves failed

end Factory

/-- The same three ports, nested and in another way. -/
theorem build_dual_rearranged :
    let first : Value := .list [.int 443, .list [.text "http", .text "8000:8010"]]
    let second : Value :=
      .list [.list [.list [], .int 443], .text "http", .list [.list [.text "8000:8010"]]]
    let build := fun ports =>
      ((dualFactory.build (dualIntent.withPorts ports .destination) (some .inet)).after .empty).1
    (∀ leaf ∈ first.leaves, leaf.IsPlain) ∧ second.leaves = first.leaves ∧
    dualFactory.resolver.answers .empty = dualFactory.resolver.answers .empty ∧
    ∃ ports other batch, dualFactory.BuildsAlike .empty .empty first second ports other ∧
      build ports = .ok batch ∧ build other = .ok batch ∧
      (batch.kept.length, batch.dropped, batch.filtered) = (12, 18, 6) := by
  intro first second build
  have plain : ∀ leaf ∈ first.leaves, leaf.IsPlain := by
    simp [first, Value.leaves, leavesOfItems, Value.IsPlain]
  have same : second.leaves = first.leaves := rfl
  obtain ⟨ports, other, alike⟩ := @Factory.build_rearranged dualFactory first second plain same
    .empty .empty rfl
  have counted : (build (.many [.int 443, .list [.text "http", .text "8000:8010"]])).toOption.map
      (fun batch => (batch.kept.length, batch.dropped, batch.filtered)) = some (12, 18, 6) := by
    decide +kernel
  obtain ⟨batch, built, counts⟩ := exists_ok_of_map_toOption counted
  cases alike.read
  refine ⟨plain, same, rfl, _, other, batch, alike, built, ?_, counts⟩
  exact (alike.intents dualIntent .destination (some .inet)).trans built

end Firewall
