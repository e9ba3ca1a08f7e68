import Firewall.Proofs.Build.Accounting
import Mathlib.Data.List.Perm.Basic

/-!
# More alternatives in one field

Eight fields of an intent hold alternatives, and a combination takes one alternative of each.  So
an intent whose field holds the alternatives of two others has the combinations of both, and what
is built from it is what is built from the others, taken together (`build_append`).  The rules of
the first come in front of those of the second if no field further out has a choice.
-/

namespace Firewall

open Resolver

/-! ## Fields with alternatives -/

/-- A field of an intent that may hold alternatives, the outermost first. -/
inductive ExpandedField where
  | protocol
  | sourceHost
  | sourcePort
  | destinationHost
  | destinationPort
  | masquerade
  | redirectHost
  | redirectPort
  deriving DecidableEq, Repr

namespace ExpandedField

/-- What is written as one alternative of a field. -/
abbrev Item : ExpandedField → Type
  | .protocol => String
  | .sourceHost | .destinationHost | .masquerade | .redirectHost => Intent.Host
  | .sourcePort | .destinationPort | .redirectPort => Value

/-- What one alternative of a field is when it is resolved. -/
abbrev Choice : ExpandedField → Type
  | .protocol => Option String
  | .sourceHost | .destinationHost | .masquerade | .redirectHost => Option Address
  | .sourcePort | .destinationPort | .redirectPort => Option PortCandidate

/-- The number of fields further out. -/
def position : ExpandedField → Nat
  | .protocol => 0
  | .sourceHost => 1
  | .sourcePort => 2
  | .destinationHost => 3
  | .destinationPort => 4
  | .masquerade => 5
  | .redirectHost => 6
  | .redirectPort => 7

/-- The alternatives that some items of a field resolve to. -/
def outcome (services : Services) (answers : Answers) :
    (field : ExpandedField) → List field.Item → Except BuildError (List field.Choice)
  | .protocol, names => .ok (names.map some)
  | .sourceHost, hosts => (Intent.Hosts.many hosts).outcome answers
  | .sourcePort, ports => (Intent.Ports.many ports).outcome services
  | .destinationHost, hosts => (Intent.Hosts.many hosts).outcome answers
  | .destinationPort, ports => (Intent.Ports.many ports).outcome services
  | .masquerade, hosts => (Intent.Hosts.many hosts).outcome answers
  | .redirectHost, hosts => (Intent.Hosts.many hosts).outcome answers
  | .redirectPort, ports => (Intent.Ports.many ports).outcome services

end ExpandedField

/-- The intent whose field holds a list of items. -/
def Intent.withItems (intent : Intent) : (field : ExpandedField) → List field.Item → Intent
  | .protocol, names => { intent with protocols := .many names }
  | .sourceHost, hosts => { intent with source.hosts := .many hosts }
  | .sourcePort, ports => { intent with source.ports := .many ports }
  | .destinationHost, hosts => { intent with destination.hosts := .many hosts }
  | .destinationPort, ports => { intent with destination.ports := .many ports }
  | .masquerade, hosts => { intent with masquerade := .many hosts }
  | .redirectHost, hosts => { intent with redirect.hosts := .many hosts }
  | .redirectPort, ports => { intent with redirect.ports := .many ports }

namespace Alternatives

def put (alternatives : Alternatives) :
    (field : ExpandedField) → List field.Choice → Alternatives
  | .protocol, protocols => { alternatives with protocols }
  | .sourceHost, sourceHosts => { alternatives with sourceHosts }
  | .sourcePort, sourcePorts => { alternatives with sourcePorts }
  | .destinationHost, destinationHosts => { alternatives with destinationHosts }
  | .destinationPort, destinationPorts => { alternatives with destinationPorts }
  | .masquerade, masquerades => { alternatives with masquerades }
  | .redirectHost, redirectHosts => { alternatives with redirectHosts }
  | .redirectPort, redirectPorts => { alternatives with redirectPorts }

def choices (alternatives : Alternatives) : (field : ExpandedField) → List field.Choice
  | .protocol => alternatives.protocols
  | .sourceHost => alternatives.sourceHosts
  | .sourcePort => alternatives.sourcePorts
  | .destinationHost => alternatives.destinationHosts
  | .destinationPort => alternatives.destinationPorts
  | .masquerade => alternatives.masquerades
  | .redirectHost => alternatives.redirectHosts
  | .redirectPort => alternatives.redirectPorts

/-- How many alternatives the fields have, the outermost first. -/
def counts (alternatives : Alternatives) : List Nat :=
  [alternatives.protocols.length, alternatives.sourceHosts.length,
    alternatives.sourcePorts.length, alternatives.destinationHosts.length,
    alternatives.destinationPorts.length, alternatives.masquerades.length,
    alternatives.redirectHosts.length, alternatives.redirectPorts.length]

/-- No field further out than a given one has a choice. -/
def HasNoChoiceBefore (alternatives : Alternatives) (field : ExpandedField) : Prop :=
  ∀ count ∈ alternatives.counts.take field.position, count = 1

end Alternatives

/-! ## References -/

namespace Intent

variable {services : Services} {answers : Answers}

theorem Hosts.outcome_append (first second : List Host) {found : List (Option Address)} :
    (Hosts.many (first ++ second)).outcome answers = .ok found ↔
      ∃ front back, (Hosts.many first).outcome answers = .ok front ∧
        (Hosts.many second).outcome answers = .ok back ∧ found = front ++ back := by
  simp only [Hosts.outcome, Hosts.toList, List.map_append, List.mapM_append, bind_eq_ok_iff]
  constructor
  · rintro ⟨_, ⟨fronts, first, backs, second, ⟨⟩⟩, ⟨⟩⟩
    exact ⟨_, _, ⟨fronts, first, rfl⟩, ⟨backs, second, rfl⟩, List.flatten_append⟩
  · rintro ⟨_, _, ⟨fronts, first, ⟨⟩⟩, ⟨backs, second, ⟨⟩⟩, rfl⟩
    exact ⟨_, ⟨fronts, first, backs, second, rfl⟩, congrArg Except.ok List.flatten_append⟩

theorem Ports.outcome_append (first second : List Value) {found : List (Option PortCandidate)} :
    (Ports.many (first ++ second)).outcome services = .ok found ↔
      ∃ front back, (Ports.many first).outcome services = .ok front ∧
        (Ports.many second).outcome services = .ok back ∧ found = front ++ back := by
  simp only [Ports.outcome, Ports.leaves, Value.leaves, leavesOfItems_eq_flatMap,
    List.flatMap_append, List.mapM_append, bind_eq_ok_iff]
  constructor
  · rintro ⟨front, first, back, second, ⟨⟩⟩
    exact ⟨front, back, first, second, rfl⟩
  · rintro ⟨front, back, first, second, rfl⟩
    exact ⟨front, first, back, second, rfl⟩

end Intent

/-- The items of two lists resolve to the alternatives of both. -/
theorem ExpandedField.outcome_append {services : Services} {answers : Answers}
    (field : ExpandedField) (first second : List field.Item) {found : List field.Choice} :
    field.outcome services answers (first ++ second) = .ok found ↔
      ∃ front back, field.outcome services answers first = .ok front ∧
        field.outcome services answers second = .ok back ∧ found = front ++ back := by
  cases field with
  | protocol => simp [outcome, eq_comm]
  | sourceHost | destinationHost | masquerade | redirectHost =>
      exact Intent.Hosts.outcome_append first second
  | sourcePort | destinationPort | redirectPort => exact Intent.Ports.outcome_append first second

/-- The items of a field resolve apart from the rest of the intent. -/
theorem Intent.alternatives_withItems {services : Services} {answers : Answers} (intent : Intent)
    (field : ExpandedField) (items : List field.Item) {alternatives : Alternatives} :
    (intent.withItems field items).alternatives services answers = .ok alternatives ↔
      (intent.withItems field []).alternatives services answers =
          .ok (alternatives.put field []) ∧
        field.outcome services answers items = .ok (alternatives.choices field) := by
  have hostless : (Hosts.many []).outcome answers = .ok [] := rfl
  have portless : (Ports.many []).outcome services = .ok [] := rfl
  simp only [alternatives_eq_ok_iff]
  cases field
  case protocol =>
    simp only [withItems, ExpandedField.outcome, Alternatives.put, Alternatives.choices,
      Protocols.toList, Except.ok.injEq, eq_comm]
    tauto
  all_goals
    simp only [withItems, ExpandedField.outcome, Alternatives.put, Alternatives.choices, hostless,
      portless, true_and, and_true]
    tauto

namespace Alternatives

variable (alternatives : Alternatives) (field : ExpandedField) (first second : List field.Choice)

theorem put_choices :
    (alternatives.put field first).put field (alternatives.choices field) = alternatives := by
  cases field <;> rfl

theorem put_put :
    (alternatives.put field first).put field second = alternatives.put field second := by
  cases field <;> rfl

theorem choices_put : (alternatives.put field first).choices field = first := by
  cases field <;> rfl

end Alternatives

theorem Intent.alternatives_put {services : Services} {answers : Answers} {intent : Intent}
    {field : ExpandedField} {items : List field.Item} {rest : Alternatives}
    {choices : List field.Choice}
    (known : (intent.withItems field []).alternatives services answers = .ok rest)
    (found : field.outcome services answers items = .ok choices) :
    (intent.withItems field items).alternatives services answers =
      .ok (rest.put field choices) := by
  rw [Intent.alternatives_withItems, Alternatives.put_put, Alternatives.choices_put]
  exact ⟨((Intent.alternatives_withItems intent field []).mp known).1, found⟩

/-! ## Combinations -/

section Joining

variable {α β : Type}

/-- A list has the elements of two others, and in the order of both if some counts are one. -/
structure Joins (counts : List Nat) (whole first second : List α) : Prop where
  perm : whole.Perm (first ++ second)
  ordered : (∀ count ∈ counts, count = 1) → whole = first ++ second

theorem joins_of_eq {whole first second : List α} (equal : whole = first ++ second) :
    Joins [] whole first second :=
  ⟨.of_eq equal, fun _ => equal⟩

/-- What joins for each choice of an outer field joins for all of them, and is in order if there is
only one. -/
theorem joins_flatMap {counts : List Nat} (choices : List α) {whole first second : α → List β}
    (each : ∀ choice, Joins counts (whole choice) (first choice) (second choice)) :
    Joins (choices.length :: counts) (choices.flatMap whole) (choices.flatMap first)
      (choices.flatMap second) where
  perm := by
    have inside : (choices.flatMap whole).Perm
        (choices.flatMap fun choice => first choice ++ second choice) :=
      List.Perm.flatMap_left choices fun choice _ => (each choice).perm
    exact inside.trans (List.flatMap_append_perm choices first second).symm
  ordered := by
    intro ones
    obtain ⟨single, inner⟩ := List.forall_mem_cons.mp ones
    obtain ⟨choice, rfl⟩ := List.length_eq_one_iff.mp single
    simpa using (each choice).ordered inner

theorem Joins.filterMap {counts : List Nat} {whole first second : List α} (view : α → Option β)
    (joins : Joins counts whole first second) :
    Joins counts (whole.filterMap view) (first.filterMap view) (second.filterMap view) where
  perm := by
    rw [← List.filterMap_append]
    exact joins.perm.filterMap view
  ordered := by
    intro ones
    rw [joins.ordered ones, List.filterMap_append]

end Joining

/-- With the alternatives of two lists in a field, there are the combinations of both. -/
theorem Alternatives.combinations_append (rest : Alternatives) (field : ExpandedField)
    (front back : List field.Choice) :
    Joins ((rest.put field (front ++ back)).counts.take field.position)
      (rest.put field (front ++ back)).combinations (rest.put field front).combinations
      (rest.put field back).combinations := by
  -- The field stands behind as many others as its position says.
  cases field with
  | protocol => exact joins_of_eq List.flatMap_append
  | sourceHost =>
      refine joins_flatMap _ fun protocol => ?_
      exact joins_of_eq List.flatMap_append
  | sourcePort =>
      refine joins_flatMap _ fun protocol => joins_flatMap _ fun sourceHost => ?_
      exact joins_of_eq List.flatMap_append
  | destinationHost =>
      refine joins_flatMap _ fun protocol => joins_flatMap _ fun sourceHost => ?_
      refine joins_flatMap _ fun sourcePort => ?_
      exact joins_of_eq List.flatMap_append
  | destinationPort =>
      refine joins_flatMap _ fun protocol => joins_flatMap _ fun sourceHost => ?_
      refine joins_flatMap _ fun sourcePort => joins_flatMap _ fun destinationHost => ?_
      exact joins_of_eq List.flatMap_append
  | masquerade =>
      refine joins_flatMap _ fun protocol => joins_flatMap _ fun sourceHost => ?_
      refine joins_flatMap _ fun sourcePort => joins_flatMap _ fun destinationHost => ?_
      refine joins_flatMap _ fun destinationPort => ?_
      exact joins_of_eq List.flatMap_append
  | redirectHost =>
      refine joins_flatMap _ fun protocol => joins_flatMap _ fun sourceHost => ?_
      refine joins_flatMap _ fun sourcePort => joins_flatMap _ fun destinationHost => ?_
      refine joins_flatMap _ fun destinationPort => joins_flatMap _ fun masquerade => ?_
      exact joins_of_eq List.flatMap_append
  | redirectPort =>
      refine joins_flatMap _ fun protocol => joins_flatMap _ fun sourceHost => ?_
      refine joins_flatMap _ fun sourcePort => joins_flatMap _ fun destinationHost => ?_
      refine joins_flatMap _ fun destinationPort => joins_flatMap _ fun masquerade => ?_
      refine joins_flatMap _ fun redirectHost => ?_
      exact joins_of_eq List.map_append

/-! ## Batches -/

/-- The verdict on a combination, if its rule is valid. -/
def Verdict.of? (intent : Intent) (restriction : Option Family) (combination : Combination) :
    Option Verdict :=
  (onCombination intent restriction combination).toOption

theorem Verdict.onAll_eq_iff {intent : Intent} {restriction : Option Family}
    {combinations : List Combination} {verdicts : List Verdict} :
    onAll intent restriction combinations = (verdicts, none) ↔
      (∀ combination ∈ combinations, (of? intent restriction combination).isSome) ∧
        verdicts = combinations.filterMap (of? intent restriction) := by
  induction combinations generalizing verdicts with
  | nil => simp [onAll]
  | cons combination rest ih =>
      rw [onAll, List.forall_mem_cons, List.filterMap_cons, of?]
      cases first : onCombination intent restriction combination with
      | error invalid => simp [Except.toOption]
      | ok verdict =>
          cases others : onAll intent restriction rest with
          | mk restVerdicts invalid =>
              simp only [others, Prod.mk.injEq] at ih ⊢
              constructor
              · rintro ⟨rfl, rfl⟩
                obtain ⟨valid, same⟩ := ih.mp ⟨rfl, rfl⟩
                exact ⟨⟨rfl, valid⟩, congrArg (verdict :: ·) same⟩
              · rintro ⟨⟨-, valid⟩, rfl⟩
                obtain ⟨same, none⟩ := ih.mpr ⟨valid, rfl⟩
                exact ⟨congrArg (verdict :: ·) same, none⟩

/-- A run makes a batch if every combination has a verdict, and the batch is of these verdicts. -/
theorem Verdict.batch_onAll_eq_ok_iff {intent : Intent} {restriction : Option Family}
    {combinations : List Combination} {batch : Batch} :
    Verdict.batch (onAll intent restriction combinations) = .ok batch ↔
      (∀ combination ∈ combinations, (of? intent restriction combination).isSome) ∧
        batch = .ofVerdicts (combinations.filterMap (of? intent restriction)) := by
  constructor
  · intro reached
    cases run : onAll intent restriction combinations with
    | mk verdicts invalid =>
        rw [run] at reached
        cases invalid with
        | some invalid => contradiction
        | none =>
            cases reached
            obtain ⟨valid, same⟩ := onAll_eq_iff.mp run
            exact ⟨valid, congrArg Batch.ofVerdicts same⟩
  · rintro ⟨valid, rfl⟩
    rw [onAll_eq_iff.mpr ⟨valid, rfl⟩]
    rfl

namespace Batch

/-- A batch is two others taken together. -/
structure IsSum (whole first second : Batch) : Prop where
  kept : whole.kept.Perm (first.kept ++ second.kept)
  dropped : whole.dropped = first.dropped + second.dropped
  filtered : whole.filtered = first.filtered + second.filtered
  attempts : whole.attempts = first.attempts + second.attempts

/-- The verdicts of two lists make the batches of both, taken together. -/
theorem isSum_ofVerdicts {counts : List Nat} {whole first second : List Verdict}
    (joins : Joins counts whole first second) :
    IsSum (ofVerdicts whole) (ofVerdicts first) (ofVerdicts second) := by
  have kept := (joins.filterMap Verdict.rule?).perm
  have dropped := joins.perm.countP_eq Verdict.isDropped
  have filtered := joins.perm.countP_eq Verdict.isFiltered
  rw [List.countP_append] at dropped filtered
  refine ⟨kept, dropped, filtered, ?_⟩
  have length := kept.length_eq
  rw [List.length_append] at length
  simp only [attempts, ofVerdicts, length, dropped, filtered]
  omega

end Batch

/-! ## Builds -/

@[simp] theorem Intent.isEmpty_withItems (intent : Intent) (field : ExpandedField)
    (items : List field.Item) : (intent.withItems field items).isEmpty = intent.isEmpty := by
  cases field <;> rfl

/-- The verdict on a combination does not look at the fields that the combination is taken from. -/
theorem Verdict.of?_withItems (intent : Intent) (field : ExpandedField) (items : List field.Item)
    (restriction : Option Family) :
    of? (intent.withItems field items) restriction = of? intent restriction := by
  cases field <;> rfl

namespace Factory

variable {factory : Factory} {intent : Intent} {field : ExpandedField} {answers : Answers}
  {restriction : Option Family}

theorem outcome_withItems_eq_ok_iff (nonempty : intent.isEmpty = false) (items : List field.Item)
    {batch : Batch} :
    factory.outcome (intent.withItems field items) restriction answers = .ok batch ↔
      ∃ rest choices,
        (intent.withItems field []).alternatives factory.services answers = .ok rest ∧
        field.outcome factory.services answers items = .ok choices ∧
        (∀ combination ∈ (rest.put field choices).combinations,
          (Verdict.of? intent restriction combination).isSome) ∧
        batch = .ofVerdicts
          ((rest.put field choices).combinations.filterMap (Verdict.of? intent restriction)) := by
  rw [outcome, Intent.isEmpty_withItems, nonempty, if_neg Bool.false_ne_true]
  simp only [bind_eq_ok_iff, Verdict.batch_onAll_eq_ok_iff, Verdict.of?_withItems]
  constructor
  · rintro ⟨alternatives, resolved, valid, same⟩
    obtain ⟨known, found⟩ := (Intent.alternatives_withItems intent field items).mp resolved
    refine ⟨_, _, known, found, ?_⟩
    rw [Alternatives.put_choices]
    exact ⟨valid, same⟩
  · rintro ⟨rest, choices, known, found, valid, same⟩
    exact ⟨rest.put field choices, Intent.alternatives_put known found, valid, same⟩

/-- If an intent with the items of two lists is built, the ones with each list are. -/
theorem exists_of_outcome_append (nonempty : intent.isEmpty = false)
    {first second : List field.Item} {whole : Batch}
    (built : factory.outcome (intent.withItems field (first ++ second)) restriction answers =
      .ok whole) :
    (∃ part, factory.outcome (intent.withItems field first) restriction answers = .ok part) ∧
      ∃ other, factory.outcome (intent.withItems field second) restriction answers = .ok other := by
  obtain ⟨rest, choices, known, found, valid, -⟩ :=
    (outcome_withItems_eq_ok_iff nonempty _).mp built
  obtain ⟨front, back, foundFirst, foundSecond, rfl⟩ :=
    (field.outcome_append first second).mp found
  have perm := (rest.combinations_append field front back).perm
  have each : ∀ combination ∈ (rest.put field front).combinations ++
      (rest.put field back).combinations, (Verdict.of? intent restriction combination).isSome :=
    fun combination member => valid combination (perm.mem_iff.mpr member)
  obtain ⟨validFirst, validSecond⟩ := List.forall_mem_append.mp each
  exact ⟨⟨_, (outcome_withItems_eq_ok_iff nonempty _).mpr
      ⟨rest, front, known, foundFirst, validFirst, rfl⟩⟩,
    ⟨_, (outcome_withItems_eq_ok_iff nonempty _).mpr
      ⟨rest, back, known, foundSecond, validSecond, rfl⟩⟩⟩

/-- If intents with the items of each list are built, the one with both is, and its batch is theirs
taken together. -/
theorem outcome_append (nonempty : intent.isEmpty = false) {first second : List field.Item}
    {part other : Batch}
    (builtFirst : factory.outcome (intent.withItems field first) restriction answers = .ok part)
    (builtSecond : factory.outcome (intent.withItems field second) restriction answers =
      .ok other) :
    ∃ whole,
      factory.outcome (intent.withItems field (first ++ second)) restriction answers = .ok whole ∧
      whole.IsSum part other ∧
      ∀ alternatives,
        (intent.withItems field (first ++ second)).alternatives factory.services answers =
          .ok alternatives →
        alternatives.HasNoChoiceBefore field → whole.kept = part.kept ++ other.kept := by
  obtain ⟨rest, front, known, foundFirst, validFirst, rfl⟩ :=
    (outcome_withItems_eq_ok_iff nonempty _).mp builtFirst
  obtain ⟨same, back, knownAgain, foundSecond, validSecond, rfl⟩ :=
    (outcome_withItems_eq_ok_iff nonempty _).mp builtSecond
  cases known.symm.trans knownAgain
  have found : field.outcome factory.services answers (first ++ second) = .ok (front ++ back) :=
    (field.outcome_append first second).mpr ⟨front, back, foundFirst, foundSecond, rfl⟩
  have combinations := rest.combinations_append field front back
  have verdicts := combinations.filterMap (Verdict.of? intent restriction)
  have valid : ∀ combination ∈ (rest.put field (front ++ back)).combinations,
      (Verdict.of? intent restriction combination).isSome := fun combination member =>
    List.forall_mem_append.mpr ⟨validFirst, validSecond⟩ combination
      (combinations.perm.mem_iff.mp member)
  refine ⟨_, (outcome_withItems_eq_ok_iff nonempty _).mpr
    ⟨rest, front ++ back, known, found, valid, rfl⟩, Batch.isSum_ofVerdicts verdicts, ?_⟩
  intro alternatives resolved single
  cases resolved.symm.trans (Intent.alternatives_put known found)
  exact (verdicts.filterMap Verdict.rule?).ordered single

theorem outcome_of_empty (empty : intent.isEmpty = true) (items : List field.Item) :
    factory.outcome (intent.withItems field items) restriction answers = .ok .empty := by
  rw [outcome, Intent.isEmpty_withItems, if_pos empty]

/-- What is built from an intent with some items in a field. -/
def buildWith (factory : Factory) (intent : Intent) (field : ExpandedField)
    (scope : Option FamilyChoice) (items : List field.Item) (history : History) :
    Except BuildError Batch :=
  ((factory.build (intent.withItems field items) (scope.bind FamilyChoice.restriction)).after
    history).1

/-- An intent with the items of two lists in a field is built exactly if the intents with each list
are.  Its batch is then the batches of these taken together, in their order if no field further out
has a choice.  The names may be resolved anew for each build, as long as the answers stay the
same. -/
theorem build_append (factory : Factory) (intent : Intent) (field : ExpandedField)
    (scope : Option FamilyChoice) (first second : List field.Item)
    {atFirst atSecond atBoth : History}
    (sameFirst : factory.resolver.answers atFirst = factory.resolver.answers atBoth)
    (sameSecond : factory.resolver.answers atSecond = factory.resolver.answers atBoth) :
    ((∃ whole, factory.buildWith intent field scope (first ++ second) atBoth = .ok whole) ↔
      (∃ part, factory.buildWith intent field scope first atFirst = .ok part) ∧
        ∃ other, factory.buildWith intent field scope second atSecond = .ok other) ∧
    ∀ whole part other,
      factory.buildWith intent field scope (first ++ second) atBoth = .ok whole →
      factory.buildWith intent field scope first atFirst = .ok part →
      factory.buildWith intent field scope second atSecond = .ok other →
      whole.IsSum part other ∧
        ∀ alternatives,
          ((factory.resolve (intent.withItems field (first ++ second))).after atBoth).1 =
            .ok alternatives →
          alternatives.HasNoChoiceBefore field → whole.kept = part.kept ++ other.kept := by
  have built (items : List field.Item) (history : History) :=
    (factory.build_determined (intent.withItems field items)
      (scope.bind FamilyChoice.restriction) history).1
  have resolved := (factory.resolve_alternatives_determined
    (intent.withItems field (first ++ second)) atBoth).1
  simp only [buildWith, built, resolved, sameFirst, sameSecond]
  cases empty : intent.isEmpty with
  | true =>
      simp only [outcome_of_empty empty, Except.ok.injEq]
      refine ⟨by simp, ?_⟩
      rintro _ _ _ rfl rfl rfl
      exact ⟨⟨.refl _, rfl, rfl, rfl⟩, fun _ _ _ => rfl⟩
  | false =>
      constructor
      · constructor
        · rintro ⟨whole, success⟩
          exact exists_of_outcome_append empty success
        · rintro ⟨⟨part, successFirst⟩, other, successSecond⟩
          obtain ⟨whole, success, -⟩ := outcome_append empty successFirst successSecond
          exact ⟨whole, success⟩
      · intro whole part other success successFirst successSecond
        obtain ⟨again, successAgain, isSum⟩ := outcome_append empty successFirst successSecond
        cases success.symm.trans successAgain
        exact isSum

end Factory

def dualTcpIntent : Intent := { dualIntent with protocols := .one "tcp" }

/-- A name with an address of each family, and one more address. -/
theorem build_dual_append :
    let sources : List Intent.Host := [.named "dual"]
    let more : List Intent.Host := [.address (.v4 0x0A000003#32 (.last 32))]
    let build := fun hosts =>
      dualFactory.buildWith dualTcpIntent .sourceHost (some .any) hosts .empty
    dualFactory.resolver.answers .empty = dualFactory.resolver.answers .empty ∧
    ∃ whole part other : Batch,
      build (sources ++ more) = .ok whole ∧ build sources = .ok part ∧ build more = .ok other ∧
      (whole.kept.length, part.kept.length, other.kept.length) = (15, 9, 6) ∧
      whole.IsSum part other ∧ whole.kept = part.kept ++ other.kept := by
  intro sources more build
  have ofBoth : (build (sources ++ more)).toOption.map (·.kept.length) = some 15 := by
    decide +kernel
  have ofPart : (build sources).toOption.map (·.kept.length) = some 9 := by decide +kernel
  have ofOther : (build more).toOption.map (·.kept.length) = some 6 := by decide +kernel
  have counted : ((dualFactory.resolve
      (dualTcpIntent.withItems .sourceHost (sources ++ more))).after .empty).1.toOption.map
      (·.counts) = some [1, 3, 1, 3, 3, 1, 1, 1] := by decide +kernel
  obtain ⟨whole, success, wholeSize⟩ := exists_ok_of_map_toOption ofBoth
  obtain ⟨part, successFirst, partSize⟩ := exists_ok_of_map_toOption ofPart
  obtain ⟨other, successSecond, otherSize⟩ := exists_ok_of_map_toOption ofOther
  obtain ⟨alternatives, resolved, counts⟩ := exists_ok_of_map_toOption counted
  have single : alternatives.HasNoChoiceBefore .sourceHost := by
    rw [Alternatives.HasNoChoiceBefore, counts]
    decide
  obtain ⟨isSum, ordered⟩ := (@Factory.build_append dualFactory dualTcpIntent .sourceHost
    (some .any) sources more .empty .empty .empty rfl rfl).2 whole part other success successFirst
    successSecond
  refine ⟨rfl, whole, part, other, success, successFirst, successSecond, ?_, isSum,
    ordered alternatives resolved single⟩
  rw [wholeSize, partSize, otherSize]

end Firewall
