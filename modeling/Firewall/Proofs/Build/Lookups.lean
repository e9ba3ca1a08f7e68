import Firewall.Proofs.Build.References
import Firewall.Proofs.Resolver.Queries

/-!
# Lookups of a build

A build resolves the references of its intent one after the other, and it resolves all of them
before it looks at any combination.  The first reference that fails ends it
(`Reference.Fails` says in which ways one can), so the system has been asked for the names up to
this reference and for no others, for each of them once.

`Factory.GoesThrough` says this of any piece of work and the references it resolves.  Work that goes
through some references and then through others goes through all of them
(`Factory.goesThrough_bind`), so that a build is put together from single names.
-/

namespace Firewall

open Resolver

/-! ## References that fail -/

instance (resolver : Resolver) (name : String) : Decidable (resolver.IsForeign name) :=
  inferInstanceAs (Decidable (_ ∧ _))

/-- A reference cannot be resolved, for the reason that the error names. -/
inductive Reference.Fails (factory : Factory) (system : String → DnsAnswer) :
    Reference → BuildError → Prop where
  /-- Only the system could know the name, and it does not. -/
  | unknown {name : String} {failure : LookupFailure} :
      factory.resolver.IsForeign name → system name = .failure failure →
      Fails factory system (.host (some (.named name))) (.unresolved name failure)
  /-- Only the system could know the name, and it has no addresses for it. -/
  | silent {name : String} :
      factory.resolver.IsForeign name → system name = .addresses [] →
      Fails factory system (.host (some (.named name))) (.unresolved name .noAddresses)
  /-- A text that is no range and is not made of digits names no service. -/
  | unlisted {name : String} :
      isPortRange name = false →
      ¬ (name.toList ≠ [] ∧ ∀ character ∈ name.toList, Text.isDigit character = true) →
      factory.services.get? name = none →
      Fails factory system (.port (.text name)) (.unknownService name)

def Reference.Resolves (factory : Factory) (system : String → DnsAnswer) (reference : Reference) :
    Prop :=
  ∀ error, ¬ reference.Fails factory system error

/-- The error of a reference, when nothing is remembered. -/
def Factory.fault? (factory : Factory) (system : String → DnsAnswer) (reference : Reference) :
    Option BuildError :=
  reference.error? factory.services (stateless factory.resolver.names system)

section Faults

variable {factory : Factory} {system : String → DnsAnswer}

theorem addressesOf_eq_nil_iff {texts : List String}
    (valid : ∀ text ∈ texts, (Address.read? text).isSome) :
    addressesOf texts = [] ↔ texts = [] := by
  constructor
  · intro empty
    cases texts with
    | nil => rfl
    | cons text rest =>
        obtain ⟨address, isRead⟩ := Option.isSome_iff_exists.mp (valid text List.mem_cons_self)
        have found : address.withoutZone ∈ addressesOf (text :: rest) := by
          rw [addressesOf, mem_distinct, List.mem_filterMap]
          exact ⟨text, List.mem_cons_self, by rw [isRead]; rfl⟩
        rw [empty] at found
        contradiction
  · rintro rfl
    rfl

theorem stateless_eq_error_iff (valid : WritesAddresses system) {name : String}
    {error : BuildError} :
    stateless factory.resolver.names system name = .error error ↔
      Reference.Fails factory system (.host (some (.named name))) error := by
  constructor
  · intro failed
    rw [stateless] at failed
    split at failed
    case h_1 | h_2 => contradiction
    case h_3 failure unlisted noAddress said =>
      cases failed
      exact .unknown ⟨unlisted, noAddress⟩ said
    case h_4 texts unlisted noAddress said =>
      split at failed
      case isTrue empty =>
        cases failed
        have valid := fun text member => (valid name texts said text member).1
        rw [addressesOf_eq_nil_iff valid] at empty
        exact .silent ⟨unlisted, noAddress⟩ (empty ▸ said)
      case isFalse => contradiction
  · intro fails
    cases fails with
    | unknown foreign said => simp only [stateless, foreign.1, foreign.2, said]
    | silent foreign said =>
        simp only [stateless, foreign.1, foreign.2, said]
        rfl

theorem fault?_host (name : String) :
    factory.fault? system (.host (some (.named name))) =
      error? (stateless factory.resolver.names system name) :=
  error?_bind_of_none fun _ => rfl

/-- A readable text fails only if it is looked up as a service. -/
theorem portOfText_eq_error_iff {content : String} {error : BuildError}
    (readable : ¬ (Value.text content).IsUnreadable) :
    Factory.portOfText factory.services content = .error error ↔
      Reference.Fails factory system (.port (.text content)) error := by
  have isNumber : (!content.isEmpty && content.toList.all Text.isDigit) = true ↔
      content.toList ≠ [] ∧ ∀ character ∈ content.toList, Text.isDigit character = true := by
    simp [← String.toList_eq_nil_iff]
  constructor
  · intro failed
    have reported := mt (endsWork_portOfText_iff factory.services).mp readable
    have outcome := failed
    rw [Factory.portOfText] at failed
    split at failed
    case isTrue => contradiction
    case isFalse noRange =>
      split at failed
      case isTrue =>
        split at failed
        case h_1 => contradiction
        case h_2 fault _ =>
          cases failed
          exact absurd ⟨_, error?_eq_some_iff.mpr outcome, rfl⟩ reported
      case isFalse noDigits =>
        split at failed
        case h_1 => contradiction
        case h_2 unlisted =>
          cases failed
          exact .unlisted (Bool.eq_false_iff.mpr noRange) (mt isNumber.mpr noDigits) unlisted
  · intro fails
    cases fails with
    | unlisted noRange noDigits unlisted =>
        rw [Factory.portOfText, if_neg (Bool.eq_false_iff.mp noRange),
          if_neg (mt isNumber.mp noDigits), unlisted]

/-- A reference has an error exactly when it fails with it, unless it is an unreadable port. -/
theorem fault?_eq_some_iff (valid : WritesAddresses system) {reference : Reference}
    (readable : ∀ leaf, reference = .port leaf → ¬ leaf.IsUnreadable) {error : BuildError} :
    factory.fault? system reference = some error ↔ reference.Fails factory system error := by
  cases reference with
  | host host =>
      cases host with
      | none => constructor <;> rintro ⟨⟩
      | some host =>
          cases host with
          | address address => constructor <;> rintro ⟨⟩
          | named name => rw [fault?_host, error?_eq_some_iff, stateless_eq_error_iff valid]
  | port leaf =>
      have isReadable := readable leaf rfl
      cases leaf with
      | null | int | bool => constructor <;> rintro ⟨⟩
      | float | list | object => exact absurd trivial isReadable
      | text content =>
          rw [← portOfText_eq_error_iff isReadable, Factory.fault?, Reference.error?,
            error?_eq_some_iff, Factory.portOfLeaf]
          cases Factory.portOfText factory.services content with
          | ok port => constructor <;> rintro ⟨⟩
          | error fault => simp [Except.map]

end Faults

/-! ## What has been asked for -/

/-- The name of a host for which only the system can be asked. -/
def Reference.foreignName? (resolver : Resolver) : Reference → Option String
  | .host (some (.named name)) => if resolver.IsForeign name then some name else none
  | _ => none

/-- The names for which only the system can be asked, in the order of the references. -/
def Resolver.foreignNames (resolver : Resolver) (references : List Reference) : List String :=
  references.filterMap (Reference.foreignName? resolver)

theorem foreignNames_append (resolver : Resolver) (first second : List Reference) :
    resolver.foreignNames (first ++ second) =
      resolver.foreignNames first ++ resolver.foreignNames second :=
  List.filterMap_append

/-- Nothing has happened but lookups, each of the foreign names of some references once. -/
structure Resolver.HasAsked (resolver : Resolver) (references : List Reference)
    (history : History) : Prop where
  lookups : lookups history.events = distinct (resolver.foreignNames references)
  quiet : ∀ event ∈ history.events, event.component = .resolver

/-- Some references have been resolved: what was asked for is known, and no answer is different
for it. -/
structure Resolver.HasResolved (resolver : Resolver) (system : String → DnsAnswer)
    (references : List Reference) (history : History) : Prop
    extends resolver.HasAsked references history where
  answers : resolver.answers history = stateless resolver.names system
  known : ∀ name, (history.known.get? name).isSome ↔ name ∈ resolver.foreignNames references

section Asking

variable {resolver : Resolver} {system : String → DnsAnswer} {past : List Reference}
  {history : History}

theorem hasResolved_start (isSystem : resolver.system = some system)
    (valid : WritesAddresses system) : resolver.HasResolved system [] .empty where
  lookups := rfl
  quiet := nofun
  answers := answers_empty isSystem valid
  known := by
    intro name
    exact ⟨nofun, nofun⟩

/-- References to names that are known or need no lookup are resolved without one. -/
theorem Resolver.HasResolved.append (resolved : resolver.HasResolved system past history)
    {references : List Reference}
    (inside : resolver.foreignNames references ⊆ resolver.foreignNames past) :
    resolver.HasResolved system (past ++ references) history where
  lookups := by rw [resolved.lookups, foreignNames_append, distinct_append_of_subset inside]
  quiet := resolved.quiet
  answers := resolved.answers
  known := by
    intro name
    rw [resolved.known, foreignNames_append, List.mem_append]
    exact ⟨.inl, fun either => either.elim id fun member => inside member⟩

/-- Only the resolver has something to say when a name is resolved. -/
theorem resolve_events (resolver : Resolver) (name : String) (history : History) :
    ∃ more, ((resolver.resolve name).after history).2.events = history.events ++ more ∧
      ∀ event ∈ more, event.component = .resolver := by
  have nothing : ∃ more, history.events = history.events ++ more ∧
      ∀ event ∈ more, event.component = .resolver := ⟨[], (List.append_nil _).symm, nofun⟩
  rw [resolve]
  cases resolver.names.get? name with
  | some addresses => exact nothing
  | none =>
      cases Address.read? name with
      | some address => exact nothing
      | none =>
          cases resolver.system with
          | none => exact nothing
          | some system =>
              simp only [askOnce, Recorded.after_bind, Recorded.after_get]
              cases history.known.get? name with
              | some addresses => exact nothing
              | none =>
                  obtain ⟨more, events, -, quiet⟩ := ask_events system name history
                  simp only [Recorded.after_bind]
                  cases reached : (ask system name).after history with
                  | mk outcome later =>
                      rw [reached] at events
                      cases outcome <;> exact ⟨more, events, quiet⟩

/-- A name that is not known is asked for after those that were. -/
theorem Resolver.HasResolved.asks (resolved : resolver.HasResolved system past history)
    (isSystem : resolver.system = some system) {name : String} (foreign : resolver.IsForeign name)
    (unknown : history.known.get? name = none) :
    resolver.HasAsked (past ++ [.host (some (.named name))])
      ((resolver.resolve name).after history).2 where
  lookups := by
    obtain ⟨more, events, -⟩ := resolve_events resolver name history
    have asked := (resolve_asking isSystem foreign unknown).1
    have fresh : name ∉ resolver.foreignNames past := by
      rw [← resolved.known, unknown]
      exact nofun
    have named : resolver.foreignNames [.host (some (.named name))] = [name] := by
      simp [foreignNames, Reference.foreignName?, foreign]
    rw [events, List.drop_left] at asked
    rw [events, foreignNames_append, named, distinct_append_singleton, if_neg fresh,
      ← resolved.lookups, ← asked]
    exact List.filterMap_append
  quiet := by
    obtain ⟨more, events, quiet⟩ := resolve_events resolver name history
    rw [events]
    intro event member
    exact (List.mem_append.mp member).elim (resolved.quiet event) (quiet event)

theorem exists_answer (isSystem : resolver.system = some system) {name : String}
    (unneeded : ¬ resolver.IsForeign name ∨ (history.known.get? name).isSome) :
    ∃ addresses, resolver.answers history name = .ok addresses := by
  rw [answers]
  cases tabled : resolver.names.get? name with
  | some addresses => exact ⟨addresses, rfl⟩
  | none =>
      cases literal : Address.read? name with
      | some address => exact ⟨[address], rfl⟩
      | none =>
          have known := unneeded.resolve_left fun native => native ⟨tabled, literal⟩
          obtain ⟨addresses, isKnown⟩ := Option.isSome_iff_exists.mp known
          rw [isSystem, isKnown]
          exact ⟨addresses, rfl⟩

end Asking

/-! ## Going through references -/

namespace Factory

variable {α β : Type} {factory : Factory} {system : String → DnsAnswer}

/-- How work that resolves references can end, after some others have been resolved. -/
inductive Ends (factory : Factory) (system : String → DnsAnswer)
    (past references : List Reference) : Except BuildError α × History → Prop where
  /-- All of them have been resolved. -/
  | resolved {value : α} {later : History} :
      (∀ reference ∈ references, factory.fault? system reference = none) →
      factory.resolver.HasResolved system (past ++ references) later →
      Ends factory system past references (.ok value, later)
  /-- One of them is the first to fail, and no lookup was made for those behind it. -/
  | failed {error : BuildError} {later : History} (front : List Reference)
      (reference : Reference) (back : List Reference) :
      references = front ++ reference :: back →
      (∀ earlier ∈ front, factory.fault? system earlier = none) →
      factory.fault? system reference = some error →
      factory.resolver.HasAsked (past ++ (front ++ [reference])) later →
      Ends factory system past references (.error error, later)

/-- Some work resolves references one after the other, up to the first that fails. -/
def GoesThrough (factory : Factory) (system : String → DnsAnswer) (references : List Reference)
    (work : Recorded BuildError α) : Prop :=
  ∀ past history, factory.resolver.HasResolved system past history →
    factory.Ends system past references (work.after history)

theorem goesThrough_pure (value : α) :
    factory.GoesThrough system [] (pure value : Recorded BuildError α) := by
  intro past history resolved
  refine .resolved nofun ?_
  rwa [List.append_nil]

/-- Work that goes through some references and goes on through others goes through all of them. -/
theorem goesThrough_bind {first second : List Reference} {work : Recorded BuildError α}
    {next : α → Recorded BuildError β} (goesFirst : factory.GoesThrough system first work)
    (goesOn : ∀ value, factory.GoesThrough system second (next value)) :
    factory.GoesThrough system (first ++ second) (work >>= next) := by
  intro past history resolved
  rw [Recorded.after_bind]
  have atFirst := goesFirst past history resolved
  generalize work.after history = reached at atFirst ⊢
  cases atFirst with
  | failed front reference back split earlier fails asked =>
      refine .failed front reference (back ++ second) ?_ earlier fails asked
      rw [split, List.append_assoc, List.cons_append]
  | @resolved value later firstResolve atLater =>
      have atNext := goesOn value (past ++ first) later atLater
      dsimp only
      generalize (next value).after later = reached at atNext ⊢
      cases atNext with
      | resolved secondResolve atEnd =>
          refine .resolved ?_ (List.append_assoc past first second ▸ atEnd)
          intro reference member
          exact (List.mem_append.mp member).elim (firstResolve reference) (secondResolve reference)
      | failed front reference back split earlier fails asked =>
          refine .failed (first ++ front) reference back ?_ ?_ fails ?_
          · rw [split, List.append_assoc]
          · intro other member
            exact (List.mem_append.mp member).elim (firstResolve other) (earlier other)
          · rwa [List.append_assoc, ← List.append_assoc]

/-- Work that only makes something else of its result goes through the same references. -/
theorem goesThrough_map {references : List Reference} {work : Recorded BuildError α}
    (goes : factory.GoesThrough system references work) (change : α → β) :
    factory.GoesThrough system references (work >>= fun value => pure (change value)) := by
  have both := goesThrough_bind goes fun value => goesThrough_pure (change value)
  rwa [List.append_nil] at both

theorem goesThrough_mapM {work : α → Recorded BuildError β} {refer : α → Reference}
    (goes : ∀ element, factory.GoesThrough system [refer element] (work element))
    (list : List α) : factory.GoesThrough system (list.map refer) (list.mapM work) := by
  induction list with
  | nil => exact goesThrough_pure []
  | cons element rest ih =>
      rw [List.mapM_cons]
      exact goesThrough_bind (goes element) fun head => goesThrough_map ih (head :: ·)

/-- A name is looked up if only the system can know it and it is not remembered. -/
theorem goesThrough_name (isSystem : factory.resolver.system = some system) (name : String) :
    factory.GoesThrough system [.host (some (.named name))] (factory.resolver.resolve name) := by
  intro past history resolved
  have outcome : ((factory.resolver.resolve name).after history).1 =
      factory.resolver.answers history name := (factory.resolver.resolve_determined name history).1
  have fault : factory.fault? system (.host (some (.named name))) =
      error? ((factory.resolver.resolve name).after history).1 := by
    rw [outcome, resolved.answers, fault?_host]
  by_cases asks : factory.resolver.IsForeign name ∧ history.known.get? name = none
  · have asked := resolved.asks isSystem asks.1 asks.2
    have known := (resolve_asking isSystem asks.1 asks.2).2
    have kept := (factory.resolver.resolve_determined name history).2
    cases reached : (factory.resolver.resolve name).after history with
    | mk result later =>
        rw [reached] at fault asked known kept
        cases result with
        | error error => exact .failed [] _ [] rfl nofun fault asked
        | ok addresses =>
            refine .resolved (by simpa [error?] using fault)
              ⟨asked, kept.trans resolved.answers, ?_⟩
            intro other
            rw [known, resolved.known, foreignNames_append, List.mem_append]
            refine or_congr_right ?_
            simp [foreignNames, Reference.foreignName?, asks.1]
  · have unneeded : ¬ factory.resolver.IsForeign name ∨ (history.known.get? name).isSome := by
      rw [← Option.ne_none_iff_isSome]
      exact not_and_or.mp asks
    obtain ⟨addresses, answer⟩ := exists_answer isSystem unneeded
    have same := resolve_without_asking isSystem unneeded
    rw [answer] at outcome
    rw [outcome] at fault
    cases reached : (factory.resolver.resolve name).after history with
    | mk result later =>
        rw [reached] at outcome same
        cases outcome
        cases same
        refine .resolved (by simpa [error?] using fault) (resolved.append ?_)
        intro other member
        by_cases foreign : factory.resolver.IsForeign name
        · have isName : other = name := by
            simpa [foreignNames, Reference.foreignName?, foreign] using member
          rw [isName, ← resolved.known]
          exact unneeded.resolve_left (not_not.mpr foreign)
        · simp [foreignNames, Reference.foreignName?, foreign] at member

/-- Work that asks nobody goes through references without foreign names, if it has their errors. -/
theorem goesThrough_ofExcept {references : List Reference} {outcome : Except BuildError α}
    (unnamed : ∀ reference ∈ references, reference.foreignName? factory.resolver = none)
    (faults : error? outcome = references.findSome? (factory.fault? system)) :
    factory.GoesThrough system references (Recorded.ofExcept outcome) := by
  intro past history resolved
  have append : ∀ others ⊆ references,
      factory.resolver.HasResolved system (past ++ others) history := by
    intro others inside
    apply resolved.append
    have noNames := fun other member => unnamed other (inside member)
    rw [foreignNames, List.filterMap_eq_nil_iff.mpr noNames]
    exact List.nil_subset _
  rw [Recorded.after_ofExcept]
  cases outcome with
  | ok value =>
      have faultless := List.findSome?_eq_none_iff.mp faults.symm
      exact .resolved faultless (append references (List.Subset.refl _))
  | error error =>
      obtain ⟨front, reference, back, split, fails, earlier⟩ :=
        List.findSome?_eq_some_iff.mp faults.symm
      refine .failed front reference back split earlier fails (append _ ?_).toHasAsked
      rw [split, List.append_cons front reference back]
      exact List.subset_append_left _ _

theorem goesThrough_known {reference : Reference}
    (unnamed : reference.foreignName? factory.resolver = none)
    (faultless : factory.fault? system reference = none) (value : α) :
    factory.GoesThrough system [reference] (pure value : Recorded BuildError α) := by
  apply @goesThrough_ofExcept _ _ _ _ (.ok value)
  · simpa using unnamed
  · simp [error?, faultless]

theorem goesThrough_host (isSystem : factory.resolver.system = some system)
    (host : Option Intent.Host) :
    factory.GoesThrough system [.host host] (factory.resolveHost host) := by
  cases host with
  | none => exact goesThrough_known rfl rfl [none]
  | some host =>
      cases host with
      | address address => exact goesThrough_known rfl rfl [some address]
      | named name => exact goesThrough_map (goesThrough_name isSystem name) (List.map some)

theorem goesThrough_hosts (isSystem : factory.resolver.system = some system)
    (hosts : Intent.Hosts) :
    factory.GoesThrough system (hosts.toList.map .host) (factory.resolveHosts hosts) :=
  goesThrough_map (goesThrough_mapM (goesThrough_host isSystem) hosts.toList) List.flatten

theorem goesThrough_ports (ports : Intent.Ports) :
    factory.GoesThrough system (ports.leaves.map .port) (factory.resolvePorts ports) := by
  apply goesThrough_ofExcept
  · intro reference member
    obtain ⟨leaf, -, rfl⟩ := List.mem_map.mp member
    rfl
  · exact Intent.error?_ports ports

/-- The references of an intent are resolved in their order. -/
theorem goesThrough_references (isSystem : factory.resolver.system = some system)
    (intent : Intent) : factory.GoesThrough system intent.references (factory.resolve intent) := by
  simp only [Intent.references, Intent.Endpoint.references, List.append_assoc]
  refine goesThrough_bind (goesThrough_hosts isSystem intent.source.hosts) fun _ => ?_
  refine goesThrough_bind (goesThrough_ports intent.source.ports) fun _ => ?_
  refine goesThrough_bind (goesThrough_hosts isSystem intent.destination.hosts) fun _ => ?_
  refine goesThrough_bind (goesThrough_ports intent.destination.ports) fun _ => ?_
  refine goesThrough_bind (goesThrough_hosts isSystem intent.redirect.hosts) fun _ => ?_
  refine goesThrough_bind (goesThrough_ports intent.redirect.ports) fun _ => ?_
  exact goesThrough_map (goesThrough_hosts isSystem intent.masquerade) _

/-! ## Builds -/

/-- What is noted of a verdict concerns the rule, and no name. -/
theorem component_of_event? {verdicts : List Verdict} :
    ∀ event ∈ verdicts.filterMap Verdict.event?, event.component = .factory := by
  intro event member
  obtain ⟨verdict, -, noted⟩ := List.mem_filterMap.mp member
  cases verdict with
  | kept rule => contradiction
  | dropped conflict | filtered family restriction =>
      cases noted
      rfl

/-- An intent comes to its outcome by resolving its references in order, with these events. -/
inductive ResolvesInOrder (factory : Factory) (system : String → DnsAnswer) (intent : Intent) :
    Except BuildError Batch → List Event → Prop where
  /-- The first reference that fails ends the build, whatever else is wrong with the intent: there
  are no events but those of the lookups up to it. -/
  | failed {error : BuildError} {events : List Event} (front : List Reference)
      (reference : Reference) (back : List Reference) :
      intent.references = front ++ reference :: back →
      (∀ earlier ∈ front, earlier.Resolves factory system) →
      reference.Fails factory system error →
      lookups events = distinct (factory.resolver.foreignNames (front ++ [reference])) →
      (∀ event ∈ events, event.component = .resolver) →
      ResolvesInOrder factory system intent (.error error) events
  /-- If no reference fails, all lookups come before the first verdict on a combination, and only a
  rule that is not valid can still end the build. -/
  | resolved {outcome : Except BuildError Batch} {asking verdicts : List Event} :
      (∀ reference ∈ intent.references, reference.Resolves factory system) →
      (∀ error, outcome = .error error → ∃ invalid, error = .invalid invalid) →
      lookups (asking ++ verdicts) = distinct (factory.resolver.foreignNames intent.references) →
      (∀ event ∈ asking, event.component = .resolver) →
      (∀ event ∈ verdicts, event.component = .factory) →
      ResolvesInOrder factory system intent outcome (asking ++ verdicts)

theorem lookups_of_factory {events : List Event}
    (others : ∀ event ∈ events, event.component = .factory) : lookups events = [] := by
  rw [lookups, List.filterMap_eq_nil_iff]
  intro event member
  have other := others event member
  cases event with
  | resolving name => contradiction
  | _ => rfl

end Factory

/-- A build on a new factory resolves the references of its intent in order, and asks the system for
every foreign name up to the first reference that fails, once each. -/
theorem build_resolves_in_order (factory : Factory) (intent : Intent) (scope : Option FamilyChoice)
    {system : String → DnsAnswer} (isSystem : factory.resolver.system = some system)
    (valid : WritesAddresses system) (nonempty : intent.isEmpty = false)
    (readable : ∀ leaf, .port leaf ∈ intent.references → ¬ leaf.IsUnreadable) :
    factory.ResolvesInOrder system intent
      ((factory.build intent (scope.bind FamilyChoice.restriction)).after .empty).1
      ((factory.build intent (scope.bind FamilyChoice.restriction)).after .empty).2.events := by
  have fails_iff : ∀ reference ∈ intent.references, ∀ error,
      factory.fault? system reference = some error ↔ reference.Fails factory system error := by
    intro reference member error
    exact fault?_eq_some_iff valid fun leaf isPort => readable leaf (isPort ▸ member)
  have resolves : ∀ reference ∈ intent.references, factory.fault? system reference = none →
      reference.Resolves factory system := by
    intro reference member none error fails
    rw [← fails_iff reference member, none] at fails
    contradiction
  have atReferences := Factory.goesThrough_references isSystem intent [] .empty
    (hasResolved_start isSystem valid)
  rw [Factory.build, nonempty, if_neg Bool.false_ne_true, Recorded.after_bind]
  generalize (factory.resolve intent).after .empty = reached at atReferences ⊢
  cases atReferences with
  | failed front reference back split earlier fails asked =>
      have inside : ∀ other ∈ front ++ [reference], other ∈ intent.references := by
        intro other member
        rw [split, List.append_cons]
        exact List.mem_append_left back member
      refine .failed front reference back split ?_ ?_ asked.lookups asked.quiet
      · intro other member
        exact resolves other (inside other (List.mem_append_left _ member)) (earlier other member)
      · exact (fails_iff reference (inside reference (by simp)) _).mp fails
  | @resolved alternatives later allResolve resolved =>
      dsimp only
      cases reached : Verdict.onAll intent (scope.bind FamilyChoice.restriction)
          alternatives.combinations with
      | mk verdicts invalid =>
          have noted := @Factory.component_of_event? verdicts
          have asked : lookups (later.events ++ verdicts.filterMap Verdict.event?) =
              distinct (factory.resolver.foreignNames intent.references) := by
            rw [lookups, List.filterMap_append, ← lookups, ← lookups,
              Factory.lookups_of_factory noted, List.append_nil]
            exact resolved.lookups
          have allResolved := fun reference member =>
            resolves reference member (allResolve reference member)
          cases invalid with
          | some invalid =>
              refine .resolved allResolved ?_ asked resolved.quiet noted
              rintro _ ⟨⟩
              exact ⟨invalid, rfl⟩
          | none => exact .resolved allResolved nofun asked resolved.quiet noted

/-- The small system behind its table, and one service. -/
def zonedFactory : Factory := ⟨zonedResolver, Table.ofList [("http", 80)]⟩

/-- Without a direction no rule is valid, and most combinations mix the families.  Three of the
names are known to nobody, and so is a service that comes after the first of them. -/
def strayIntent : Intent where
  action := some .pass
  returns := false
  direction := none
  family := some (.only .inet6)
  protocols := .absent
  interface := none
  inbound := none
  outbound := none
  source := ⟨.many [.named "::1", .named "router"],
    .many [.text "http", .list [.text "1:2", .null]]⟩
  destination := ⟨.many [.named " ::2 ", .named "router", .named "gone", .named "lost"],
    .named "nosuch"⟩
  masquerade := .one (.named "missing")
  redirect := ⟨.one (.named "gone"), .number 80⟩
  given := [.action, .family, .source, .destination, .masquerade, .redirect]

/-- Of the names, one is in the table and one is an address; two are looked up, and the second one
ends the build. -/
theorem build_strayIntent_resolves_in_order :
    zonedFactory.resolver.system = some zonedSystem ∧ WritesAddresses zonedSystem ∧
    strayIntent.isEmpty = false ∧
    (∀ leaf, .port leaf ∈ strayIntent.references → ¬ leaf.IsUnreadable) ∧
    zonedFactory.ResolvesInOrder zonedSystem strayIntent
      ((zonedFactory.build strayIntent none).after .empty).1
      ((zonedFactory.build strayIntent none).after .empty).2.events ∧
    (error? ((zonedFactory.build strayIntent none).after .empty).1).map BuildError.message =
      some "cannot resolve \"gone\": [Errno -2] Name or service not known" ∧
    lookups ((zonedFactory.build strayIntent none).after .empty).2.events = ["router", "gone"] := by
  have readable : ∀ leaf, .port leaf ∈ strayIntent.references → ¬ leaf.IsUnreadable := by
    intro leaf member
    have oneOf : leaf ∈ [.text "http", .text "1:2", .null, .text "nosuch", .int 80] := by
      simpa [strayIntent, Intent.references, Intent.Endpoint.references, Intent.Hosts.toList,
        Intent.Ports.leaves, Value.leaves, leavesOfItems] using member
    simp only [List.mem_cons, List.not_mem_nil, or_false] at oneOf
    rcases oneOf with rfl | rfl | rfl | rfl | rfl
    · rintro ⟨-, digits, -⟩
      exact absurd (digits 'h' (by decide)) (by decide)
    · rintro ⟨-, digits, -⟩
      exact absurd (digits ':' (by decide)) (by decide)
    · exact id
    · rintro ⟨-, digits, -⟩
      exact absurd (digits 'n' (by decide)) (by decide)
    · exact id
  have resolved := build_resolves_in_order zonedFactory strayIntent none rfl
    writesAddresses_zonedSystem rfl readable
  rw [Option.bind_none] at resolved
  refine ⟨rfl, writesAddresses_zonedSystem, rfl, readable, resolved, ?_, ?_⟩
  · decide +kernel
  · decide +kernel

end Firewall
