import Firewall.Proofs.Address.Zones
import Firewall.Proofs.Build.Outcome
import Firewall.Proofs.Resolver.Answers

/-!
# Queries one after the other

A resolver remembers what the system has answered.  `Resolver.queries_answer_statelessly` says that
nobody can tell from its answers: they are those of a resolver without memory
(`Resolver.stateless`).  What the memory saves is lookups, and it saves all but one for a name that
the system knows, and none for a name that it does not.
-/

namespace Firewall.Resolver

/-- What the system answers are addresses.  One with a zone has no prefix length. -/
def WritesAddresses (system : String → DnsAnswer) : Prop :=
  ∀ name texts, system name = .addresses texts → ∀ text ∈ texts,
    (Address.read? text).isSome ∧ ('%' ∈ text.toList → '/' ∉ text.toList)

/-- The addresses that texts write, without zones, each where it occurs first. -/
def addressesOf (texts : List String) : List Address :=
  distinct (texts.filterMap fun text => (Address.read? text).map Address.withoutZone)

/-- What a name stands for, when nothing is remembered. -/
def stateless (names : Table String (List Address)) (system : String → DnsAnswer) : Answers :=
  fun name =>
    match names.get? name, Address.read? name, system name with
    | some addresses, _, _ => .ok addresses
    | none, some address, _ => .ok [address]
    | none, none, .failure failure => .error (.unresolved name failure)
    | none, none, .addresses texts =>
        if addressesOf texts = [] then .error (.unresolved name .noAddresses)
        else .ok (addressesOf texts)

/-- A query for a name: its outcome, and the names for which the system was asked. -/
structure Query where
  name : String
  outcome : Except BuildError (List Address)
  asked : List String

/-- A query at some point of the history. -/
def query (resolver : Resolver) (history : History) (name : String) : Query :=
  let (outcome, later) := (resolver.resolve name).after history
  ⟨name, outcome, lookups (later.events.drop history.events.length)⟩

/-- Queries for some names, one after the other. -/
def queries (resolver : Resolver) (history : History) : List String → List Query
  | [] => []
  | name :: rest =>
      resolver.query history name :: resolver.queries ((resolver.resolve name).after history).2 rest

/-- Only the system knows the name: it is neither in the table nor an address. -/
def IsForeign (resolver : Resolver) (name : String) : Prop :=
  resolver.names.get? name = none ∧ Address.read? name = none

/-- A query has found addresses. -/
def Query.Succeeded (query : Query) : Prop := ∃ addresses, query.outcome = .ok addresses

/-! ## What the system answers -/

theorem readAnswer_eq {texts : List String}
    (valid : ∀ text ∈ texts,
      (Address.read? text).isSome ∧ ('%' ∈ text.toList → '/' ∉ text.toList)) :
    readAnswer texts = .ok (addressesOf texts) := by
  have readAll : (texts.mapM fun text =>
      Address.read (String.ofList (Text.before '%' text.toList))) =
      .ok (texts.filterMap fun text => (Address.read? text).map Address.withoutZone) := by
    rw [mapM_eq_ok_iff]
    induction texts with
    | nil => exact .nil
    | cons text rest ih =>
        obtain ⟨isAddress, one⟩ := valid text List.mem_cons_self
        obtain ⟨address, isRead⟩ := Option.isSome_iff_exists.mp isAddress
        have without := Address.read?_before_percent isRead one
        rw [List.filterMap_cons, isRead]
        refine .cons ?_ (ih fun other member => valid other (List.mem_cons_of_mem text member))
        rw [Address.read?] at without
        cases found : Address.read (String.ofList (Text.before '%' text.toList)) with
        | error malformed =>
            rw [found] at without
            contradiction
        | ok first =>
            rw [found] at without
            exact congrArg Except.ok (Option.some.inj without)
  rw [readAnswer, readAll]
  rfl

variable {resolver : Resolver} {system : String → DnsAnswer}

theorem answers_empty (isSystem : resolver.system = some system)
    (valid : WritesAddresses system) :
    resolver.answers .empty = stateless resolver.names system := by
  funext name
  rw [answers, stateless]
  cases resolver.names.get? name with
  | some addresses => rfl
  | none =>
      cases Address.read? name with
      | some address => rfl
      | none =>
          rw [isSystem]
          change systemAnswer system name = _
          rw [systemAnswer]
          cases said : system name with
          | failure failure => rfl
          | addresses texts =>
              simp only [readAnswer_eq (valid name texts said), List.isEmpty_iff]

/-- What the system finds is not empty, and has no address twice. -/
theorem found_of_stateless {name : String} (foreign : resolver.IsForeign name)
    {addresses : List Address}
    (found : stateless resolver.names system name = .ok addresses) :
    addresses ≠ [] ∧ addresses.Nodup := by
  rw [stateless, foreign.1, foreign.2] at found
  cases said : system name with
  | failure failure =>
      rw [said] at found
      contradiction
  | addresses texts =>
      simp only [said] at found
      split at found
      case isTrue => contradiction
      case isFalse nonempty =>
        cases found
        exact ⟨nonempty, nodup_distinct _⟩

/-! ## One query -/

/-- A name that is in the table, is an address or is remembered leaves the history as it is. -/
theorem resolve_without_asking {name : String} {history : History}
    (isSystem : resolver.system = some system)
    (unneeded : ¬ resolver.IsForeign name ∨ (history.known.get? name).isSome) :
    ((resolver.resolve name).after history).2 = history := by
  rw [resolve]
  cases tabled : resolver.names.get? name with
  | some addresses => rfl
  | none =>
      cases literal : Address.read? name with
      | some address => rfl
      | none =>
          have known := unneeded.resolve_left fun native => native ⟨tabled, literal⟩
          obtain ⟨addresses, isKnown⟩ := Option.isSome_iff_exists.mp known
          rw [isSystem]
          simp only [askOnce, Recorded.after_bind, Recorded.after_get, isKnown]
          rfl

/-- Asking the system adds its own events to the history, and one of them is the question. -/
theorem ask_events (system : String → DnsAnswer) (name : String) (history : History) :
    ∃ more, ((ask system name).after history).2.events = history.events ++ more ∧
      lookups more = [name] ∧ ∀ event ∈ more, event.component = .resolver := by
  simp only [ask, Recorded.after_bind, Recorded.after_note]
  have question : ∀ event ∈ [Event.resolving name], event.component = .resolver := by
    simp [Event.component]
  cases system name with
  | failure failure => exact ⟨[.resolving name], rfl, rfl, question⟩
  | addresses texts =>
      dsimp only
      cases readAnswer texts with
      | error malformed => exact ⟨[.resolving name], rfl, rfl, question⟩
      | ok addresses =>
          by_cases empty : addresses.isEmpty = true
          · simp only [empty, if_true]
            exact ⟨[.resolving name], rfl, rfl, question⟩
          · simp only [empty]
            refine ⟨[.resolving name, .resolved name addresses], ?_, rfl, ?_⟩
            · exact List.append_assoc _ _ _
            · simp [Event.component]

theorem lookups_ask (system : String → DnsAnswer) (name : String) (history : History) :
    lookups (((ask system name).after history).2.events.drop history.events.length) = [name] := by
  obtain ⟨more, events, asked, -⟩ := ask_events system name history
  rw [events, List.drop_left, asked]

/-- For any other name the system is asked, and what it finds is remembered. -/
theorem resolve_asking {name : String} {history : History}
    (isSystem : resolver.system = some system) (foreign : resolver.IsForeign name)
    (unknown : history.known.get? name = none) :
    lookups (((resolver.resolve name).after history).2.events.drop history.events.length) =
        [name] ∧
      ∀ other, (((resolver.resolve name).after history).2.known.get? other).isSome ↔
        (history.known.get? other).isSome ∨
          other = name ∧
            ∃ addresses, ((resolver.resolve name).after history).1 = .ok addresses := by
  have recorded := lookups_ask system name history
  have kept := (ask_after system name history).2
  have asks : resolver.resolve name = askOnce system name := by
    rw [resolve, foreign.1, foreign.2, isSystem]
  rw [asks]
  simp only [askOnce, Recorded.after_bind, Recorded.after_get, unknown]
  cases reached : (ask system name).after history with
  | mk outcome later =>
      rw [reached] at recorded kept
      cases outcome with
      | error error =>
          refine ⟨recorded, fun other => ?_⟩
          change (later.known.get? other).isSome ↔ _
          rw [kept]
          simp
      | ok addresses =>
          refine ⟨recorded, fun other => ?_⟩
          change ((later.known.put name addresses).get? other).isSome ↔ _
          rw [Table.get?_put, kept]
          by_cases same : name = other
          · rw [if_pos same]
            exact iff_of_true rfl (.inr ⟨same.symm, addresses, rfl⟩)
          · have different : other ≠ name := fun equal => same equal.symm
            simp [same, different]

/-! ## Many queries -/

/-- The memory after some queries: what the system has found, and no answer is different for it. -/
structure Remembers (resolver : Resolver) (system : String → DnsAnswer) (past : List Query)
    (history : History) : Prop where
  answers : resolver.answers history = stateless resolver.names system
  known : ∀ name, (history.known.get? name).isSome ↔
    resolver.IsForeign name ∧ ∃ query ∈ past, query.name = name ∧ query.Succeeded

/-- A query answers as without memory, and asks the system only for what it has not found yet. -/
structure Query.IsFaithful (resolver : Resolver) (system : String → DnsAnswer)
    (before : List Query) (query : Query) : Prop where
  outcome : query.outcome = stateless resolver.names system query.name
  asks : resolver.IsForeign query.name →
    (∀ earlier ∈ before, earlier.name = query.name → ¬ earlier.Succeeded) →
    query.asked = [query.name]
  spares : (resolver.IsForeign query.name →
    ∃ earlier ∈ before, earlier.name = query.name ∧ earlier.Succeeded) → query.asked = []

section Run

variable {past : List Query} {history : History}

theorem remembers_start (isSystem : resolver.system = some system)
    (valid : WritesAddresses system) : Remembers resolver system [] .empty where
  answers := answers_empty isSystem valid
  known := by
    intro name
    simp [History.empty]

/-- The system was not told of a foreign name as long as no query for it has succeeded. -/
theorem unknown_of_unfound (remembers : Remembers resolver system past history) {name : String}
    (unfound : ∀ earlier ∈ past, earlier.name = name → ¬ earlier.Succeeded) :
    history.known.get? name = none := by
  rw [← Option.not_isSome_iff_eq_none, remembers.known]
  rintro ⟨-, earlier, member, same, succeeded⟩
  exact unfound earlier member same succeeded

theorem isFaithful_query (isSystem : resolver.system = some system)
    (remembers : Remembers resolver system past history) (name : String) :
    (resolver.query history name).IsFaithful resolver system past where
  outcome := by
    rw [← remembers.answers]
    exact (resolver.resolve_determined name history).1
  asks := by
    intro foreign unfound
    exact (resolve_asking isSystem foreign (unknown_of_unfound remembers unfound)).1
  spares := by
    intro spared
    have unneeded : ¬ resolver.IsForeign name ∨ (history.known.get? name).isSome := by
      rw [remembers.known]
      by_cases foreign : resolver.IsForeign name
      · exact .inr ⟨foreign, spared foreign⟩
      · exact .inl foreign
    change lookups (((resolver.resolve name).after history).2.events.drop _) = []
    rw [resolve_without_asking isSystem unneeded, List.drop_length]
    rfl

/-- A query keeps the memory right. -/
theorem remembers_query (isSystem : resolver.system = some system)
    (remembers : Remembers resolver system past history) (name : String) :
    Remembers resolver system (past ++ [resolver.query history name])
      ((resolver.resolve name).after history).2 where
  answers := (resolver.resolve_determined name history).2.trans remembers.answers
  known := by
    intro other
    have new : (resolver.query history name).name = other ∧
        (resolver.query history name).Succeeded ↔
        other = name ∧ ∃ addresses, ((resolver.resolve name).after history).1 = .ok addresses :=
      and_congr_left' eq_comm
    simp only [List.mem_append, or_and_right, exists_or, and_or_left, ← remembers.known,
      List.mem_singleton, exists_eq_left, new]
    -- The memory grows only where the system is asked, and only by what it has found.
    by_cases asked : resolver.IsForeign name ∧ history.known.get? name = none
    · rw [(resolve_asking isSystem asked.1 asked.2).2]
      refine or_congr_right ⟨fun found => ⟨found.1 ▸ asked.1, found⟩, And.right⟩
    · have unneeded : ¬ resolver.IsForeign name ∨ (history.known.get? name).isSome := by
        rw [← Option.ne_none_iff_isSome]
        exact not_and_or.mp asked
      rw [resolve_without_asking isSystem unneeded]
      refine ⟨.inl, Or.rec id ?_⟩
      rintro ⟨foreign, rfl, -⟩
      exact unneeded.resolve_left fun native => native foreign

/-- All queries are faithful, each to those before it. -/
theorem isFaithful_of_queries (isSystem : resolver.system = some system)
    (remembers : Remembers resolver system past history) (names : List String)
    {before after : List Query} {query : Query}
    (split : resolver.queries history names = before ++ query :: after) :
    query.IsFaithful resolver system (past ++ before) := by
  induction names generalizing past history before with
  | nil =>
      rw [queries] at split
      simp at split
  | cons name rest ih =>
      rw [queries] at split
      cases before with
      | nil =>
          cases List.cons.inj split |>.1
          rw [List.append_nil]
          exact isFaithful_query isSystem remembers name
      | cons first front =>
          obtain ⟨rfl, behind⟩ := List.cons.inj split
          have step := ih (remembers_query isSystem remembers name) behind
          rwa [List.append_assoc] at step

theorem map_name_queries (resolver : Resolver) (history : History) (names : List String) :
    (resolver.queries history names).map Query.name = names := by
  induction names generalizing history with
  | nil => rfl
  | cons name rest ih =>
      rw [queries, List.map_cons, ih]
      rfl

end Run

/-! ## How often the system is asked -/

section Counting

variable {queries : List Query} {name : String}

theorem mem_asked {before : List Query} {query : Query}
    (faithful : query.IsFaithful resolver system before) {other : String}
    (asked : other ∈ query.asked) : other = query.name := by
  by_cases unfound : resolver.IsForeign query.name ∧
      ∀ earlier ∈ before, earlier.name = query.name → ¬ earlier.Succeeded
  · rw [faithful.asks unfound.1 unfound.2] at asked
    exact List.mem_singleton.mp asked
  · have spared : query.asked = [] := by
      apply faithful.spares
      intro foreign
      by_contra none
      exact unfound ⟨foreign, fun earlier member same succeeded =>
        none ⟨earlier, member, same, succeeded⟩⟩
    rw [spared] at asked
    contradiction

theorem count_asked_of_ne {before : List Query} {query : Query}
    (faithful : query.IsFaithful resolver system before) (other : query.name ≠ name) :
    query.asked.count name = 0 := by
  rw [List.count_eq_zero]
  exact fun asked => other (mem_asked faithful asked).symm

/-- For a name that the system knows it is asked once. -/
theorem count_asked_of_ok
    (faithful : ∀ before query after, queries = before ++ query :: after →
      query.IsFaithful resolver system before)
    (foreign : resolver.IsForeign name) {addresses : List Address}
    (known : stateless resolver.names system name = .ok addresses) :
    (queries.flatMap Query.asked).count name =
      if name ∈ queries.map Query.name then 1 else 0 := by
  induction queries using List.reverseRecOn with
  | nil => rfl
  | append_singleton past last ih =>
      have lastFaithful := faithful past last [] rfl
      have before := ih fun before query after split =>
        faithful before query (after ++ [last]) (by rw [split, List.append_assoc]; rfl)
      rw [List.flatMap_append, List.count_append, before, List.flatMap_singleton, List.map_append]
      by_cases same : last.name = name
      · subst same
        -- An earlier query of the same name has succeeded, for the name decides the outcome.
        by_cases earlier : last.name ∈ past.map Query.name
        · obtain ⟨first, member, isSame⟩ := List.mem_map.mp earlier
          have succeeded : first.Succeeded := by
            obtain ⟨front, back, split⟩ := List.append_of_mem member
            have atFirst := faithful front first (back ++ [last]) (by simp [split])
            exact ⟨addresses, by rw [atFirst.outcome, isSame, known]⟩
          rw [lastFaithful.spares fun _ => ⟨first, member, isSame, succeeded⟩]
          simp [earlier]
        · rw [lastFaithful.asks foreign fun first member isSame =>
            absurd (List.mem_map.mpr ⟨first, member, isSame⟩) earlier]
          simp [earlier]
      · rw [count_asked_of_ne lastFaithful same]
        simp [Ne.symm same]

/-- For a name that it does not know it is asked every time. -/
theorem count_asked_of_error
    (faithful : ∀ before query after, queries = before ++ query :: after →
      query.IsFaithful resolver system before)
    (foreign : resolver.IsForeign name) {error : BuildError}
    (unknown : stateless resolver.names system name = .error error) :
    (queries.flatMap Query.asked).count name = (queries.map Query.name).count name := by
  induction queries using List.reverseRecOn with
  | nil => rfl
  | append_singleton past last ih =>
      have lastFaithful := faithful past last [] rfl
      have before := ih fun before query after split =>
        faithful before query (after ++ [last]) (by rw [split, List.append_assoc]; rfl)
      rw [List.flatMap_append, List.count_append, before, List.flatMap_singleton, List.map_append,
        List.count_append]
      by_cases same : last.name = name
      · subst same
        have unfound : ∀ earlier ∈ past, earlier.name = last.name → ¬ earlier.Succeeded := by
          rintro earlier member isSame ⟨addresses, found⟩
          obtain ⟨front, back, split⟩ := List.append_of_mem member
          have atEarlier := faithful front earlier (back ++ [last]) (by simp [split])
          rw [atEarlier.outcome, isSame, unknown] at found
          contradiction
        rw [lastFaithful.asks foreign unfound]
        rfl
      · rw [count_asked_of_ne lastFaithful same]
        simp [same]

end Counting

/-! ## All queries -/

/-- Queries answer as those of a resolver without memory, with no more lookups than are needed. -/
structure AnswersStatelessly (resolver : Resolver) (system : String → DnsAnswer)
    (names : List String) (queries : List Query) : Prop where
  inOrder : queries.map Query.name = names
  /-- Every query is faithful to those before it. -/
  faithful : ∀ before query after, queries = before ++ query :: after →
    query.IsFaithful resolver system before
  /-- What the system finds is not empty, and has no address twice. -/
  found : ∀ query ∈ queries, resolver.IsForeign query.name → ∀ addresses,
    query.outcome = .ok addresses → addresses ≠ [] ∧ addresses.Nodup
  /-- A name that the system knows is looked up once. -/
  once : ∀ query ∈ queries, resolver.IsForeign query.name → query.Succeeded →
    (queries.flatMap Query.asked).count query.name = 1
  /-- A name that it does not know is looked up every time. -/
  always : ∀ query ∈ queries, resolver.IsForeign query.name → ¬ query.Succeeded →
    (queries.flatMap Query.asked).count query.name = names.count query.name

/-- Whatever names are asked for, a new resolver answers as one without memory would. -/
theorem queries_answer_statelessly (isSystem : resolver.system = some system)
    (valid : WritesAddresses system) (names : List String) :
    AnswersStatelessly resolver system names (resolver.queries .empty names) := by
  have faithful : ∀ before query after, resolver.queries .empty names = before ++ query :: after →
      query.IsFaithful resolver system before := by
    intro before query after split
    exact isFaithful_of_queries isSystem (remembers_start isSystem valid) names split
  have outcome : ∀ query ∈ resolver.queries .empty names,
      query.outcome = stateless resolver.names system query.name := by
    intro query member
    obtain ⟨before, after, split⟩ := List.append_of_mem member
    exact (faithful before query after split).outcome
  constructor
  case inOrder => exact map_name_queries resolver .empty names
  case faithful => exact faithful
  case found =>
    intro query member foreign addresses found
    rw [outcome query member] at found
    exact found_of_stateless foreign found
  case once =>
    intro query member foreign succeeded
    obtain ⟨addresses, found⟩ := succeeded
    rw [outcome query member] at found
    rw [count_asked_of_ok faithful foreign found, if_pos (List.mem_map_of_mem member)]
  case always =>
    intro query member foreign failed
    cases said : stateless resolver.names system query.name with
    | error error =>
        have counted := count_asked_of_error faithful foreign said
        rwa [map_name_queries] at counted
    | ok addresses => exact absurd ⟨addresses, (outcome query member).trans said⟩ failed

/-- A system that knows one name: two of its three answers are the same without the zone. -/
def zonedSystem (name : String) : DnsAnswer :=
  if name = "router" then .addresses ["fe80::1%eth0", "192.0.2.1", "fe80::1"]
  else .failure (.system (-2) "Name or service not known")

theorem writesAddresses_zonedSystem : WritesAddresses zonedSystem := by
  intro name texts answered
  rw [zonedSystem] at answered
  split at answered
  · cases answered
    decide +kernel
  · contradiction

/-- The small system behind a table in which an address is a name. -/
def zonedResolver : Resolver :=
  ⟨Table.ofList [("::1", [.v4 0x0A000001#32 (.last 32), .v4 0x0A000001#32 (.last 32)])],
    some zonedSystem⟩

theorem zoned_queries_answer_statelessly :
    zonedResolver.system = some zonedSystem ∧ WritesAddresses zonedSystem ∧
      AnswersStatelessly zonedResolver zonedSystem
        ["router", "gone", "::1", " ::2 ", "router", "gone"]
        (zonedResolver.queries .empty ["router", "gone", "::1", " ::2 ", "router", "gone"]) ∧
      (zonedResolver.queries .empty ["router", "gone", "::1", " ::2 ", "router", "gone"]).map
        Query.asked = [["router"], ["gone"], [], [], [], ["gone"]] := by
  refine ⟨rfl, writesAddresses_zonedSystem,
    queries_answer_statelessly rfl writesAddresses_zonedSystem _, ?_⟩
  decide +kernel

end Firewall.Resolver
