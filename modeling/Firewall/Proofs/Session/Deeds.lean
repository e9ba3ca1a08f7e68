import Firewall.Proofs.Build.Outcome
import Firewall.Session
import Mathlib.Data.List.Infix

/-!
# The deeds of a session

A session does one thing after the other on its factory and on the scopes taken from it; a step with
a body takes a scope, enters it, does what the body says and leaves it.  `Session.deeds` lists these
deeds, those of bodies among them, each with what it gives.

The deeds done so far tell all there is to know of a scope: its family from when it was taken, and
its phase from the acts on it (`Session.scopeAfter`).  `Session.leadTo_runAll` says that this is the
scope that the session has, and that every deed gives what is due after those before it: to the
factory, to the scope and to nothing else.
-/

namespace Firewall

open Resolver

namespace Session

/-- What is done on a scope or on the factory. -/
inductive Act where
  /-- Builds an intent under a restriction. -/
  | build (intent restriction : Value)
  /-- Asks for a scope. -/
  | take (family : Value)
  | enter
  | leave
  /-- The step that has run a body with the scope is over. -/
  | finish

/-- An act, the number of the scope on which it is done if not on the factory, and what it
gives. -/
structure Deed where
  on : Option Nat
  act : Act
  outcome : Outcome

/-- Where a step works: on the scope that goes by a name, or on the factory. -/
def place (session : Session) : Option String → Except SessionError (Option Nat)
  | none => .ok none
  | some name => (session.find name).map fun found => some found.1

/-- The deed of an act; nothing is done on a name without a scope. -/
def deedOn (session : Session) (on : Option String) (act : Act) (outcome : Outcome) : List Deed :=
  match session.place on with
  | .ok place => [⟨place, act, outcome⟩]
  | .error _ => []

mutual

/-- The deeds of a step. -/
def deeds (factory : Factory) (session : Session) : Step → List Deed
  | .build on intent restriction =>
      session.deedOn on (.build intent restriction)
        (session.run factory (.build on intent restriction)).1
  | .take on family name =>
      session.deedOn on (.take family) (session.run factory (.take on family name)).1
  | .enter on => session.deedOn (some on) .enter (session.run factory (.enter on)).1
  | .leave on => session.deedOn (some on) .leave (session.run factory (.leave on)).1
  | .within on family name body =>
      let asked := session.choose on family
      session.deedOn on (.take family) (.ofExcept .taken asked) ++
        match asked with
        | .error _ => []
        | .ok choice =>
            let number := some session.scopes.length
            [⟨number, .enter, .entered⟩]
              ++ bodyDeeds factory (session.add name ⟨choice, .active⟩) body
              ++ [⟨number, .leave, .left⟩,
                ⟨number, .finish, (session.run factory (.within on family name body)).1⟩]

/-- The deeds of a body up to a marked step that fails. -/
def bodyDeeds (factory : Factory) (session : Session) : List (Step × Bool) → List Deed
  | [] => []
  | (step, marked) :: rest =>
      session.deeds factory step ++
        if marked && (session.run factory step).1.error?.isSome then []
        else bodyDeeds factory (session.run factory step).2 rest

end

/-- The deeds of steps one after the other. -/
def allDeeds (factory : Factory) (session : Session) : List Step → List Deed
  | [] => []
  | step :: rest =>
      session.deeds factory step ++ allDeeds factory (session.run factory step).2 rest

/-- The last deed of a step gives what the step gives. -/
theorem outcome_of_getLast?_deeds {factory : Factory} {session : Session} {step : Step}
    {deed : Deed} (last : (session.deeds factory step).getLast? = some deed) :
    deed.outcome = (session.run factory step).1 := by
  have ofDeedOn : ∀ {on act outcome}, (session.deedOn on act outcome).getLast? = some deed →
      deed.outcome = outcome := by
    intro on act outcome isLast
    rw [deedOn] at isLast
    cases found : session.place on with
    | error error =>
        rw [found] at isLast
        contradiction
    | ok place =>
        rw [found] at isLast
        cases isLast
        rfl
  cases step with
  | build | take | enter | leave =>
      rw [deeds] at last
      exact ofDeedOn last
  | within on family name body =>
      rw [deeds] at last
      cases chosen : session.choose on family with
      | error error =>
          rw [chosen, List.append_nil] at last
          rw [run, chosen, ofDeedOn last]
          rfl
      | ok choice =>
          simp only [chosen, List.getLast?_append, List.getLast?_cons_cons,
            List.getLast?_singleton, Option.some_or, Option.some.injEq] at last
          rw [← last]

/-! ## Scopes after some deeds -/

/-- The phase of a scope after an act on it. -/
def phaseAfter : Phase → Act → Phase
  | _, .leave => .closed
  | .new, .enter => .active
  | phase, _ => phase

/-- The acts on the scope with a number. -/
def actsOn (number : Nat) (past : List Deed) : List Act :=
  (past.filter (·.on = some number)).map Deed.act

/-- The choice of family for which the factory gives a scope. -/
def Deed.taken? : Deed → Option FamilyChoice
  | ⟨none, .take _, .taken choice⟩ => some choice
  | _ => none

/-- The choice of family of the scope with a number: scopes are numbered as they are taken. -/
def choice? (number : Nat) (past : List Deed) : Option FamilyChoice :=
  (past.filterMap Deed.taken?)[number]?

/-- The scope with a number, as it is after some deeds.  Its own acts alone tell its phase. -/
def scopeAfter (number : Nat) (past : List Deed) : Option Scope :=
  (choice? number past).map fun choice => ⟨choice, (actsOn number past).foldl phaseAfter .new⟩

theorem actsOn_append (number : Nat) (past later : List Deed) :
    actsOn number (past ++ later) = actsOn number past ++ actsOn number later := by
  rw [actsOn, List.filter_append, List.map_append]
  rfl

theorem actsOn_same (number : Nat) (act : Act) (outcome : Outcome) :
    actsOn number [⟨some number, act, outcome⟩] = [act] := by
  simp [actsOn]

theorem actsOn_other {number : Nat} {on : Option Nat} (other : on ≠ some number) (act : Act)
    (outcome : Outcome) : actsOn number [⟨on, act, outcome⟩] = [] := by
  simp [actsOn, other]

theorem choice?_append_singleton {deed : Deed} (untaken : deed.taken? = none) (number : Nat)
    (past : List Deed) : choice? number (past ++ [deed]) = choice? number past := by
  rw [choice?, List.filterMap_append]
  simp [untaken, choice?]

theorem scopeAfter_other {deed : Deed} {number : Nat} (untaken : deed.taken? = none)
    (other : deed.on ≠ some number) (past : List Deed) :
    scopeAfter number (past ++ [deed]) = scopeAfter number past := by
  rw [scopeAfter, choice?_append_singleton untaken, actsOn_append, actsOn_other other,
    List.append_nil]
  rfl

theorem scopeAfter_same {number : Nat} {past : List Deed} {scope : Scope}
    (before : scopeAfter number past = some scope) (act : Act) (outcome : Outcome) :
    scopeAfter number (past ++ [⟨some number, act, outcome⟩]) =
      some { scope with phase := phaseAfter scope.phase act } := by
  obtain ⟨choice, taken, same⟩ := Option.map_eq_some_iff.mp before
  rw [scopeAfter, choice?_append_singleton rfl, taken, actsOn_append, actsOn_same,
    List.foldl_append, ← same]
  rfl

/-! ## What is due -/

/-- What a build on the factory gives in a session of its own. -/
def alone (factory : Factory) (intent restriction : Value) : Outcome :=
  (start.run factory (.build none intent restriction)).1

/-- What an act on the factory gives. -/
def factoryAnswer? (factory : Factory) : Act → Option Outcome
  | .build intent restriction => some (alone factory intent restriction)
  | .take family => some (.ofExcept .taken ((FamilyChoice.read family).mapError .build))
  | _ => none

/-- What an act on a scope gives; a step that is over gives what its body has come to. -/
def scopeAnswer? (factory : Factory) (scope : Scope) : Act → Option Outcome
  | .build intent .null =>
      some (if scope.phase = .closed then .failed (.scopeClosed scope.choice)
        else alone factory intent (.text scope.choice.name))
  | .build _ _ => some (.failed .alreadyScoped)
  | .take _ => some (.failed .alreadyScoped)
  | .enter => some (if scope.phase = .new then .entered else .failed .alreadyScoped)
  | .leave => some .left
  | .finish => none

/-- A deed gives what is due after the deeds before it. -/
inductive Due (factory : Factory) (past : List Deed) : Deed → Prop where
  | ofFactory {act : Act} {outcome : Outcome} :
      factoryAnswer? factory act = some outcome → Due factory past ⟨none, act, outcome⟩
  | ofScope {number : Nat} {scope : Scope} {act : Act} {outcome : Outcome} :
      scopeAfter number past = some scope → scopeAnswer? factory scope act = some outcome →
      Due factory past ⟨some number, act, outcome⟩
  | finished {number : Nat} {scope : Scope} {outcome : Outcome} :
      scopeAfter number past = some scope → scope.phase = .closed →
      Due factory past ⟨some number, .finish, outcome⟩

/-- Some deeds lead to a session: they tell its scopes, each of them gives what is due, and the
answers to names are those with nothing known. -/
structure LeadTo (factory : Factory) (past : List Deed) (session : Session) : Prop where
  scopes : ∀ number, session.scopes[number]? = scopeAfter number past
  untouched : ∀ number, choice? number past = none → actsOn number past = []
  answers : factory.resolver.answers session.history = factory.resolver.answers .empty
  due : ∀ before deed, before ++ [deed] <+: past → Due factory before deed

variable {factory : Factory} {past : List Deed} {session later : Session}

theorem leadTo_start : LeadTo factory [] start := by
  constructor
  case scopes => exact fun number => rfl
  case untouched => exact fun number _ => rfl
  case answers => rfl
  case due =>
    intro before deed isPrefix
    have impossible := List.append_eq_nil_iff.mp (List.prefix_nil.mp isPrefix)
    exact absurd impossible.2 (List.cons_ne_nil deed [])

/-- One more deed is due if it gives what is due after all others. -/
theorem due_append_singleton {last : Deed}
    (due : ∀ before deed, before ++ [deed] <+: past → Due factory before deed)
    (lastDue : Due factory past last) :
    ∀ before deed, before ++ [deed] <+: past ++ [last] → Due factory before deed := by
  intro before deed isPrefix
  cases List.prefix_concat_iff.mp isPrefix with
  | inl whole =>
      obtain ⟨rfl, rfl⟩ := List.append_inj' whole rfl |>.imp_right List.singleton_inj.mp
      exact lastDue
  | inr earlier => exact due before deed earlier

theorem leadTo_onFactory (leads : LeadTo factory past session) {act : Act} {outcome : Outcome}
    (due : factoryAnswer? factory act = some outcome)
    (untaken : Deed.taken? ⟨none, act, outcome⟩ = none) (scopes : later.scopes = session.scopes)
    (answers : factory.resolver.answers later.history =
      factory.resolver.answers session.history) :
    LeadTo factory (past ++ [⟨none, act, outcome⟩]) later := by
  have elsewhere : ∀ number, (none : Option Nat) ≠ some number := nofun
  constructor
  case scopes =>
    intro number
    rw [scopes, leads.scopes, scopeAfter_other untaken (elsewhere number)]
  case untouched =>
    intro number unknown
    rw [choice?_append_singleton untaken] at unknown
    rw [actsOn_append, leads.untouched number unknown, actsOn_other (elsewhere number)]
    rfl
  case answers => exact answers.trans leads.answers
  case due => exact due_append_singleton leads.due (.ofFactory due)

theorem leadTo_onScope (leads : LeadTo factory past session) {number : Nat} {scope : Scope}
    (found : session.scopes[number]? = some scope) {act : Act} {outcome : Outcome}
    (due : Due factory past ⟨some number, act, outcome⟩)
    (scopes : later.scopes = (session.setPhase number (phaseAfter scope.phase act)).scopes)
    (answers : factory.resolver.answers later.history =
      factory.resolver.answers session.history) :
    LeadTo factory (past ++ [⟨some number, act, outcome⟩]) later := by
  have before : scopeAfter number past = some scope := (leads.scopes number).symm.trans found
  constructor
  case scopes =>
    intro other
    rw [scopes, setPhase, List.getElem?_modify, leads.scopes]
    by_cases same : number = other
    · subst same
      rw [before, scopeAfter_same before]
      simp
    · rw [scopeAfter_other rfl (by simpa using same)]
      simp [same]
  case untouched =>
    intro other unknown
    rw [choice?_append_singleton rfl] at unknown
    have different : (some number : Option Nat) ≠ some other := by
      intro same
      obtain ⟨choice, taken, -⟩ := Option.map_eq_some_iff.mp before
      rw [Option.some.inj same, unknown] at taken
      contradiction
    rw [actsOn_append, leads.untouched other unknown, actsOn_other different]
    rfl
  case answers => exact answers.trans leads.answers
  case due => exact due_append_singleton leads.due due

theorem choice?_taken (number : Nat) (past : List Deed) (family : Value) (choice : FamilyChoice) :
    choice? number (past ++ [⟨none, .take family, .taken choice⟩]) =
      if number = (past.filterMap Deed.taken?).length then some choice
      else choice? number past := by
  rw [choice?, List.filterMap_append]
  change (past.filterMap Deed.taken? ++ [choice])[number]? = _
  rw [List.getElem?_append, choice?]
  split
  case isTrue known => rw [if_neg (Nat.ne_of_lt known)]
  case isFalse unknown =>
    rw [List.getElem?_singleton, List.getElem?_eq_none (Nat.le_of_not_lt unknown)]
    have next : number - (past.filterMap Deed.taken?).length = 0 ↔
        number = (past.filterMap Deed.taken?).length := by
      omega
    simp only [next]

/-- A session has as many scopes as were taken. -/
theorem length_taken (leads : LeadTo factory past session) :
    (past.filterMap Deed.taken?).length = session.scopes.length := by
  have unknown : ∀ number, session.scopes.length ≤ number ↔
      (past.filterMap Deed.taken?).length ≤ number := by
    intro number
    rw [← List.getElem?_eq_none_iff, leads.scopes, scopeAfter, Option.map_eq_none_iff, choice?,
      List.getElem?_eq_none_iff]
  exact Nat.le_antisymm ((unknown _).mp (Nat.le_refl _)) ((unknown _).mpr (Nat.le_refl _))

theorem leadTo_taken (leads : LeadTo factory past session) {family : Value}
    {choice : FamilyChoice} (asked : FamilyChoice.read family = .ok choice) (name : String) :
    LeadTo factory (past ++ [⟨none, .take family, .taken choice⟩])
      (session.add name ⟨choice, .new⟩) := by
  have elsewhere : ∀ number, (none : Option Nat) ≠ some number := nofun
  have acts : ∀ number, actsOn number (past ++ [⟨none, .take family, .taken choice⟩]) =
      actsOn number past := by
    intro number
    rw [actsOn_append, actsOn_other (elsewhere number), List.append_nil]
  have length := length_taken leads
  constructor
  case scopes =>
    intro number
    have added : (session.add name ⟨choice, .new⟩).scopes =
        session.scopes ++ [⟨choice, .new⟩] := rfl
    rw [added, scopeAfter, choice?_taken, acts, length]
    -- No scope had the new number, so there are no acts on it and the new scope starts as new.
    by_cases next : number = session.scopes.length
    · have unknown : choice? number past = none := by
        rw [choice?, List.getElem?_eq_none_iff, length, next]
      rw [if_pos next, leads.untouched number unknown, next, List.getElem?_concat_length]
      rfl
    · rw [if_neg next, ← scopeAfter, ← leads.scopes]
      by_cases known : number < session.scopes.length
      · exact List.getElem?_append_left known
      · have beyond : session.scopes.length < number := by omega
        rw [List.getElem?_eq_none (Nat.le_of_lt beyond), List.getElem?_eq_none]
        rw [List.length_append]
        exact beyond
  case untouched =>
    intro number unknown
    rw [choice?_taken] at unknown
    rw [acts]
    apply leads.untouched
    split at unknown
    case isTrue => contradiction
    case isFalse => exact unknown
  case answers => exact leads.answers
  case due =>
    apply due_append_singleton leads.due
    apply Due.ofFactory
    rw [factoryAnswer?, asked]
    rfl

/-! ## Builds -/

/-- The word for a choice of family insists on what the choice insists on. -/
theorem readRestriction_name (choice : FamilyChoice) :
    FamilyChoice.readRestriction (.text choice.name) = .ok choice.restriction := by
  rw [FamilyChoice.readRestriction, FamilyChoice.restrictionOf?, FamilyChoice.ofValue?,
    FamilyChoice.ofName?_name]
  · rfl
  · nofun

/-- With the answers of the beginning, a build gives what it gives in a session of its own, and
leaves the scopes and the answers alone. -/
theorem batchOf_eq_alone (answers : factory.resolver.answers session.history =
      factory.resolver.answers .empty) {restriction : Value}
    {read : Except BuildError (Option Family)}
    (isRead : FamilyChoice.readRestriction restriction = read) (intent : Value) :
    (batchOf factory session intent read).1 = alone factory intent restriction ∧
      (batchOf factory session intent read).2.scopes = session.scopes ∧
      factory.resolver.answers (batchOf factory session intent read).2.history =
        factory.resolver.answers session.history := by
  obtain ⟨outcome, same⟩ := factory.buildDocument_determined intent read session.history
  obtain ⟨outcomeAlone, -⟩ := factory.buildDocument_determined intent read .empty
  rw [answers, ← outcomeAlone] at outcome
  refine ⟨?_, rfl, same⟩
  have atStart : alone factory intent restriction = (batchOf factory start intent read).1 := by
    rw [← isRead]
    rfl
  rw [atStart]
  simp only [batchOf, outcome]
  rfl

theorem getElem?_of_find {name : String} {number : Nat} {scope : Scope}
    (found : session.find name = .ok (number, scope)) : session.scopes[number]? = some scope := by
  rw [find] at found
  split at found
  · contradiction
  · split at found
    · rename_i isScope
      cases found
      exact isScope
    · contradiction

theorem setPhase_self {number : Nat} {scope : Scope}
    (found : session.scopes[number]? = some scope) :
    (session.setPhase number scope.phase).scopes = session.scopes := by
  apply List.ext_getElem?
  intro other
  rw [setPhase, List.getElem?_modify]
  by_cases same : number = other
  · subst same
    rw [found]
    simp
  · simp [same]

theorem phaseAfter_leave (phase : Phase) : phaseAfter phase .leave = .closed := by
  cases phase <;> rfl

/-- Only the first time to enter a scope, and leaving it, change its phase. -/
theorem phaseAfter_other {phase : Phase} {act : Act} (noLeave : act ≠ .leave)
    (noEnter : act = .enter → phase ≠ .new) : phaseAfter phase act = phase := by
  cases act with
  | leave => contradiction
  | enter =>
      cases phase with
      | new => exact absurd rfl (noEnter rfl)
      | active | closed => rfl
  | build | take | finish => cases phase <;> rfl

/-! ## Steps -/

/-- An act that changes no phase leads from a session to one with the same scopes. -/
theorem leadTo_sameScope (leads : LeadTo factory past session) {number : Nat} {scope : Scope}
    (found : session.scopes[number]? = some scope) {act : Act} {outcome : Outcome}
    (due : scopeAnswer? factory scope act = some outcome)
    (unchanged : phaseAfter scope.phase act = scope.phase) (scopes : later.scopes = session.scopes)
    (answers : factory.resolver.answers later.history =
      factory.resolver.answers session.history) :
    LeadTo factory (past ++ [⟨some number, act, outcome⟩]) later := by
  have before : scopeAfter number past = some scope := (leads.scopes number).symm.trans found
  apply leadTo_onScope leads found (.ofScope before due) _ answers
  rw [unchanged, setPhase_self found, scopes]

/-- A build on a scope gives what is due, and leaves the scopes and the answers alone. -/
theorem build_onScope (answers : factory.resolver.answers session.history =
      factory.resolver.answers .empty) {name : String} {number : Nat} {scope : Scope}
    (found : session.find name = .ok (number, scope)) (intent restriction : Value) :
    scopeAnswer? factory scope (.build intent restriction) =
        some (session.build factory (some name) intent restriction).1 ∧
      (session.build factory (some name) intent restriction).2.scopes = session.scopes ∧
      factory.resolver.answers (session.build factory (some name) intent restriction).2.history =
        factory.resolver.answers session.history := by
  rw [build, found]
  dsimp only
  cases restriction with
  | null =>
      by_cases closed : scope.phase = .closed
      · have refused : restrictionOf scope .null = .error (.scopeClosed scope.choice) :=
          if_pos closed
        rw [refused, scopeAnswer?, if_pos closed]
        exact ⟨rfl, rfl, rfl⟩
      · have allowed : restrictionOf scope .null = .ok scope.choice.restriction := if_neg closed
        rw [allowed, scopeAnswer?, if_neg closed]
        obtain ⟨outcome, scopes, same⟩ :=
          batchOf_eq_alone answers (readRestriction_name scope.choice) intent
        exact ⟨congrArg some outcome.symm, scopes, same⟩
  | bool | int | float | text | list | object => exact ⟨rfl, rfl, rfl⟩

theorem deedOn_of_find {name : String} {number : Nat} {scope : Scope}
    (found : session.find name = .ok (number, scope)) (act : Act) (outcome : Outcome) :
    session.deedOn (some name) act outcome = [⟨some number, act, outcome⟩] := by
  rw [deedOn, place, found]
  rfl

theorem deedOn_of_unknown {name : String} {error : SessionError}
    (unknown : session.find name = .error error) (act : Act) (outcome : Outcome) :
    session.deedOn (some name) act outcome = [] := by
  rw [deedOn, place, unknown]
  rfl

theorem leadTo_build (leads : LeadTo factory past session) (on : Option String)
    (intent restriction : Value) :
    LeadTo factory (past ++ session.deeds factory (.build on intent restriction))
      (session.run factory (.build on intent restriction)).2 := by
  rw [deeds, run]
  cases on with
  | none =>
      obtain ⟨outcome, scopes, answers⟩ := batchOf_eq_alone leads.answers rfl intent
      refine leadTo_onFactory leads ?_ rfl scopes answers
      exact congrArg some outcome.symm
  | some name =>
      cases found : session.find name with
      | error error =>
          rw [deedOn_of_unknown found, build, found, List.append_nil]
          exact leads
      | ok place =>
          obtain ⟨due, scopes, answers⟩ := build_onScope leads.answers found intent restriction
          rw [deedOn_of_find found]
          exact leadTo_sameScope leads (getElem?_of_find found) due
            (phaseAfter_other nofun nofun) scopes answers

theorem leadTo_take (leads : LeadTo factory past session) (on : Option String) (family : Value)
    (name : String) :
    LeadTo factory (past ++ session.deeds factory (.take on family name))
      (session.run factory (.take on family name)).2 := by
  rw [deeds, run]
  cases on with
  | none =>
      simp only [choose]
      cases asked : FamilyChoice.read family with
      | error error =>
          refine leadTo_onFactory leads ?_ rfl rfl rfl
          rw [factoryAnswer?, asked]
          rfl
      | ok choice => exact leadTo_taken leads asked name
  | some scopeName =>
      cases found : session.find scopeName with
      | error error =>
          rw [deedOn_of_unknown found, choose, found, List.append_nil]
          exact leads
      | ok place =>
          rw [deedOn_of_find found, choose, found]
          exact leadTo_sameScope leads (getElem?_of_find found) rfl (phaseAfter_other nofun nofun)
            rfl rfl

theorem leadTo_enter (leads : LeadTo factory past session) (name : String) :
    LeadTo factory (past ++ session.deeds factory (.enter name))
      (session.run factory (.enter name)).2 := by
  rw [deeds, run, enter]
  cases found : session.find name with
  | error error =>
      rw [deedOn_of_unknown found, List.append_nil]
      exact leads
  | ok place =>
      have isScope := getElem?_of_find found
      rw [deedOn_of_find found]
      by_cases isNew : place.2.phase = .new
      · have due : scopeAnswer? factory place.2 .enter = some .entered := by
          rw [scopeAnswer?, if_pos isNew]
        simp only [isNew, if_true]
        refine leadTo_onScope leads isScope (.ofScope ?_ due) ?_ rfl
        · rw [← leads.scopes, isScope]
        · rw [isNew]
          rfl
      · have due : scopeAnswer? factory place.2 .enter = some (.failed .alreadyScoped) := by
          rw [scopeAnswer?, if_neg isNew]
        simp only [isNew, if_false]
        exact leadTo_sameScope leads isScope due (phaseAfter_other nofun fun _ => isNew) rfl rfl

theorem leadTo_left (leads : LeadTo factory past session) {number : Nat} {scope : Scope}
    (found : session.scopes[number]? = some scope) :
    LeadTo factory (past ++ [⟨some number, .leave, .left⟩])
      (session.setPhase number .closed) := by
  have before : scopeAfter number past = some scope := (leads.scopes number).symm.trans found
  refine leadTo_onScope leads found (.ofScope before rfl) ?_ rfl
  rw [phaseAfter_leave]

theorem leadTo_leave (leads : LeadTo factory past session) (name : String) :
    LeadTo factory (past ++ session.deeds factory (.leave name))
      (session.run factory (.leave name)).2 := by
  rw [deeds, run, leave]
  cases found : session.find name with
  | error error =>
      rw [deedOn_of_unknown found, List.append_nil]
      exact leads
  | ok place =>
      rw [deedOn_of_find found]
      exact leadTo_left leads (getElem?_of_find found)

/-- A scope stays the same scope, in some phase, after more deeds. -/
theorem exists_scopeAfter_append {number : Nat} {scope : Scope}
    (before : scopeAfter number past = some scope) (more : List Deed) :
    ∃ phase, scopeAfter number (past ++ more) = some ⟨scope.choice, phase⟩ := by
  obtain ⟨choice, taken, same⟩ := Option.map_eq_some_iff.mp before
  have still : choice? number (past ++ more) = some choice := by
    obtain ⟨known, isChoice⟩ := List.getElem?_eq_some_iff.mp taken
    rw [choice?, List.filterMap_append, List.getElem?_append_left known]
    exact taken
  refine ⟨(actsOn number (past ++ more)).foldl phaseAfter .new, ?_⟩
  rw [scopeAfter, still, ← same]
  rfl

/-- A scope is taken and entered at once. -/
theorem leadTo_entered (leads : LeadTo factory past session) {family : Value}
    {choice : FamilyChoice} (asked : FamilyChoice.read family = .ok choice) (name : String) :
    LeadTo factory
      (past ++ [⟨none, .take family, .taken choice⟩]
        ++ [⟨some session.scopes.length, .enter, .entered⟩])
      (session.add name ⟨choice, .active⟩) := by
  have taken := leadTo_taken leads asked name
  have found : (session.add name ⟨choice, .new⟩).scopes[session.scopes.length]? =
      some ⟨choice, .new⟩ := List.getElem?_concat_length
  have due : scopeAnswer? factory ⟨choice, .new⟩ .enter = some .entered := rfl
  refine leadTo_onScope taken found (.ofScope ?_ due) ?_ rfl
  · rw [← taken.scopes, found]
  · rw [setPhase, List.modify_eq_set_getElem?, found]
    simp [add, phaseAfter]

/-- A scope is left at the end of a body, and the step is over. -/
theorem leadTo_finished (leads : LeadTo factory past session) {number : Nat} {scope : Scope}
    (found : session.scopes[number]? = some scope) (outcome : Outcome) :
    LeadTo factory
      (past ++ [⟨some number, .leave, .left⟩] ++ [⟨some number, .finish, outcome⟩])
      (session.setPhase number .closed) := by
  have left := leadTo_left leads found
  have isClosed : (session.setPhase number .closed).scopes[number]? =
      some ⟨scope.choice, .closed⟩ := by
    rw [setPhase, List.getElem?_modify, found]
    simp
  have known : scopeAfter number (past ++ [⟨some number, .leave, .left⟩]) =
      some ⟨scope.choice, .closed⟩ := (left.scopes number).symm.trans isClosed
  exact leadTo_onScope left isClosed (.finished known rfl) (setPhase_self isClosed).symm rfl

/-- Only the factory gives a scope. -/
theorem read_of_choose {on : Option String} {family : Value} {choice : FamilyChoice}
    (chosen : session.choose on family = .ok choice) :
    on = none ∧ FamilyChoice.read family = .ok choice := by
  cases on with
  | none =>
      rw [choose] at chosen
      cases asked : FamilyChoice.read family with
      | error error =>
          rw [asked] at chosen
          contradiction
      | ok other =>
          rw [asked] at chosen
          cases chosen
          exact ⟨rfl, rfl⟩
  | some name =>
      rw [choose] at chosen
      cases found : session.find name with
      | error error =>
          rw [found] at chosen
          contradiction
      | ok place =>
          rw [found] at chosen
          contradiction

/-- A body stops at a marked step that fails. -/
theorem runBody_cons (step : Step) (marked : Bool) (rest : List (Step × Bool)) :
    (session.runBody factory ((step, marked) :: rest)).2 =
      if marked && (session.run factory step).1.error?.isSome then (session.run factory step).2
      else ((session.run factory step).2.runBody factory rest).2 := by
  cases marked with
  | false => simp [runBody]
  | true => cases failed : (session.run factory step).1.error? <;> simp [runBody, failed]

mutual

/-- A step goes on with its own deeds. -/
theorem leadTo_run {past : List Deed} {session : Session} (leads : LeadTo factory past session) :
    (step : Step) →
      LeadTo factory (past ++ session.deeds factory step) (session.run factory step).2
  | .build on intent restriction => leadTo_build leads on intent restriction
  | .take on family name => leadTo_take leads on family name
  | .enter on => leadTo_enter leads on
  | .leave on => leadTo_leave leads on
  | .within on family name body => by
      cases chosen : session.choose on family with
      | error error =>
          have refused := leadTo_take leads on family name
          rw [deeds, run, chosen] at refused
          rw [deeds, run, chosen]
          simpa [Outcome.ofExcept] using refused
      | ok choice =>
          obtain ⟨rfl, asked⟩ := read_of_choose chosen
          have entered := leadTo_entered leads asked name
          have inside := leadTo_runBody entered body
          -- Whatever the body does, the scope keeps its number and is there to be left.
          have begun : scopeAfter session.scopes.length
              (past ++ [⟨none, .take family, .taken choice⟩]
                ++ [⟨some session.scopes.length, .enter, .entered⟩]) =
              some ⟨choice, .active⟩ := by
            rw [← entered.scopes]
            exact List.getElem?_concat_length
          obtain ⟨phase, still⟩ := exists_scopeAfter_append begun
            ((session.add name ⟨choice, .active⟩).bodyDeeds factory body)
          rw [← inside.scopes] at still
          have finished := leadTo_finished inside still
            (session.run factory (.within none family name body)).1
          rw [deeds, chosen]
          rw [run, chosen] at finished ⊢
          simpa [deedOn, place, Outcome.ofExcept] using finished

/-- A body goes on with its own deeds. -/
theorem leadTo_runBody {past : List Deed} {session : Session}
    (leads : LeadTo factory past session) :
    (body : List (Step × Bool)) →
      LeadTo factory (past ++ session.bodyDeeds factory body) (session.runBody factory body).2
  | [] => by
      rw [bodyDeeds, runBody, List.append_nil]
      exact leads
  | (step, marked) :: rest => by
      have first := leadTo_run leads step
      rw [bodyDeeds, runBody_cons]
      split
      case isTrue =>
        rw [List.append_nil]
        exact first
      case isFalse =>
        rw [← List.append_assoc]
        exact leadTo_runBody first rest

end

/-- Steps one after the other lead to where their deeds do. -/
theorem leadTo_runAll {past : List Deed} {session : Session} (leads : LeadTo factory past session)
    (steps : List Step) :
    LeadTo factory (past ++ session.allDeeds factory steps) (session.runAll factory steps).2 := by
  induction steps generalizing past session with
  | nil =>
      rw [allDeeds, runAll, List.append_nil]
      exact leads
  | cons step rest ih =>
      have whole := ih (leadTo_run leads step)
      rw [allDeeds, runAll, ← List.append_assoc]
      exact whole

end Session
end Firewall
