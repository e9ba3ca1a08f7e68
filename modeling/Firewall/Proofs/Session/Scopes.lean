import Firewall.Proofs.Session.Deeds

/-!
# What scopes keep

At every point of a session, what is done on a scope gives what the family of the scope and the
earlier acts on it say: a scope that was left builds no more, no scope is entered twice, and none
gives another scope.  What is done elsewhere has no part in it.
-/

namespace Firewall

open Resolver

/-- The errors of scopes, as opposed to those of builds. -/
def Outcome.isScopeError : Outcome → Bool
  | .failed .alreadyScoped => true
  | .failed (.scopeClosed _) => true
  | _ => false

namespace Session

variable {factory : Factory} {past deeds : List Deed} {number : Nat}

/-- Leaving a scope is what closes it. -/
theorem foldl_phaseAfter_eq_closed_iff (acts : List Act) (phase : Phase) :
    acts.foldl phaseAfter phase = .closed ↔ phase = .closed ∨ .leave ∈ acts := by
  induction acts generalizing phase with
  | nil => simp
  | cons act rest ih =>
      rw [List.foldl_cons, ih, List.mem_cons]
      cases act <;> cases phase <;> simp [phaseAfter]

/-- A scope is new until it is entered or left. -/
theorem foldl_phaseAfter_eq_new_iff (acts : List Act) (phase : Phase) :
    acts.foldl phaseAfter phase = .new ↔ phase = .new ∧ .enter ∉ acts ∧ .leave ∉ acts := by
  induction acts generalizing phase with
  | nil => simp
  | cons act rest ih =>
      rw [List.foldl_cons, ih, List.mem_cons, List.mem_cons]
      cases act <;> cases phase <;> simp [phaseAfter]

theorem choice?_of_scopeAfter {scope : Scope} (known : scopeAfter number past = some scope) :
    choice? number past = some scope.choice := by
  obtain ⟨choice, taken, same⟩ := Option.map_eq_some_iff.mp known
  rw [taken, ← same]

theorem closed_iff_of_scopeAfter {scope : Scope} (known : scopeAfter number past = some scope) :
    scope.phase = .closed ↔ .leave ∈ actsOn number past := by
  obtain ⟨choice, -, same⟩ := Option.map_eq_some_iff.mp known
  rw [← same, foldl_phaseAfter_eq_closed_iff]
  simp

theorem new_iff_of_scopeAfter {scope : Scope} (known : scopeAfter number past = some scope) :
    scope.phase = .new ↔ .enter ∉ actsOn number past ∧ .leave ∉ actsOn number past := by
  obtain ⟨choice, -, same⟩ := Option.map_eq_some_iff.mp known
  rw [← same, foldl_phaseAfter_eq_new_iff]
  simp

theorem answer_of_due {act : Act} {outcome : Outcome}
    (due : Due factory past ⟨some number, act, outcome⟩) (going : act ≠ .finish) :
    ∃ scope, scopeAfter number past = some scope ∧
      scopeAnswer? factory scope act = some outcome := by
  cases due with
  | ofScope known answer => exact ⟨_, known, answer⟩
  | finished => contradiction

theorem isScopeError_alone (intent restriction : Value) :
    (alone factory intent restriction).isScopeError = false := by
  change (batchOf factory start intent _).1.isScopeError = false
  rw [batchOf]
  cases (factory.buildDocument intent (FamilyChoice.readRestriction restriction)).after
      start.history with
  | mk result history => cases result <;> rfl

theorem mem_actsOn_of_prefix {earlier : List Deed} (isPrefix : earlier <+: past) {act : Act}
    (done : act ∈ actsOn number earlier) : act ∈ actsOn number past := by
  obtain ⟨later, rfl⟩ := isPrefix
  rw [actsOn_append]
  exact List.mem_append_left _ done

/-- An act on a scope was done at some point. -/
theorem exists_prefix_of_mem_actsOn {act : Act} (done : act ∈ actsOn number past) :
    ∃ earlier outcome, earlier ++ [⟨some number, act, outcome⟩] <+: past := by
  obtain ⟨⟨on, other, outcome⟩, known, rfl⟩ := List.mem_map.mp done
  obtain ⟨isDeed, isOn⟩ := List.mem_filter.mp known
  cases of_decide_eq_true isOn
  obtain ⟨earlier, later, rfl⟩ := List.append_of_mem isDeed
  exact ⟨earlier, outcome, later, List.append_assoc earlier _ later⟩

/-- What the scopes of a session keep to, at every one of its deeds. -/
structure KeepsApart (factory : Factory) (deeds : List Deed) : Prop where
  /-- A scope builds, as the factory does under its family, until it is left. -/
  builds : ∀ before number intent outcome,
    before ++ [⟨some number, .build intent .null, outcome⟩] <+: deeds →
      (outcome.isScopeError ↔ .leave ∈ actsOn number before) ∧
      (.leave ∉ actsOn number before → ∃ choice, choice? number before = some choice ∧
        outcome = (start.run factory (.build none intent (.text choice.name))).1)
  /-- A scope builds under no restriction but its own. -/
  restricted : ∀ before number intent restriction outcome,
    before ++ [⟨some number, .build intent restriction, outcome⟩] <+: deeds →
      restriction ≠ .null → outcome.isScopeError
  /-- No scope gives another one. -/
  nested : ∀ before number family outcome,
    before ++ [⟨some number, .take family, outcome⟩] <+: deeds → outcome.isScopeError
  /-- A scope can be entered if it was neither entered nor left. -/
  enters : ∀ before number outcome,
    before ++ [⟨some number, .enter, outcome⟩] <+: deeds →
      (outcome = .entered ↔ .enter ∉ actsOn number before ∧ .leave ∉ actsOn number before) ∧
      (outcome ≠ .entered → outcome.isScopeError)
  /-- So it is entered once at most. -/
  once : ∀ before number first again,
    before ++ [⟨some number, .enter, again⟩] <+: deeds →
      ⟨some number, .enter, first⟩ ∈ before → again.isScopeError
  /-- The scope of a body that has ended is closed for good. -/
  closed : ∀ before number act outcome, before ++ [⟨some number, act, outcome⟩] <+: deeds →
    .finish ∈ actsOn number before →
      (act = .enter ∨ ∃ intent restriction, act = .build intent restriction) →
      outcome.isScopeError
  /-- The factory gives what it gives in a session of its own. -/
  onFactory : ∀ before,
    (∀ intent restriction outcome,
      before ++ [⟨none, .build intent restriction, outcome⟩] <+: deeds →
        outcome = (start.run factory (.build none intent restriction)).1) ∧
    (∀ family outcome, before ++ [⟨none, .take family, outcome⟩] <+: deeds →
      ∀ name, outcome = (start.run factory (.take none family name)).1)
  /-- Nothing but the acts on a scope has a part in what is done on it: whatever else is done, and
  in whatever session on the factory, the same acts on a scope of the same family give the same. -/
  independent : ∀ before others earlier number other act outcome alike,
    before ++ [⟨some number, act, outcome⟩] <+: deeds →
      earlier ++ [⟨some other, act, alike⟩] <+: start.allDeeds factory others → act ≠ .finish →
      choice? number before = choice? other earlier →
      actsOn number before = actsOn other earlier → outcome = alike

section Due

variable (due : ∀ before deed, before ++ [deed] <+: deeds → Due factory before deed)

include due

theorem builds_of_due (intent : Value) (outcome : Outcome)
    (done : past ++ [⟨some number, .build intent .null, outcome⟩] <+: deeds) :
    (outcome.isScopeError ↔ .leave ∈ actsOn number past) ∧
      (.leave ∉ actsOn number past → ∃ choice, choice? number past = some choice ∧
        outcome = (start.run factory (.build none intent (.text choice.name))).1) := by
  obtain ⟨scope, known, answer⟩ := answer_of_due (due _ _ done) nofun
  rw [scopeAnswer?] at answer
  rw [← closed_iff_of_scopeAfter known, ← Option.some.inj answer]
  by_cases isClosed : scope.phase = .closed
  · rw [if_pos isClosed]
    exact ⟨iff_of_true rfl isClosed, fun isOpen => absurd isClosed isOpen⟩
  · rw [if_neg isClosed, isScopeError_alone]
    exact ⟨iff_of_false Bool.false_ne_true isClosed,
      fun _ => ⟨scope.choice, choice?_of_scopeAfter known, rfl⟩⟩

theorem restricted_of_due {intent restriction : Value} {outcome : Outcome}
    (done : past ++ [⟨some number, .build intent restriction, outcome⟩] <+: deeds)
    (isRestricted : restriction ≠ .null) : outcome.isScopeError := by
  obtain ⟨scope, -, answer⟩ := answer_of_due (due _ _ done) nofun
  cases restriction with
  | null => contradiction
  | bool | int | float | text | list | object =>
      cases answer
      rfl

theorem nested_of_due {family : Value} {outcome : Outcome}
    (done : past ++ [⟨some number, .take family, outcome⟩] <+: deeds) : outcome.isScopeError := by
  obtain ⟨scope, -, answer⟩ := answer_of_due (due _ _ done) nofun
  cases answer
  rfl

theorem enters_of_due {outcome : Outcome}
    (done : past ++ [⟨some number, .enter, outcome⟩] <+: deeds) :
    (outcome = .entered ↔ .enter ∉ actsOn number past ∧ .leave ∉ actsOn number past) ∧
      (outcome ≠ .entered → outcome.isScopeError) := by
  obtain ⟨scope, known, answer⟩ := answer_of_due (due _ _ done) nofun
  rw [scopeAnswer?] at answer
  cases answer
  rw [← new_iff_of_scopeAfter known]
  by_cases isNew : scope.phase = .new <;> simp [isNew, Outcome.isScopeError]

theorem leave_mem_of_finish (within : past <+: deeds) (ended : .finish ∈ actsOn number past) :
    .leave ∈ actsOn number past := by
  obtain ⟨earlier, outcome, done⟩ := exists_prefix_of_mem_actsOn ended
  have left : .leave ∈ actsOn number earlier := by
    cases due _ _ (done.trans within) with
    | ofScope known answer => contradiction
    | finished known isClosed => exact (closed_iff_of_scopeAfter known).mp isClosed
  exact mem_actsOn_of_prefix ((List.prefix_append _ _).trans done) left

theorem closed_of_due {act : Act} {outcome : Outcome}
    (done : past ++ [⟨some number, act, outcome⟩] <+: deeds)
    (ended : .finish ∈ actsOn number past)
    (asks : act = .enter ∨ ∃ intent restriction, act = .build intent restriction) :
    outcome.isScopeError := by
  have left := leave_mem_of_finish due ((List.prefix_append _ _).trans done) ended
  cases asks with
  | inl isEnter =>
      subst isEnter
      have entered := enters_of_due due done
      exact entered.2 fun isEntered => (entered.1.mp isEntered).2 left
  | inr isBuild =>
      obtain ⟨intent, restriction, rfl⟩ := isBuild
      by_cases unrestricted : restriction = .null
      · subst unrestricted
        exact (builds_of_due due intent outcome done).1.mpr left
      · exact restricted_of_due due done unrestricted

theorem factoryAnswer_of_due {act : Act} {outcome : Outcome}
    (done : past ++ [⟨none, act, outcome⟩] <+: deeds) :
    factoryAnswer? factory act = some outcome := by
  cases due _ _ done with
  | ofFactory answer => exact answer

end Due

/-- The scopes of a session on a factory keep apart, whatever its steps are. -/
theorem scopes_keep_apart (factory : Factory) (steps : List Step) :
    KeepsApart factory (start.allDeeds factory steps) := by
  have dueOf : ∀ steps before deed, before ++ [deed] <+: start.allDeeds factory steps →
      Due factory before deed := fun steps => (leadTo_runAll leadTo_start steps).due
  have due := dueOf steps
  constructor
  case builds => exact fun before number => builds_of_due due
  case restricted => exact fun before number intent restriction outcome => restricted_of_due due
  case nested => exact fun before number family outcome => nested_of_due due
  case enters => exact fun before number outcome => enters_of_due due
  case once =>
    intro before number first again done earlier
    have entered := enters_of_due due done
    apply entered.2
    intro isEntered
    have wasEntered : Act.enter ∈ actsOn number before :=
      List.mem_map.mpr ⟨_, List.mem_filter.mpr ⟨earlier, decide_eq_true rfl⟩, rfl⟩
    exact (entered.1.mp isEntered).1 wasEntered
  case closed => exact fun before number act outcome => closed_of_due due
  case onFactory =>
    intro before
    constructor
    · intro intent restriction outcome done
      exact (Option.some.inj (factoryAnswer_of_due due done)).symm
    · intro family outcome done name
      rw [← Option.some.inj (factoryAnswer_of_due due done), run, choose]
      cases (FamilyChoice.read family).mapError SessionError.build <;> rfl
  case independent =>
    intro before others earlier number other act outcome alike done likewise going choices acts
    obtain ⟨scope, known, answer⟩ := answer_of_due (due _ _ done) going
    obtain ⟨same, knownToo, answerToo⟩ := answer_of_due (dueOf others _ _ likewise) going
    rw [scopeAfter, choices, acts, ← scopeAfter, knownToo] at known
    cases known
    exact Option.some.inj (answer.symm.trans answerToo)

end Session

end Firewall
