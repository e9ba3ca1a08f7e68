import Firewall.Resolver

/-!
# Answers to names

What a name stands for is fixed by the table of names, by the text of the name, and by what the
system says of it.  The memory of earlier answers never changes an answer, it only saves asking
again: `resolve_determined` says that resolving a name gives its answer and leaves all other answers
as they were.

Work that looks at the world through names alone is `Determined`: its outcome is a function of the
answers, whatever has happened before.  Such work can be put together from smaller pieces of it.
-/

namespace Firewall

namespace Recorded

variable {ε α β : Type}

@[simp] theorem after_pure (value : α) (history : History) :
    (pure value : Recorded ε α).after history = (.ok value, history) := rfl

@[simp] theorem after_throw (error : ε) (history : History) :
    (throw error : Recorded ε α).after history = (.error error, history) := rfl

@[simp] theorem after_note (events : List Event) (history : History) :
    (note events : Recorded ε Unit).after history =
      (.ok (), { history with events := history.events ++ events }) := rfl

@[simp] theorem after_get (history : History) :
    (getThe History : Recorded ε History).after history = (.ok history, history) := rfl

@[simp] theorem after_modify (change : History → History) (history : History) :
    (modifyThe History change : Recorded ε Unit).after history = (.ok (), change history) := rfl

@[simp] theorem after_ofExcept (outcome : Except ε α) (history : History) :
    (ofExcept outcome).after history = (outcome, history) := by
  cases outcome <;> rfl

/-- The next piece of work starts where the first one has stopped, unless that one fails. -/
theorem after_bind (work : Recorded ε α) (next : α → Recorded ε β) (history : History) :
    (work >>= next).after history =
      match work.after history with
      | (.ok value, later) => (next value).after later
      | (.error error, later) => (.error error, later) := by
  change (ExceptT.bindCont next (work.after history).1).run (work.after history).2 = _
  cases reached : work.after history with
  | mk outcome later =>
      cases outcome <;> rfl

end Recorded

/-- What names stand for: addresses, or the error of a name that stands for none. -/
abbrev Answers := String → Except BuildError (List Address)

namespace Resolver

variable {α β : Type}

/-- What the system says of a name, without its memory. -/
def systemAnswer (system : String → DnsAnswer) : Answers := fun name =>
  match system name with
  | .failure failure => .error (.unresolved name failure)
  | .addresses texts =>
      match readAnswer texts with
      | .error malformed => .error (.badAddress malformed)
      | .ok addresses =>
          if addresses.isEmpty then .error (.unresolved name .noAddresses) else .ok addresses

/-- What a name stands for at some point of the history. -/
def answers (resolver : Resolver) (history : History) : Answers := fun name =>
  match resolver.names.get? name with
  | some addresses => .ok addresses
  | none =>
      match Address.read? name with
      | some address => .ok [address]
      | none =>
          match resolver.system with
          | none => .error (.unresolved name .unknownHost)
          | some system => ((history.known.get? name).map .ok).getD (systemAnswer system name)

/-- Answers look at the known names only, and not at the events. -/
theorem answers_congr (resolver : Resolver) {first second : History}
    (known : first.known = second.known) :
    resolver.answers first = resolver.answers second := by
  funext name
  rw [answers, answers, known]

/-- Remembering what the system says of a name that is not known changes no answer. -/
theorem answers_put (resolver : Resolver) (system : String → DnsAnswer)
    (asked : resolver.system = some system) (history : History) {name : String}
    {addresses : List Address} (unknown : history.known.get? name = none)
    (answered : systemAnswer system name = .ok addresses) (events : List Event) :
    resolver.answers ⟨history.known.put name addresses, events⟩ = resolver.answers history := by
  funext query
  simp only [answers, asked, Table.get?_put]
  by_cases same : name = query
  · subst same
    simp only [if_pos, unknown, Option.map_some, Option.getD_some, Option.map_none,
      Option.getD_none, answered]
  · simp only [if_neg same]

/-- Asking the system gives what it says, and leaves the known names alone. -/
theorem ask_after (system : String → DnsAnswer) (name : String) (history : History) :
    ((ask system name).after history).1 = systemAnswer system name ∧
      ((ask system name).after history).2.known = history.known := by
  simp only [ask, systemAnswer, Recorded.after_bind, Recorded.after_note]
  cases system name with
  | failure failure => exact ⟨rfl, rfl⟩
  | addresses texts =>
      dsimp only
      cases readAnswer texts with
      | error malformed => exact ⟨rfl, rfl⟩
      | ok addresses =>
          by_cases empty : addresses.isEmpty = true
          · simp only [empty, if_true]
            exact ⟨rfl, rfl⟩
          · simp only [empty]
            exact ⟨rfl, rfl⟩

/-! ## Determined work -/

/-- The outcome of some work is a function of the answers, and no answer is different after it. -/
def Determined {ε : Type} (resolver : Resolver) (work : Recorded ε α)
    (outcome : Answers → Except ε α) : Prop :=
  ∀ history, (work.after history).1 = outcome (resolver.answers history) ∧
    resolver.answers (work.after history).2 = resolver.answers history

variable {ε : Type} {resolver : Resolver}

theorem determined_pure (value : α) :
    resolver.Determined (pure value : Recorded ε α) fun _ => .ok value := by
  intro history
  exact ⟨rfl, rfl⟩

theorem determined_throw (error : ε) :
    resolver.Determined (throw error : Recorded ε α) fun _ => .error error := by
  intro history
  exact ⟨rfl, rfl⟩

theorem determined_ofExcept (value : Except ε α) :
    resolver.Determined (Recorded.ofExcept value) fun _ => value := by
  intro history
  rw [Recorded.after_ofExcept]
  exact ⟨rfl, rfl⟩

/-- Determined work that goes on with determined work is determined. -/
theorem determined_bind {work : Recorded ε α} {next : α → Recorded ε β}
    {first : Answers → Except ε α} {second : α → Answers → Except ε β}
    (firstDetermined : resolver.Determined work first)
    (nextDetermined : ∀ value, resolver.Determined (next value) (second value)) :
    resolver.Determined (work >>= next) fun answers =>
      first answers >>= fun value => second value answers := by
  intro history
  have atFirst := firstDetermined history
  rw [Recorded.after_bind]
  cases reached : work.after history with
  | mk outcome later =>
      rw [reached] at atFirst
      dsimp only at atFirst ⊢
      obtain ⟨sameOutcome, sameAnswers⟩ := atFirst
      cases outcome with
      | error error =>
          rw [← sameOutcome]
          exact ⟨rfl, sameAnswers⟩
      | ok value =>
          have atNext := nextDetermined value later
          rw [sameAnswers] at atNext
          rw [← sameOutcome]
          exact atNext

/-- Noting events before some work changes nothing about its outcome. -/
theorem determined_note_bind (events : List Event) {work : Recorded ε α}
    {outcome : Answers → Except ε α} (determined : resolver.Determined work outcome) :
    resolver.Determined (Recorded.note events >>= fun _ => work) outcome := by
  intro history
  rw [Recorded.after_bind, Recorded.after_note]
  exact determined { history with events := history.events ++ events }

theorem determined_mapM {work : α → Recorded ε β} {outcome : α → Answers → Except ε β}
    (workDetermined : ∀ element, resolver.Determined (work element) (outcome element))
    (list : List α) :
    resolver.Determined (list.mapM work) fun answers =>
      list.mapM fun element => outcome element answers := by
  induction list with
  | nil => exact determined_pure []
  | cons element rest ih =>
      simp only [List.mapM_cons]
      refine determined_bind (workDetermined element) fun head => ?_
      refine determined_bind ih fun tail => ?_
      exact determined_pure (head :: tail)

/-- Resolving a name gives its answer, and leaves all answers as they were. -/
theorem resolve_determined (resolver : Resolver) (name : String) :
    resolver.Determined (resolver.resolve name) fun answers => answers name := by
  intro history
  cases tabled : resolver.names.get? name with
  | some addresses =>
      simp only [resolve, answers, tabled]
      exact ⟨rfl, rfl⟩
  | none =>
      cases literal : Address.read? name with
      | some address =>
          simp only [resolve, answers, tabled, literal]
          exact ⟨rfl, rfl⟩
      | none =>
          cases asked : resolver.system with
          | none =>
              simp only [resolve, answers, tabled, literal, asked]
              exact ⟨rfl, rfl⟩
          | some system =>
              simp only [resolve, answers, tabled, literal, asked, askOnce, Recorded.after_bind,
                Recorded.after_get]
              cases known : history.known.get? name with
              | some addresses => exact ⟨rfl, rfl⟩
              | none =>
                  obtain ⟨said, kept⟩ := ask_after system name history
                  simp only [Recorded.after_bind, Option.map_none, Option.getD_none]
                  cases reached : (ask system name).after history with
                  | mk outcome later =>
                      rw [reached] at said kept
                      cases outcome with
                      | error error => exact ⟨said, resolver.answers_congr kept⟩
                      | ok addresses =>
                          refine ⟨said, ?_⟩
                          have same := resolver.answers_put system asked history known said.symm
                            later.events
                          rw [← same]
                          apply answers_congr
                          change later.known.put name addresses = history.known.put name addresses
                          rw [kept]

end Resolver

end Firewall
