import Firewall.Build.Factory
import Firewall.Proofs.Resolver.Answers
import Mathlib.Data.List.Forall2

/-!
# The outcome of a build

A build looks at the world through names only.  `Factory.outcome` is what it comes to when the
answers are known: the references are replaced by what they stand for, in the order of their
resolution, and every combination gets its verdict.  `build_determined` says that a build comes to
this whatever has happened before it, and that it leaves all answers as they are.
-/

namespace Firewall

open Resolver

/-! ## Lists of outcomes -/

/-- A list of outcomes is a success exactly when each of them is one, element by element. -/
theorem mapM_eq_ok_iff {α β ε : Type} {outcome : α → Except ε β} {list : List α}
    {values : List β} :
    list.mapM outcome = .ok values ↔
      List.Forall₂ (fun element value => outcome element = .ok value) list values := by
  induction list generalizing values with
  | nil => cases values <;> simp [pure, Except.pure]
  | cons element rest ih =>
      rw [List.mapM_cons]
      cases first : outcome element with
      | error error => cases values <;> simp [bind, Except.bind, first]
      | ok value =>
          cases others : rest.mapM outcome with
          | error error => cases values <;> simp [bind, Except.bind, first, ← ih, others]
          | ok tail =>
              cases values <;>
                simp [bind, Except.bind, pure, Except.pure, first, ← ih, others]

/-- A piece of work succeeds with what comes after it exactly when both succeed. -/
theorem bind_eq_ok_iff {α β ε : Type} {outcome : Except ε α} {next : α → Except ε β}
    {result : β} :
    outcome >>= next = .ok result ↔ ∃ value, outcome = .ok value ∧ next value = .ok result := by
  cases outcome with
  | error error => simp [bind, Except.bind]
  | ok value => simp [bind, Except.bind]

/-- Where something is seen of an outcome, it is a success. -/
theorem exists_ok_of_map_toOption {α β ε : Type} {outcome : Except ε α} {view : α → β} {seen : β}
    (sees : outcome.toOption.map view = some seen) :
    ∃ value, outcome = .ok value ∧ view value = seen := by
  cases outcome with
  | error error => contradiction
  | ok value => exact ⟨value, rfl, Option.some.inj sees⟩

/-! ## References -/

namespace Intent

def hostOutcome (answers : Answers) : Option Host → Except BuildError (List (Option Address))
  | none => .ok [none]
  | some (.address address) => .ok [some address]
  | some (.named name) => do return (← answers name).map some

def Hosts.outcome (answers : Answers) (hosts : Hosts) :
    Except BuildError (List (Option Address)) := do
  return (← hosts.toList.mapM (hostOutcome answers)).flatten

def Ports.outcome (services : Services) (ports : Ports) :
    Except BuildError (List (Option PortCandidate)) :=
  ports.leaves.mapM (Factory.portOfLeaf services)

/-- The alternatives of an intent when the answers are known. -/
def alternatives (intent : Intent) (services : Services) (answers : Answers) :
    Except BuildError Alternatives := do
  let sourceHosts ← intent.source.hosts.outcome answers
  let sourcePorts ← intent.source.ports.outcome services
  let destinationHosts ← intent.destination.hosts.outcome answers
  let destinationPorts ← intent.destination.ports.outcome services
  let redirectHosts ← intent.redirect.hosts.outcome answers
  let redirectPorts ← intent.redirect.ports.outcome services
  let masquerades ← intent.masquerade.outcome answers
  let protocols := intent.protocols.toList
  return { protocols, sourceHosts, sourcePorts, destinationHosts, destinationPorts, masquerades,
           redirectHosts, redirectPorts }

end Intent

/-- The alternatives are known exactly when every field has its own. -/
theorem Intent.alternatives_eq_ok_iff {intent : Intent} {services : Services} {answers : Answers}
    {alternatives : Alternatives} :
    intent.alternatives services answers = .ok alternatives ↔
      alternatives.protocols = intent.protocols.toList ∧
      intent.source.hosts.outcome answers = .ok alternatives.sourceHosts ∧
      intent.source.ports.outcome services = .ok alternatives.sourcePorts ∧
      intent.destination.hosts.outcome answers = .ok alternatives.destinationHosts ∧
      intent.destination.ports.outcome services = .ok alternatives.destinationPorts ∧
      intent.redirect.hosts.outcome answers = .ok alternatives.redirectHosts ∧
      intent.redirect.ports.outcome services = .ok alternatives.redirectPorts ∧
      intent.masquerade.outcome answers = .ok alternatives.masquerades := by
  unfold Intent.alternatives
  simp only [bind_eq_ok_iff]
  constructor
  · rintro ⟨_, sourceHosts, _, sourcePorts, _, destinationHosts, _, destinationPorts, _,
      redirectHosts, _, redirectPorts, _, masquerades, ⟨⟩⟩
    exact ⟨rfl, sourceHosts, sourcePorts, destinationHosts, destinationPorts, redirectHosts,
      redirectPorts, masquerades⟩
  · rintro ⟨protocols, sourceHosts, sourcePorts, destinationHosts, destinationPorts, redirectHosts,
      redirectPorts, masquerades⟩
    refine ⟨_, sourceHosts, _, sourcePorts, _, destinationHosts, _, destinationPorts, _,
      redirectHosts, _, redirectPorts, _, masquerades, ?_⟩
    rw [← protocols]
    rfl

/-- The batch of some verdicts, unless there was a combination that is not valid. -/
def Verdict.batch : List Verdict × Option Schema.Invalid → Except BuildError Batch
  | (_, some invalid) => .error (.invalid invalid)
  | (verdicts, none) => .ok (.ofVerdicts verdicts)

namespace Factory

/-- What a build comes to when the answers are known. -/
def outcome (factory : Factory) (intent : Intent) (restriction : Option Family)
    (answers : Answers) : Except BuildError Batch :=
  if intent.isEmpty then .ok .empty
  else do
    let alternatives ← intent.alternatives factory.services answers
    Verdict.batch (Verdict.onAll intent restriction alternatives.combinations)

/-- What the build of a document comes to when the answers are known. -/
def documentOutcome (factory : Factory) (document : Value)
    (restriction : Except BuildError (Option Family)) (answers : Answers) :
    Except BuildError Batch :=
  readIntent document >>= fun
    | none => .ok .empty
    | some intent =>
        if intent.isEmpty then .ok .empty
        else restriction >>= fun restriction => factory.outcome intent restriction answers

variable (factory : Factory)

theorem resolveHost_determined (host : Option Intent.Host) :
    factory.resolver.Determined (factory.resolveHost host) fun answers =>
      Intent.hostOutcome answers host := by
  match host with
  | none => exact determined_pure [none]
  | some (.address address) => exact determined_pure [some address]
  | some (.named name) =>
      exact determined_bind (resolve_determined factory.resolver name) fun addresses =>
        determined_pure (addresses.map some)

theorem resolveHosts_determined (hosts : Intent.Hosts) :
    factory.resolver.Determined (factory.resolveHosts hosts) fun answers =>
      hosts.outcome answers := by
  refine determined_bind ?_ fun lists => determined_pure lists.flatten
  exact determined_mapM factory.resolveHost_determined hosts.toList

theorem resolvePorts_determined (ports : Intent.Ports) :
    factory.resolver.Determined (factory.resolvePorts ports) fun _ =>
      ports.outcome factory.services :=
  determined_ofExcept (ports.outcome factory.services)

/-- The references of an intent become what they stand for. -/
theorem resolve_alternatives_determined (intent : Intent) :
    factory.resolver.Determined (factory.resolve intent) fun answers =>
      intent.alternatives factory.services answers := by
  refine determined_bind (factory.resolveHosts_determined intent.source.hosts) fun _ => ?_
  refine determined_bind (factory.resolvePorts_determined intent.source.ports) fun _ => ?_
  refine determined_bind (factory.resolveHosts_determined intent.destination.hosts) fun _ => ?_
  refine determined_bind (factory.resolvePorts_determined intent.destination.ports) fun _ => ?_
  refine determined_bind (factory.resolveHosts_determined intent.redirect.hosts) fun _ => ?_
  refine determined_bind (factory.resolvePorts_determined intent.redirect.ports) fun _ => ?_
  refine determined_bind (factory.resolveHosts_determined intent.masquerade) fun _ => ?_
  exact determined_pure _

/-- A build comes to its outcome under the answers of the moment, and no answer is different
after it. -/
theorem build_determined (intent : Intent) (restriction : Option Family) :
    factory.resolver.Determined (factory.build intent restriction) fun answers =>
      factory.outcome intent restriction answers := by
  unfold build outcome
  by_cases empty : intent.isEmpty = true
  · simp only [if_pos empty]
    exact determined_pure Batch.empty
  · simp only [if_neg empty]
    refine determined_bind (factory.resolve_alternatives_determined intent) fun alternatives => ?_
    cases reached : Verdict.onAll intent restriction alternatives.combinations with
    | mk verdicts invalid =>
        apply determined_note_bind
        cases invalid with
        | some invalid => exact determined_throw (BuildError.invalid invalid)
        | none => exact determined_pure (Batch.ofVerdicts verdicts)

/-- The build of a document comes to its outcome under the answers of the moment, and no answer is
different after it. -/
theorem buildDocument_determined (document : Value)
    (restriction : Except BuildError (Option Family)) :
    factory.resolver.Determined (factory.buildDocument document restriction) fun answers =>
      factory.documentOutcome document restriction answers := by
  apply determined_bind (determined_ofExcept (readIntent document))
  intro found
  cases found with
  | none => exact determined_pure Batch.empty
  | some intent =>
      cases empty : intent.isEmpty with
      | true =>
          simp only [empty, if_true]
          exact determined_pure Batch.empty
      | false =>
          simp only [empty, Bool.false_eq_true, if_false]
          apply determined_bind (determined_ofExcept restriction)
          intro restriction
          exact factory.build_determined intent restriction

end Factory

end Firewall
