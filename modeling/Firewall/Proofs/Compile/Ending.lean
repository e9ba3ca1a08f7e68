import Firewall.Proofs.Build.References
import Firewall.Proofs.Compile.Isolation

/-!
# When a compilation ends early

A compilation that collects reports goes on after the failure of a host, unless the failure is not
one that is reported.  Where every name is answered with addresses or with a failure of the system,
such a failure has one cause: the first thing that cannot be resolved for the host is a port that is
neither a number nor a name (`Compiler.IsStuck`).  `compile_returns_iff` says that a compilation
comes to its end exactly when no selected host is stuck in this way, and that then every host that
fails is reported.
-/

namespace Firewall

open Resolver

/-! ## Answers -/

/-- The system answers every name with texts that are addresses, or fails. -/
def Resolver.AnswersAddresses (resolver : Resolver) : Prop :=
  ∀ system ∈ resolver.system, ∀ name texts, system name = .addresses texts →
    ∀ text ∈ texts, (Address.read? (String.ofList (Text.before '%' text.toList))).isSome

namespace Resolver

theorem exists_readAnswer {texts : List String}
    (valid : ∀ text ∈ texts,
      (Address.read? (String.ofList (Text.before '%' text.toList))).isSome) :
    ∃ addresses, readAnswer texts = .ok addresses := by
  have noError : error? (texts.mapM fun text =>
      Address.read (String.ofList (Text.before '%' text.toList))) = none := by
    rw [error?_mapM, List.findSome?_eq_none_iff]
    intro text member
    have isAddress := valid text member
    rw [Address.read?] at isAddress
    cases read : Address.read (String.ofList (Text.before '%' text.toList)) with
    | ok address => rfl
    | error malformed =>
        rw [read] at isAddress
        contradiction
  obtain ⟨addresses, read⟩ := error?_eq_none_iff.mp noError
  refine ⟨distinct addresses, ?_⟩
  rw [readAnswer, read]
  rfl

theorem not_endsWork_systemAnswer {system : String → DnsAnswer} {name : String}
    (valid : ∀ texts, system name = .addresses texts → ∀ text ∈ texts,
      (Address.read? (String.ofList (Text.before '%' text.toList))).isSome) :
    ¬ EndsWork (systemAnswer system name) := by
  rintro ⟨error, failed, unreported⟩
  rw [error?_eq_some_iff, systemAnswer] at failed
  cases said : system name with
  | failure failure =>
      rw [said] at failed
      cases failed
      contradiction
  | addresses texts =>
      obtain ⟨addresses, read⟩ := exists_readAnswer (valid texts said)
      simp only [said, read] at failed
      split at failed
      · cases failed
        contradiction
      · contradiction

/-- Where the system answers with addresses, no name ends the work. -/
theorem not_endsWork_answers {resolver : Resolver} (answering : resolver.AnswersAddresses)
    (name : String) : ¬ EndsWork (resolver.answers .empty name) := by
  unfold answers
  cases resolver.names.get? name with
  | some addresses => exact not_endsWork_pure addresses
  | none =>
      cases Address.read? name with
      | some address => exact not_endsWork_pure [address]
      | none =>
          cases asked : resolver.system with
          | none =>
              rintro ⟨error, ⟨⟩, unreported⟩
              contradiction
          | some system => exact not_endsWork_systemAnswer (answering system asked name)

end Resolver

namespace Compiler

/-! ## Hosts -/

/-- The intents of a host build, one after the other, up to one whose first reference that cannot be
resolved is an unreadable port. -/
def IsStuck (compiler : Compiler) (host : HostPolicy) : Prop :=
  ∃ front intent back, host.intents = front ++ intent :: back ∧
    (∀ other ∈ front, ∃ batch,
      ((compiler.factory.build other (FamilyChoice.asked? host.scope)).after .empty).1 =
        .ok batch) ∧
    intent.IsStuck compiler.factory.services (compiler.factory.resolver.answers .empty)

variable {compiler : Compiler}

/-- A host ends the work exactly when it is stuck. -/
theorem endsWork_alone_iff (answering : compiler.factory.resolver.AnswersAddresses)
    (host : HostPolicy) : EndsWork (compiler.alone host) ↔ compiler.IsStuck host := by
  have answered := not_endsWork_answers answering
  have built : ∀ intent, ((compiler.factory.build intent host.restriction).after .empty).1 =
      compiler.factory.outcome intent host.restriction (compiler.factory.resolver.answers .empty) :=
    fun intent => (compiler.factory.build_determined intent host.restriction .empty).1
  rw [alone, (compiler.factory.buildHost_determined host .empty).1, Factory.hostOutcome,
    endsWork_bind_iff fun batches => not_endsWork_pure _, EndsWork, error?_mapM]
  simp only [IsStuck, ← host.restriction_eq_asked?, built, ← error?_eq_none_iff,
    List.findSome?_eq_some_iff]
  constructor
  · rintro ⟨error, ⟨front, intent, back, split, failed, before⟩, unreported⟩
    have stuck := (Factory.endsWork_outcome_iff answered).mp ⟨error, failed, unreported⟩
    exact ⟨front, intent, back, split, before, stuck⟩
  · rintro ⟨front, intent, back, split, before, stuck⟩
    obtain ⟨error, failed, unreported⟩ := (Factory.endsWork_outcome_iff answered).mpr stuck
    exact ⟨error, ⟨front, intent, back, split, failed, before⟩, unreported⟩

/-! ## Steps and runs -/

theorem finishHost_ended (name : String) (host : HostPolicy) (rules : List Rule)
    (compilation : Compilation) :
    (compiler.finishHost name host rules compilation).ended = compilation.ended := by
  unfold finishHost
  cases rules with
  | nil => cases compiler.collects <;> rfl
  | cons first rest => rfl

theorem failHost_goesOn_iff (collects : compiler.collects = true) {compilation : Compilation}
    (goesOn : compilation.ended = none) (name : String) (error : BuildError) :
    (compiler.failHost name error compilation).ended = none ↔
      ¬ EndsWork (.error error : Except BuildError (List Rule)) := by
  unfold failHost
  cases reported : error.isReported with
  | true =>
      rw [if_pos ⟨collects, rfl⟩]
      refine ⟨?_, fun _ => goesOn⟩
      rintro - ⟨_, ⟨⟩, unreported⟩
      rw [reported] at unreported
      contradiction
  | false =>
      rw [if_neg (by simp)]
      exact ⟨nofun, fun reports => absurd ⟨error, rfl, reported⟩ reports⟩

/-- A host that the policy defines lets the compilation go on unless it ends the work. -/
theorem compileHost_goesOn_iff (collects : compiler.collects = true) {compilation : Compilation}
    (faithful : compiler.IsFaithful compilation.history) (goesOn : compilation.ended = none)
    (name : String) (host : HostPolicy) :
    (compiler.compileHost name host compilation).ended = none ↔
      ¬ EndsWork (compiler.alone host) := by
  have noted : compiler.IsFaithful
      (compilation.note (.compiling name host.intents.length)).history :=
    isFaithful_of_known rfl faithful
  have same := (buildHost_after noted host).1
  rw [compileHost]
  cases built : (compiler.factory.buildHost host).after
      (compilation.note (.compiling name host.intents.length)).history with
  | mk result history =>
      rw [built] at same
      rw [← same]
      cases result with
      | error error => exact failHost_goesOn_iff collects (by exact goesOn) name error
      | ok rules =>
          dsimp only
          rw [finishHost_ended]
          exact ⟨fun _ => not_endsWork_pure rules, fun _ => goesOn⟩

theorem step_goesOn_iff (collects : compiler.collects = true) {compilation : Compilation}
    (faithful : compiler.IsFaithful compilation.history) (goesOn : compilation.ended = none)
    (name : String) :
    (compiler.step compilation name).ended = none ↔
      ∀ host, compiler.policy.hosts.get? name = some host → ¬ EndsWork (compiler.alone host) := by
  rw [step, goesOn]
  cases defined : compiler.policy.hosts.get? name with
  | none =>
      simp only [collects, if_true]
      constructor
      · intro _ host isDefined
        contradiction
      · exact fun _ => goesOn
  | some host =>
      refine (compileHost_goesOn_iff collects faithful goesOn name host).trans ?_
      constructor
      · rintro reports _ ⟨⟩
        exact reports
      · exact fun reports => reports host rfl

/-- A run comes to its end unless some host ends the work. -/
theorem run_goesOn_iff (collects : compiler.collects = true) {names : List String}
    {compilation : Compilation} (faithful : compiler.IsFaithful compilation.history)
    (goesOn : compilation.ended = none) :
    (names.foldl compiler.step compilation).ended = none ↔
      ∀ name ∈ names, ∀ host, compiler.policy.hosts.get? name = some host →
        ¬ EndsWork (compiler.alone host) := by
  induction names generalizing compilation with
  | nil => simp [goesOn]
  | cons name rest ih =>
      have atName := step_goesOn_iff collects faithful goesOn name
      rw [List.forall_mem_cons, ← atName, List.foldl_cons]
      cases ended : (compiler.step compilation name).ended with
      | some error =>
          constructor
          · intro goesOnLater
            rw [ended_of_run goesOnLater] at ended
            contradiction
          · intro both
            exact absurd both.1 (Option.some_ne_none error)
      | none =>
          have adds := step_adds collects faithful goesOn ended
          rw [ih adds.faithful ended]
          exact ⟨fun later => ⟨rfl, later⟩, fun both => both.2⟩

/-- A compilation that collects reports comes to its end exactly when no selected host is stuck, and
then every selected host that fails is reported with its error. -/
theorem compile_returns_iff {selected : Option (List String)} {history : History}
    (collects : compiler.collects = true) (faithful : compiler.IsFaithful history)
    (answering : compiler.factory.resolver.AnswersAddresses) :
    ((compiler.compile selected history).ended = none ↔
      ∀ name ∈ selected.getD compiler.policy.hosts.keys, ∀ host,
        compiler.policy.hosts.get? name = some host → ¬ compiler.IsStuck host) ∧
    ((compiler.compile selected history).ended = none →
      ∀ name ∈ selected.getD compiler.policy.hosts.keys, ∀ host error,
        compiler.policy.hosts.get? name = some host →
        ((compiler.factory.buildHost host).after .empty).1 = .error error →
          error.isReported = true ∧
            ⟨name, hostFailed, some error, .error⟩ ∈
              (compiler.compile selected history).report.entries) := by
  have goesOn : (compiler.compile selected history).ended = none ↔
      ∀ name ∈ selected.getD compiler.policy.hosts.keys, ∀ host,
        compiler.policy.hosts.get? name = some host → ¬ EndsWork (compiler.alone host) :=
    run_goesOn_iff collects faithful rfl
  constructor
  · rw [goesOn]
    simp only [endsWork_alone_iff answering]
  · intro returned name isSelected host error defined failed
    have comprises := run_comprises collects (start_comprises faithful) returned
    have notice : compiler.notice? name = some ⟨name, hostFailed, some error, .error⟩ := by
      simp only [notice?, defined, alone, failed]
    constructor
    · by_contra unreported
      refine goesOn.mp returned name isSelected host defined ⟨error, ?_, by simpa using unreported⟩
      rw [alone, failed]
      rfl
    · rw [compile, comprises.entries]
      exact List.mem_filterMap.mpr ⟨name, isSelected, notice⟩

/-- An intent of a document, to let packets go to a port of a host that the system knows. -/
def documentTo (port : String) : Value :=
  .object [("action", .text "pass"), ("dir", .text "out"),
    ("to", .object [("host", .text "db"), ("port", .text port)])]

/-- A document with three hosts: one port is a superscript digit, one is an unknown service, and one
is a number. -/
def superscriptDocument : Value :=
  .object [("hosts", .object [
    ("odd", .object [("rules", .list [documentTo "²"])]),
    ("lost", .object [("rules", .list [documentTo "nowhere"])]),
    ("plain", .object [("rules", .list [documentTo "80"])])])]

/-- The small compiler at work on another policy. -/
def ofPolicy (policy : Policy) : Compiler := { smallCompiler with policy }

theorem ofPolicy_answersAddresses (policy : Policy) :
    (ofPolicy policy).factory.resolver.AnswersAddresses := by
  have readable : ∀ text ∈ ["192.0.2.1", "2001:db8::1"],
      (Address.read? (String.ofList (Text.before '%' text.toList))).isSome = true := by
    decide +kernel
  rintro system ⟨⟩ name texts answered text member
  dsimp only at answered
  split at answered
  · rw [← DnsAnswer.addresses.inj answered] at member
    exact readable text member
  · contradiction

/-- Without the superscript digit, the unknown service is reported and the other host compiled. -/
theorem compile_plain_returns :
    ∃ policy, Policy.read superscriptDocument = .ok policy ∧
      (ofPolicy policy).collects = true ∧ (ofPolicy policy).IsFaithful .empty ∧
      (ofPolicy policy).factory.resolver.AnswersAddresses ∧
      ((ofPolicy policy).compile (some ["lost", "plain"]) .empty).ended = none ∧
      ((ofPolicy policy).compile (some ["lost", "plain"]) .empty).rulesets.keys = ["plain"] ∧
      ((ofPolicy policy).compile (some ["lost", "plain"]) .empty).report.failedHosts = ["lost"] ∧
      ∀ name ∈ ["lost", "plain"], ∀ host, policy.hosts.get? name = some host →
        ¬ (ofPolicy policy).IsStuck host := by
  have evaluated : ((Policy.read superscriptDocument).toOption.map fun policy =>
      let compilation := (ofPolicy policy).compile (some ["lost", "plain"]) .empty
      (compilation.ended.isNone, compilation.rulesets.keys, compilation.report.failedHosts)) =
        some (true, ["plain"], ["lost"]) := by
    decide +kernel
  obtain ⟨policy, read, seen⟩ := exists_ok_of_map_toOption evaluated
  simp only [Prod.mk.injEq, Option.isNone_iff_eq_none] at seen
  obtain ⟨returned, keys, failed⟩ := seen
  have answering := ofPolicy_answersAddresses policy
  have goesOn := @compile_returns_iff (ofPolicy policy) (some ["lost", "plain"]) .empty rfl rfl
    answering
  exact ⟨policy, read, rfl, rfl, answering, returned, keys, failed, goesOn.1.mp returned⟩

/-- The superscript digit of one host ends the compilation: nothing is reported, and a host that
compiles alone has no ruleset. -/
theorem compile_superscript_ends :
    ∃ policy, Policy.read superscriptDocument = .ok policy ∧
      (ofPolicy policy).collects = true ∧ (ofPolicy policy).IsFaithful .empty ∧
      (ofPolicy policy).factory.resolver.AnswersAddresses ∧
      ((ofPolicy policy).compile none .empty).ended.isSome = true ∧
      ((ofPolicy policy).compile none .empty).report.failedHosts = [] ∧
      ((ofPolicy policy).compile none .empty).rulesets.keys = [] ∧
      ((ofPolicy policy).text? "plain").isSome = true := by
  have evaluated : ((Policy.read superscriptDocument).toOption.map fun policy =>
      let compilation := (ofPolicy policy).compile none .empty
      (compilation.ended.isSome, compilation.report.failedHosts, compilation.rulesets.keys,
        ((ofPolicy policy).text? "plain").isSome)) = some (true, [], [], true) := by
    decide +kernel
  obtain ⟨policy, read, seen⟩ := exists_ok_of_map_toOption evaluated
  simp only [Prod.mk.injEq] at seen
  obtain ⟨ended, unreported, keys, alone⟩ := seen
  have answering := ofPolicy_answersAddresses policy
  exact ⟨policy, read, rfl, rfl, answering, ended, unreported, keys, alone⟩

end Compiler

end Firewall
