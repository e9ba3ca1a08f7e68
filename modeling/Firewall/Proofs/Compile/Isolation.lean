import Firewall.Compile
import Firewall.Proofs.Build.Outcome
import Firewall.Proofs.Family

/-!
# Hosts are compiled on their own

The hosts of a compilation share one factory, which remembers the answers of the system.  Since
memory changes no answer, every host comes to what it would come to alone, and one host after the
other adds its ruleset, its entry in the report, or both (`Compiler.step_adds`,
`Compiler.run_comprises`).  So rulesets and report are functions of the selected names.
-/

namespace Firewall

open Resolver

/-! ## The rules of a host -/

theorem HostPolicy.restriction_eq_asked? (host : HostPolicy) :
    host.restriction = FamilyChoice.asked? host.scope :=
  FamilyChoice.bind_restriction host.scope

namespace Factory

/-- The rules of a host when the answers are known. -/
def hostOutcome (factory : Factory) (host : HostPolicy) (answers : Answers) :
    Except BuildError (List Rule) := do
  let batches ← host.intents.mapM fun intent => factory.outcome intent host.restriction answers
  return batches.flatMap Batch.kept

/-- The rules of a host are a function of the answers. -/
theorem buildHost_determined (factory : Factory) (host : HostPolicy) :
    factory.resolver.Determined (factory.buildHost host) (factory.hostOutcome host) := by
  have intents : host.intents = (host.intents.zipIdx 1).map Prod.fst := by simp
  unfold hostOutcome
  rw [intents]
  simp only [List.mapM_map]
  refine determined_bind (determined_mapM ?_ _) fun batches => determined_pure _
  rintro ⟨intent, number⟩
  have unchanged : (fun answers => factory.outcome intent host.restriction answers >>= .ok) =
      factory.outcome intent host.restriction :=
    funext fun answers => bind_pure _
  change factory.resolver.Determined _ (factory.outcome intent host.restriction)
  rw [← unchanged]
  refine determined_bind (factory.build_determined intent host.restriction) fun batch => ?_
  by_cases thinned : 0 < batch.dropped ∨ 0 < batch.filtered
  · rw [if_pos thinned]
    exact determined_note_bind _ (determined_pure batch)
  · rw [if_neg thinned]
    exact determined_pure batch

/-- A host has rules exactly when each of its intents has a batch. -/
theorem hostOutcome_eq_ok_iff {factory : Factory} {host : HostPolicy} {answers : Answers}
    {rules : List Rule} :
    factory.hostOutcome host answers = .ok rules ↔
      ∃ batches, List.Forall₂
          (fun intent batch => factory.outcome intent host.restriction answers = .ok batch)
          host.intents batches ∧
        rules = batches.flatMap Batch.kept := by
  unfold hostOutcome
  rw [bind_eq_ok_iff]
  refine exists_congr fun batches => ?_
  rw [mapM_eq_ok_iff]
  refine and_congr_right fun _ => ?_
  constructor
  · exact fun same => (Except.ok.inj same).symm
  · exact fun same => congrArg Except.ok same.symm

end Factory

/-! ## A host alone -/

namespace Compiler

/-- The rules of a host that is compiled alone, with nothing known. -/
def alone (compiler : Compiler) (host : HostPolicy) : Except BuildError (List Rule) :=
  ((compiler.factory.buildHost host).after .empty).1

/-- The ruleset of a host that is compiled alone. -/
def text? (compiler : Compiler) (name : String) : Option String :=
  match compiler.policy.hosts.get? name with
  | none => none
  | some host =>
      match compiler.alone host with
      | .error _ => none
      | .ok rules => some (ruleset rules host.default compiler.time)

/-- What is reported of a name that is compiled alone. -/
def notice? (compiler : Compiler) (name : String) : Option (Entry BuildError) :=
  match compiler.policy.hosts.get? name with
  | none => some ⟨name, undefinedHost, none, .error⟩
  | some host =>
      match compiler.alone host with
      | .error error => some ⟨name, hostFailed, some error, .error⟩
      | .ok [] => some ⟨name, noRules, none, .warning⟩
      | .ok _ => none

/-- The answers at some point of the history are those of the system, with nothing known. -/
def IsFaithful (compiler : Compiler) (history : History) : Prop :=
  compiler.factory.resolver.answers history = compiler.factory.resolver.answers .empty

variable {compiler : Compiler}

/-- Whatever is known, a host comes to what it comes to alone. -/
theorem buildHost_after {history : History} (faithful : compiler.IsFaithful history)
    (host : HostPolicy) :
    ((compiler.factory.buildHost host).after history).1 = compiler.alone host ∧
      compiler.IsFaithful ((compiler.factory.buildHost host).after history).2 := by
  obtain ⟨outcome, answers⟩ := compiler.factory.buildHost_determined host history
  obtain ⟨outcomeAlone, _⟩ := compiler.factory.buildHost_determined host .empty
  constructor
  · rw [outcome, faithful, alone, outcomeAlone]
  · exact answers.trans faithful

theorem isFaithful_of_known {first second : History} (known : first.known = second.known)
    (faithful : compiler.IsFaithful first) : compiler.IsFaithful second :=
  (answers_congr compiler.factory.resolver known.symm).trans faithful

/-! ## Steps -/

/-- What a name adds to a compilation is what it comes to alone. -/
structure Adds (compiler : Compiler) (name : String) (before after : Compilation) : Prop where
  rulesets : after.rulesets =
    match compiler.text? name with
    | some text => before.rulesets.put name text
    | none => before.rulesets
  entries : after.report.entries = before.report.entries ++ (compiler.notice? name).toList
  faithful : compiler.IsFaithful after.history

theorem step_of_ended {compilation : Compilation} {error : CompileError}
    (ended : compilation.ended = some error) (name : String) :
    compiler.step compilation name = compilation := by
  rw [step, ended]
  rfl

theorem failHost_adds {compilation : Compilation} {name : String} {host : HostPolicy}
    {error : BuildError} (faithful : compiler.IsFaithful compilation.history)
    (defined : compiler.policy.hosts.get? name = some host)
    (failed : compiler.alone host = .error error)
    (goesOn : (compiler.failHost name error compilation).ended = none) :
    compiler.Adds name compilation (compiler.failHost name error compilation) := by
  rw [failHost] at goesOn ⊢
  split at goesOn
  case isTrue reported =>
    rw [if_pos reported]
    constructor
    case rulesets => simp only [text?, defined, failed]; rfl
    case entries => simp only [notice?, defined, failed]; rfl
    case faithful => exact isFaithful_of_known rfl faithful
  case isFalse => contradiction

theorem finishHost_adds {compilation : Compilation} {name : String} {host : HostPolicy}
    {rules : List Rule} (collects : compiler.collects = true)
    (faithful : compiler.IsFaithful compilation.history)
    (defined : compiler.policy.hosts.get? name = some host)
    (built : compiler.alone host = .ok rules) :
    compiler.Adds name compilation (compiler.finishHost name host rules compilation) := by
  have text : compiler.text? name = some (ruleset rules host.default compiler.time) := by
    simp only [text?, defined, built]
  cases rules with
  | nil =>
      have entry : compiler.notice? name = some ⟨name, noRules, none, .warning⟩ := by
        simp only [notice?, defined, built]
      constructor
      case rulesets => simp [finishHost, collects, text, Compilation.note, Compilation.reportEntry]
      case entries => simp [finishHost, collects, entry, Compilation.note, Compilation.reportEntry]
      case faithful =>
        refine isFaithful_of_known ?_ faithful
        simp [finishHost, collects, Compilation.note, Compilation.reportEntry]
  | cons first rest =>
      have entry : compiler.notice? name = none := by
        simp only [notice?, defined, built]
      constructor
      case rulesets => simp [finishHost, text, Compilation.note]
      case entries => simp [finishHost, entry, Compilation.note]
      case faithful =>
        refine isFaithful_of_known ?_ faithful
        simp [finishHost, Compilation.note]

theorem compileHost_adds {compilation : Compilation} {name : String} {host : HostPolicy}
    (collects : compiler.collects = true) (faithful : compiler.IsFaithful compilation.history)
    (defined : compiler.policy.hosts.get? name = some host)
    (goesOn : (compiler.compileHost name host compilation).ended = none) :
    compiler.Adds name compilation (compiler.compileHost name host compilation) := by
  have noted : compiler.IsFaithful
      (compilation.note (.compiling name host.intents.length)).history :=
    isFaithful_of_known rfl faithful
  obtain ⟨same, later⟩ := buildHost_after noted host
  rw [compileHost] at goesOn ⊢
  cases built : (compiler.factory.buildHost host).after
      (compilation.note (.compiling name host.intents.length)).history with
  | mk result history =>
      rw [built] at same later
      simp only [built] at goesOn ⊢
      -- Nothing but the history is different when the rules are there.
      cases result with
      | error error =>
          have adds := failHost_adds (by exact later) defined same.symm goesOn
          exact ⟨adds.rulesets, adds.entries, adds.faithful⟩
      | ok rules =>
          have adds : compiler.Adds name
              { compilation.note (.compiling name host.intents.length) with history }
              (compiler.finishHost name host rules
                { compilation.note (.compiling name host.intents.length) with history }) :=
            finishHost_adds collects later defined same.symm
          exact ⟨adds.rulesets, adds.entries, adds.faithful⟩

/-- A name adds what it comes to alone, unless it ends the compilation. -/
theorem step_adds {compilation : Compilation} {name : String} (collects : compiler.collects = true)
    (faithful : compiler.IsFaithful compilation.history) (goesOn : compilation.ended = none)
    (goesOnAfter : (compiler.step compilation name).ended = none) :
    compiler.Adds name compilation (compiler.step compilation name) := by
  cases defined : compiler.policy.hosts.get? name with
  | some host =>
      have first : compiler.step compilation name = compiler.compileHost name host compilation := by
        rw [step, goesOn]
        simp [defined]
      rw [first] at goesOnAfter ⊢
      exact compileHost_adds collects faithful defined goesOnAfter
  | none =>
      have first : compiler.step compilation name =
          compilation.reportEntry ⟨name, undefinedHost, none, .error⟩ := by
        rw [step, goesOn]
        simp [defined, collects]
      rw [first]
      constructor
      case rulesets => simp only [text?, defined]; rfl
      case entries => simp only [notice?, defined]; rfl
      case faithful => exact isFaithful_of_known rfl faithful

/-! ## Runs -/

/-- What a compilation has done is what each of some names comes to alone. -/
structure Comprises (compiler : Compiler) (names : List String) (compilation : Compilation) :
    Prop where
  keys : compilation.rulesets.keys =
    (distinct names).filter fun name => (compiler.text? name).isSome
  texts : ∀ name, compilation.rulesets.get? name =
    if name ∈ names then compiler.text? name else none
  entries : compilation.report.entries = names.filterMap compiler.notice?
  faithful : compiler.IsFaithful compilation.history

theorem start_comprises {history : History} (faithful : compiler.IsFaithful history) :
    compiler.Comprises [] (.start history) := by
  constructor
  case keys => rfl
  case texts => exact fun name => rfl
  case entries => rfl
  case faithful => exact faithful

theorem comprises_of_adds {names : List String} {name : String} {before after : Compilation}
    (comprises : compiler.Comprises names before) (adds : compiler.Adds name before after) :
    compiler.Comprises (names ++ [name]) after := by
  have rulesets := adds.rulesets
  constructor
  case keys =>
    rw [distinct_append_singleton, rulesets]
    cases text : compiler.text? name with
    | none =>
        dsimp only
        rw [comprises.keys]
        split
        · rfl
        · simp [text]
    | some ruleset =>
        have known : name ∈ before.rulesets.keys ↔ name ∈ names := by
          rw [comprises.keys, List.mem_filter, mem_distinct]
          simp [text]
        dsimp only
        rw [Table.keys_put, comprises.keys]
        rw [comprises.keys] at known
        by_cases member : name ∈ names
        · rw [if_pos (known.mpr member), if_pos member]
        · rw [if_neg (mt known.mp member), if_neg member]
          simp [text]
  case texts =>
    intro query
    rw [rulesets]
    cases text : compiler.text? name with
    | none =>
        dsimp only
        rw [comprises.texts]
        by_cases same : query = name
        · simp [same, text]
        · simp [same]
    | some ruleset =>
        dsimp only
        rw [Table.get?_put, comprises.texts]
        by_cases same : name = query
        · simp [← same, text]
        · simp [same, Ne.symm same]
  case entries =>
    rw [adds.entries, comprises.entries, List.filterMap_append]
    cases entry : compiler.notice? name <;> simp [entry]
  case faithful => exact adds.faithful

/-- A compilation that has not ended later has not ended before. -/
theorem ended_of_run {compilation : Compilation} {names : List String}
    (goesOn : (names.foldl compiler.step compilation).ended = none) :
    compilation.ended = none := by
  induction names generalizing compilation with
  | nil => exact goesOn
  | cons name rest ih =>
      have afterStep := ih goesOn
      cases ended : compilation.ended with
      | none => rfl
      | some error =>
          rw [step_of_ended ended, ended] at afterStep
          contradiction

/-- After a run, a compilation has done what each name comes to alone. -/
theorem run_comprises (collects : compiler.collects = true) {before names : List String}
    {compilation : Compilation} (comprises : compiler.Comprises before compilation)
    (goesOn : (names.foldl compiler.step compilation).ended = none) :
    compiler.Comprises (before ++ names) (names.foldl compiler.step compilation) := by
  induction names generalizing before compilation with
  | nil => simpa using comprises
  | cons name rest ih =>
      have goesOnBefore := @ended_of_run compiler compilation (name :: rest) goesOn
      have adds := step_adds collects comprises.faithful goesOnBefore (ended_of_run goesOn)
      have whole := ih (comprises_of_adds comprises adds) goesOn
      rwa [List.append_assoc] at whole

/-! ## Rulesets and reports -/

theorem text?_eq_some_iff {name text : String} :
    compiler.text? name = some text ↔
      ∃ host rules, compiler.policy.hosts.get? name = some host ∧
        compiler.alone host = .ok rules ∧ text = ruleset rules host.default compiler.time := by
  unfold text?
  cases compiler.policy.hosts.get? name with
  | none => simp
  | some host =>
      cases alone : compiler.alone host with
      | error error => simp [alone]
      | ok rules => simp [alone, eq_comm]

theorem host_of_notice {name : String} {entry : Entry BuildError}
    (reported : compiler.notice? name = some entry) : entry.host = name := by
  unfold notice? at reported
  split at reported
  · rw [← Option.some.inj reported]
  · split at reported
    · rw [← Option.some.inj reported]
    · rw [← Option.some.inj reported]
    · contradiction

/-- An error is reported of a name exactly when it has no ruleset. -/
theorem notice?_error_iff (name : String) :
    (∃ entry, compiler.notice? name = some entry ∧ entry.severity = .error) ↔
      compiler.text? name = none := by
  unfold notice? text?
  cases compiler.policy.hosts.get? name with
  | none => simp
  | some host =>
      cases alone : compiler.alone host with
      | error error => simp [alone]
      | ok rules => cases rules <;> simp [alone]

/-- The rulesets and the report are those of the selected names, each compiled alone. -/
structure Isolates (compiler : Compiler) (selected : List String) (compilation : Compilation) :
    Prop where
  /-- A name has a ruleset exactly when it is selected and defined, and compiles alone. -/
  compiled : ∀ name, name ∈ compilation.rulesets.keys ↔
    name ∈ selected ∧ ∃ host rules, compiler.policy.hosts.get? name = some host ∧
      ((compiler.factory.buildHost host).after .empty).1 = .ok rules
  /-- A ruleset holds the rules of the batches that the intents have under the scope of the host,
  with nothing known. -/
  texts : ∀ name ∈ compilation.rulesets.keys,
    ∃ host batches, compiler.policy.hosts.get? name = some host ∧
      List.Forall₂ (fun intent batch =>
          ((compiler.factory.build intent (FamilyChoice.asked? host.scope)).after .empty).1 =
            .ok batch)
        host.intents batches ∧
      compilation.rulesets.get? name =
        some (ruleset (batches.flatMap Batch.kept) host.default compiler.time)
  /-- The names are in the order in which they were first selected. -/
  order : compilation.rulesets.keys =
    (distinct selected).filter fun name => name ∈ compilation.rulesets.keys
  /-- Every occurrence of a name is reported with what it comes to alone. -/
  entries : compilation.report.entries = selected.filterMap compiler.notice?
  /-- A name that failed has no ruleset. -/
  disjoint : ∀ name ∈ compilation.rulesets.keys, name ∉ compilation.report.failedHosts
  /-- A name was selected exactly when it has a ruleset or has failed. -/
  complete : ∀ name, name ∈ selected ↔
    name ∈ compilation.rulesets.keys ∨ name ∈ compilation.report.failedHosts

theorem mem_failedHosts_iff {names : List String} {compilation : Compilation}
    (comprises : compiler.Comprises names compilation) (name : String) :
    name ∈ compilation.report.failedHosts ↔ name ∈ names ∧ compiler.text? name = none := by
  rw [Report.failedHosts, mem_distinct, List.mem_map, comprises.entries]
  constructor
  · rintro ⟨entry, failed, rfl⟩
    obtain ⟨isEntry, isError⟩ := List.mem_filter.mp failed
    obtain ⟨name, member, reported⟩ := List.mem_filterMap.mp isEntry
    rw [host_of_notice reported]
    exact ⟨member, (notice?_error_iff name).mp ⟨entry, reported, by simpa using isError⟩⟩
  · rintro ⟨member, noText⟩
    obtain ⟨entry, reported, isError⟩ := (notice?_error_iff name).mpr noText
    refine ⟨entry, List.mem_filter.mpr ⟨?_, by simp [isError]⟩, host_of_notice reported⟩
    exact List.mem_filterMap.mpr ⟨name, member, reported⟩

theorem isolates_of_comprises {names : List String} {compilation : Compilation}
    (comprises : compiler.Comprises names compilation) : compiler.Isolates names compilation := by
  have keys : ∀ name, name ∈ compilation.rulesets.keys ↔
      name ∈ names ∧ (compiler.text? name).isSome := by
    intro name
    rw [comprises.keys, List.mem_filter, mem_distinct]
  constructor
  case compiled =>
    intro name
    rw [keys, Option.isSome_iff_exists]
    refine and_congr_right fun _ => ?_
    simp only [text?_eq_some_iff]
    constructor
    · rintro ⟨text, host, rules, defined, built, _⟩
      exact ⟨host, rules, defined, built⟩
    · rintro ⟨host, rules, defined, built⟩
      exact ⟨_, host, rules, defined, built, rfl⟩
  case texts =>
    intro name isKey
    obtain ⟨selected, isText⟩ := (keys name).mp isKey
    obtain ⟨text, alone⟩ := Option.isSome_iff_exists.mp isText
    obtain ⟨host, rules, defined, built, rfl⟩ := text?_eq_some_iff.mp alone
    have outcome := (compiler.factory.buildHost_determined host .empty).1
    rw [Compiler.alone, outcome] at built
    obtain ⟨batches, each, rfl⟩ := Factory.hostOutcome_eq_ok_iff.mp built
    refine ⟨host, batches, defined, each.imp ?_, ?_⟩
    · intro intent batch built
      rw [← host.restriction_eq_asked?,
        (compiler.factory.build_determined intent host.restriction .empty).1]
      exact built
    · rw [comprises.texts, if_pos selected, alone]
  case order =>
    rw [comprises.keys]
    apply List.filter_congr
    intro name member
    simp only [List.mem_filter, member, true_and, Bool.decide_eq_true]
  case entries => exact comprises.entries
  case disjoint =>
    intro name isKey failed
    have noText := ((mem_failedHosts_iff comprises name).mp failed).2
    have text := ((keys name).mp isKey).2
    rw [noText] at text
    contradiction
  case complete =>
    intro name
    rw [keys, mem_failedHosts_iff comprises]
    cases compiler.text? name <;> simp

/-- Hosts are compiled on their own.  The names may be in any order and repeated, and others beside
them may fail. -/
theorem compile_isolates {selected : Option (List String)} {history : History}
    (collects : compiler.collects = true) (faithful : compiler.IsFaithful history)
    (returned : (compiler.compile selected history).ended = none) :
    compiler.Isolates (selected.getD compiler.policy.hosts.keys)
      (compiler.compile selected history) :=
  isolates_of_comprises (run_comprises collects (start_comprises faithful) returned)

/-- An intent to let packets go to a name. -/
def intentTo (name : String) : Intent where
  action := some .pass
  returns := false
  direction := some .outgoing
  family := none
  protocols := .absent
  interface := none
  inbound := none
  outbound := none
  source := .unspecified
  destination := ⟨.one (.named name), .absent⟩
  masquerade := .absent
  redirect := .unspecified
  given := [.action, .direction, .destination]

/-- Three hosts need a name that has an address of each family; two of them are restricted to one
family.  One host needs a name that the system does not know, and one needs nothing. -/
def smallCompiler : Compiler where
  policy :=
    { names := Table.empty
      hosts := Table.ofList [("four", ⟨.block, some (.only .inet), [intentTo "db"]⟩),
        ("six", ⟨.block, some (.only .inet6), [intentTo "db"]⟩),
        ("both", ⟨.block, some .any, [intentTo "db"]⟩),
        ("lost", ⟨.block, none, [intentTo "nowhere"]⟩), ("idle", ⟨.pass, none, []⟩)] }
  factory :=
    { resolver :=
        { names := Table.empty
          system := some fun name =>
            if name = "db" then .addresses ["192.0.2.1", "2001:db8::1"]
            else .failure .unknownHost }
      services := Table.empty }
  time := ⟨2000, 1, 1, 0, 0, 0⟩
  collects := true

/-- The selection of the small compilation, with a name twice and one that is not defined. -/
def smallSelection : List String := ["lost", "idle", "ghost", "both", "six", "lost", "four"]

/-- A restricted host has the line of its family only, and the rule of the other one is filtered. -/
theorem compile_small_isolates :
    (smallCompiler.collects = true ∧ smallCompiler.IsFaithful .empty ∧
      (smallCompiler.compile (some smallSelection) .empty).ended = none) ∧
    (smallCompiler.compile (some smallSelection) .empty).rulesets.keys =
      ["idle", "both", "six", "four"] ∧
    (smallCompiler.compile (some smallSelection) .empty).rulesets.get? "four" =
      some ("# Generated by melt v1.0.0 on Sat Jan  1 00:00:00 2000\n*filter\n" ++
        ":INPUT DROP [0:0]\n:FORWARD DROP [0:0]\n:OUTPUT DROP [0:0]\n" ++
        "-A OUTPUT -m state --state ESTABLISHED,RELATED -j ACCEPT\n" ++
        "-A OUTPUT -d 192.0.2.1 -j ACCEPT\nCOMMIT\n") ∧
    (smallCompiler.policy.hosts.entries.map fun entry =>
        (smallCompiler.alone entry.2).toOption.map fun rules => rules.map Rule.line) =
      [some ["-A OUTPUT -d 192.0.2.1 -j ACCEPT"], some ["-A OUTPUT -d 2001:db8::1 -j ACCEPT"],
        some ["-A OUTPUT -d 192.0.2.1 -j ACCEPT", "-A OUTPUT -d 2001:db8::1 -j ACCEPT"],
        none, some []] ∧
    ([none, some .inet, some .inet6].map fun restriction =>
        ((smallCompiler.factory.build (intentTo "db") restriction).after .empty).1.toOption.map
          fun batch => (batch.kept.length, batch.dropped, batch.filtered)) =
      [some (2, 0, 0), some (1, 0, 1), some (1, 0, 1)] ∧
    smallCompiler.Isolates smallSelection
      (smallCompiler.compile (some smallSelection) .empty) := by
  have returned : (smallCompiler.compile (some smallSelection) .empty).ended = none := by
    rw [← Option.isNone_iff_eq_none]
    decide +kernel
  exact ⟨⟨rfl, rfl, returned⟩, by decide +kernel, by decide +kernel, by decide +kernel,
    by decide +kernel, compile_isolates rfl rfl returned⟩

end Compiler

end Firewall
