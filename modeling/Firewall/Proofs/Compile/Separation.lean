import Firewall.Proofs.Build.Accounting
import Firewall.Proofs.Compile.Isolation
import Firewall.Proofs.Netfilter.LineRoundTrip
import Firewall.Proofs.Netfilter.Placement

/-!
# Families kept apart

A ruleset never has addresses of two families in one line, and if its host is restricted to a
family, no line has an address of the other one.  The rules of a host carry combinations that are
kept, so their addresses are of one family (`ofOneFamily_of_buildHost`), and a line has no other
addresses than its rule (`exists_host_of_mem_addresses`).  A compilation writes rulesets of such
rules only, whatever becomes of its other hosts (`Compiler.compile_separates_families`).
-/

namespace Firewall

open Resolver

/-- All of some addresses are of one family, which is the one asked for if there is one. -/
def OfOneFamily (restriction : Option Family) (addresses : List Address) : Prop :=
  ∃ family, (∀ required ∈ restriction, family = required) ∧
    ∀ address ∈ addresses, address.family = family

/-! ## The rules of a host -/

theorem exists_left_of_forall₂ {α β : Type} {relation : α → β → Prop} {left : List α}
    {right : List β} (related : List.Forall₂ relation left right) {value : β}
    (member : value ∈ right) : ∃ element ∈ left, relation element value := by
  induction related with
  | nil => contradiction
  | @cons first second rest others here _ ih =>
      rcases List.mem_cons.mp member with rfl | later
      · exact ⟨first, List.mem_cons_self, here⟩
      · obtain ⟨element, inRest, there⟩ := ih later
        exact ⟨element, List.mem_cons_of_mem first inRest, there⟩

/-- The rules of a batch carry combinations that are kept. -/
theorem exists_combination_of_outcome {factory : Factory} {intent : Intent}
    {restriction : Option Family} {history : History} {batch : Batch}
    (built : factory.outcome intent restriction (factory.resolver.answers history) = .ok batch)
    {rule : Rule} (kept : rule ∈ batch.kept) :
    ∃ combination : Combination, combination.IsKept intent restriction ∧
      rule.Carries intent combination := by
  unfold Factory.outcome at built
  split at built
  · cases built
    contradiction
  · obtain ⟨alternatives, known, reached⟩ := bind_eq_ok_iff.mp built
    obtain ⟨_, _, resolved⟩ := exists_resolution known
    have accounts := accountsFor_of_batch resolved reached
    obtain ⟨combination, member, carries⟩ := exists_left_of_forall₂ accounts.kept kept
    exact ⟨combination, by simpa using (List.mem_filter.mp member).2, carries⟩

theorem hosts_of_carries {intent : Intent} {combination : Combination} {rule : Rule}
    (carries : rule.Carries intent combination) : rule.hosts = combination.hosts := by
  rw [Rule.Fields.hosts, Combination.hosts, carries.sourceHost, carries.destinationHost,
    carries.masquerade, carries.redirectHost]

/-- A combination that is kept has addresses of one family, and of no other one than asked for. -/
theorem ofOneFamily_of_carries {intent : Intent} {restriction : Option Family}
    {combination : Combination} {rule : Rule} (isKept : combination.IsKept intent restriction)
    (carries : rule.Carries intent combination) : OfOneFamily restriction rule.hosts := by
  have ofHosts : ∀ host ∈ rule.hosts, rule.family = some host.family := by
    intro host member
    rw [hosts_of_carries carries] at member
    exact (carries.family host.family).mpr (Combination.family_mem_families member intent)
  cases occurs : rule.family with
  | none =>
      refine ⟨restriction.getD .inet, ?_, ?_⟩
      · intro required isRestriction
        rw [isRestriction]
        rfl
      · intro host member
        rw [ofHosts host member] at occurs
        contradiction
  | some family =>
      refine ⟨family, ?_, ?_⟩
      · intro required isRestriction
        by_contra different
        have inFamilies := (carries.family family).mp occurs
        exact isKept.2 ⟨isKept.1, required, isRestriction, family, inFamilies, different⟩
      · intro host member
        rw [ofHosts host member] at occurs
        exact Option.some.inj occurs

/-- Every rule of a host has addresses of one family, and of the one that the scope of the host asks
for. -/
theorem ofOneFamily_of_buildHost {factory : Factory} {host : HostPolicy} {history : History}
    {rules : List Rule} (built : ((factory.buildHost host).after history).1 = .ok rules) :
    ∀ rule ∈ rules, OfOneFamily (FamilyChoice.asked? host.scope) rule.hosts := by
  intro rule member
  rw [← host.restriction_eq_asked?]
  rw [(factory.buildHost_determined host history).1] at built
  obtain ⟨batches, each, rfl⟩ := Factory.hostOutcome_eq_ok_iff.mp built
  obtain ⟨batch, isBatch, kept⟩ := List.mem_flatMap.mp member
  obtain ⟨intent, _, reached⟩ := exists_left_of_forall₂ each isBatch
  obtain ⟨combination, isKept, carries⟩ := exists_combination_of_outcome reached kept
  exact ofOneFamily_of_carries isKept carries

/-! ## The addresses of a line -/

def Target.host? : Target → Option Address
  | .destination host _ => some host
  | _ => none

/-- The addresses that a rule line says: behind the options for the source and the destination, and
of the target. -/
def RuleLine.addresses (line : RuleLine) : List Address :=
  line.source.host.toList ++ line.destination.host.toList ++ line.target.host?.toList

theorem family_withoutZone (address : Address) : address.withoutZone.family = address.family := by
  cases address <;> rfl

theorem host?_withoutZone (target : Target) :
    target.withoutZone.host? = target.host?.map Address.withoutZone := by
  cases target <;> rfl

theorem redirect_host_of_target {rule : Rule} {host : Address}
    (named : rule.target.host? = some host) : rule.redirect.host = some host := by
  unfold Rule.target at named
  split at named
  · contradiction
  · split at named
    · rename_i redirected isHost
      rw [isHost]
      split at named
      · contradiction
      · split at named
        · exact named
        · exact named
    · split at named
      · contradiction
      · split at named
        · contradiction
        · contradiction

/-- A line has no other addresses than its rule. -/
theorem exists_host_of_mem_addresses {rule : Rule} {address : Address}
    (member : address ∈ rule.ruleLine.addresses) :
    ∃ host ∈ rule.hosts, address = host.withoutZone := by
  have ofPlace : ∀ place ∈ [rule.source.host, rule.destination.host, rule.masquerade,
      rule.redirect.host], place.map Address.withoutZone = some address →
        ∃ host ∈ rule.hosts, address = host.withoutZone := by
    intro place isPlace written
    obtain ⟨host, rfl, rfl⟩ := Option.map_eq_some_iff.mp written
    exact ⟨host, List.mem_filterMap.mpr ⟨some host, isPlace, rfl⟩, rfl⟩
  rw [Rule.ruleLine_eq] at member
  simp only [RuleLine.addresses, List.mem_append, Option.mem_toList] at member
  rcases member with (source | destination) | target
  · exact ofPlace _ (by simp) source
  · exact ofPlace _ (by simp) destination
  · have written : rule.target.host?.map Address.withoutZone = some address := by
      rw [← host?_withoutZone]
      exact target
    obtain ⟨host, named, same⟩ := Option.map_eq_some_iff.mp written
    apply ofPlace rule.redirect.host (by simp)
    rw [redirect_host_of_target named, Option.map_some, same]

theorem ofOneFamily_addresses {restriction : Option Family} {rule : Rule}
    (within : OfOneFamily restriction rule.hosts) :
    OfOneFamily restriction rule.ruleLine.addresses := by
  obtain ⟨family, required, ofHosts⟩ := within
  refine ⟨family, required, ?_⟩
  intro address member
  obtain ⟨host, isHost, rfl⟩ := exists_host_of_mem_addresses member
  rw [family_withoutZone]
  exact ofHosts host isHost

/-! ## The lines of a ruleset -/

theorem ofText?_of_first {line word : String} {rest : List Char}
    (start : line.toList = word.toList ++ ' ' :: rest) (noSpace : ' ' ∉ word.toList)
    (other : word ≠ "-A") : RuleLine.ofText? line = none := by
  have words : (Text.fields ' ' line.toList).map String.ofList =
      word :: (Text.fields ' ' rest).map String.ofList := by
    simp [start, Text.fields_append_cons noSpace]
  rw [RuleLine.ofText?, words, ruleLine?]
  exact fun _ _ same => other (List.cons.inj same).1

theorem ofText?_headerLine (time : ClockTime) : RuleLine.ofText? (headerLine time) = none := by
  have first : "# Generated by ".toList = "#".toList ++ ' ' :: "Generated by ".toList := by decide
  have start : ∃ rest, (headerLine time).toList = "#".toList ++ ' ' :: rest := by
    unfold headerLine
    simp only [String.toList_append, first, List.append_assoc, List.cons_append]
    exact ⟨_, rfl⟩
  obtain ⟨rest, start⟩ := start
  exact ofText?_of_first start (by decide) (by decide)

theorem ofText?_declaration (policy : String) (chain : Chain) :
    RuleLine.ofText? (declaration policy chain) = none := by
  have start : (declaration policy chain).toList =
      (":" ++ chain.name).toList ++ ' ' :: (policy.toList ++ " [0:0]".toList) := by
    simp [declaration]
  cases chain <;> exact ofText?_of_first start (by decide) (by decide)

theorem ofText?_repliesLine (chain : Chain) : RuleLine.ofText? (repliesLine chain) = none := by
  cases chain <;> decide +kernel

/-- The lines of a ruleset that are rule lines are those of its rules. -/
theorem exists_rule_of_ofText? {rules : List Rule} {default : Action} {time : ClockTime}
    {line : String} {read : RuleLine} (member : line ∈ rulesetLines rules default time)
    (isRule : RuleLine.ofText? line = some read) : ∃ rule ∈ rules, line = rule.line := by
  cases isLineOf_of_mem member with
  | header =>
      rw [ofText?_headerLine] at isRule
      contradiction
  | border isBorder =>
      have noRule : ∀ word ∈ ["*nat", "*filter", "COMMIT"], RuleLine.ofText? word = none := by
        decide
      rw [noRule line isBorder] at isRule
      contradiction
  | declaration chain isPolicy =>
      rw [ofText?_declaration] at isRule
      contradiction
  | replies chain =>
      rw [ofText?_repliesLine] at isRule
      contradiction
  | rule isGiven => exact ⟨_, isGiven, rfl⟩

namespace Compiler

variable {compiler : Compiler}

/-- A text is the ruleset of the rules that the host of a name has at some point. -/
def Writes (compiler : Compiler) (name text : String) : Prop :=
  ∃ host history rules, compiler.policy.hosts.get? name = some host ∧
    ((compiler.factory.buildHost host).after history).1 = .ok rules ∧
    text = ruleset rules host.default compiler.time

/-- All rulesets are written from the rules of their hosts. -/
def WritesAll (compiler : Compiler) (compilation : Compilation) : Prop :=
  ∀ name text, compilation.rulesets.get? name = some text → compiler.Writes name text

theorem failHost_rulesets (name : String) (error : BuildError) (compilation : Compilation) :
    (compiler.failHost name error compilation).rulesets = compilation.rulesets := by
  unfold failHost
  split <;> rfl

theorem finishHost_rulesets (name : String) (host : HostPolicy) (rules : List Rule)
    (compilation : Compilation) :
    (compiler.finishHost name host rules compilation).rulesets =
      compilation.rulesets.put name (ruleset rules host.default compiler.time) := by
  unfold finishHost
  cases rules with
  | nil => cases compiler.collects <;> rfl
  | cons first rest => rfl

theorem compileHost_writesAll {compilation : Compilation} {name : String} {host : HostPolicy}
    (defined : compiler.policy.hosts.get? name = some host)
    (writes : compiler.WritesAll compilation) :
    compiler.WritesAll (compiler.compileHost name host compilation) := by
  intro query text found
  unfold compileHost at found
  cases built : (compiler.factory.buildHost host).after
      (compilation.note (.compiling name host.intents.length)).history with
  | mk result history =>
      simp only [built] at found
      cases result with
      | error error =>
          rw [failHost_rulesets] at found
          exact writes query text found
      | ok rules =>
          rw [finishHost_rulesets, Table.get?_put] at found
          split at found
          · rename_i same
            cases found
            rw [← same]
            exact ⟨host, _, rules, defined, congrArg Prod.fst built, rfl⟩
          · exact writes query text found

/-- A step writes the ruleset of the rules of one host, or none. -/
theorem step_writesAll {compilation : Compilation} (writes : compiler.WritesAll compilation)
    (name : String) : compiler.WritesAll (compiler.step compilation name) := by
  unfold step
  split
  · exact writes
  · split
    · rename_i host defined
      exact compileHost_writesAll defined writes
    · split
      · exact writes
      · exact writes

/-- All rulesets of a run are written from the rules of their hosts. -/
theorem run_writesAll {compilation : Compilation} (writes : compiler.WritesAll compilation)
    (names : List String) : compiler.WritesAll (names.foldl compiler.step compilation) := by
  induction names generalizing compilation with
  | nil => exact writes
  | cons name rest ih => exact ih (step_writesAll writes name)

/-- Whatever is selected and has happened before, and even if it ends early, a compilation writes
rulesets of rules with addresses of one family only, and of the one that the scope of the host asks
for.  The words of every rule say such addresses only, and so does every rule line of a ruleset in
which no protocol and no interface has a space. -/
theorem compile_separates_families {selected : Option (List String)} {history : History}
    {name text : String}
    (written : (compiler.compile selected history).rulesets.get? name = some text) :
    ∃ host earlier rules, compiler.policy.hosts.get? name = some host ∧
      ((compiler.factory.buildHost host).after earlier).1 = .ok rules ∧
      text = ruleset rules host.default compiler.time ∧
      (∀ rule ∈ rules, OfOneFamily (FamilyChoice.asked? host.scope) rule.hosts) ∧
      (∀ rule ∈ rules, ∃ read, ruleLine? rule.words = some read ∧
        OfOneFamily (FamilyChoice.asked? host.scope) read.addresses) ∧
      ((∀ rule ∈ rules, rule.HasPlainWords) →
        ∀ line ∈ rulesetLines rules host.default compiler.time, ∀ read,
          RuleLine.ofText? line = some read →
            OfOneFamily (FamilyChoice.asked? host.scope) read.addresses) := by
  have atStart : compiler.WritesAll (.start history) := nofun
  have atEnd := run_writesAll atStart (selected.getD compiler.policy.hosts.keys)
  obtain ⟨host, earlier, rules, defined, built, same⟩ := atEnd name text written
  have within := ofOneFamily_of_buildHost built
  refine ⟨host, earlier, rules, defined, built, same, within, ?_, ?_⟩
  · intro rule member
    exact ⟨rule.ruleLine, rule.ruleLine?_words, ofOneFamily_addresses (within rule member)⟩
  · intro plain line isLine read isRead
    obtain ⟨rule, member, rfl⟩ := exists_rule_of_ofText? isLine isRead
    rw [Rule.ofText?_line (plain rule member)] at isRead
    cases isRead
    exact ofOneFamily_addresses (within rule member)

/-- Two hosts need a name that has an address of each family, and one of them is restricted. -/
def dualCompiler : Compiler where
  policy :=
    { names := Table.empty
      hosts := Table.ofList [("four", ⟨.block, some (.only .inet), [intentTo "dual"]⟩),
        ("both", ⟨.block, none, [intentTo "dual"]⟩)] }
  factory := dualFactory
  time := ⟨2000, 1, 1, 0, 0, 0⟩
  collects := true

/-- The restricted host has the rule of one family, and the other host has one rule for each. -/
theorem compile_dual_separates_families :
    (dualCompiler.compile none .empty).rulesets.keys = ["four", "both"] ∧
    (dualCompiler.policy.hosts.entries.map fun entry =>
      ((dualCompiler.factory.buildHost entry.2).after .empty).1.toOption.map fun rules =>
        rules.map fun rule => rule.hosts.map Address.family) =
      [some [[.inet]], some [[.inet], [.inet6]]] ∧
    ∃ text, (dualCompiler.compile none .empty).rulesets.get? "four" = some text ∧
      ∃ host earlier rules, dualCompiler.policy.hosts.get? "four" = some host ∧
        ((dualCompiler.factory.buildHost host).after earlier).1 = .ok rules ∧
        text = ruleset rules host.default dualCompiler.time ∧
        ∀ rule ∈ rules, OfOneFamily (FamilyChoice.asked? host.scope) rule.hosts := by
  refine ⟨by decide +kernel, by decide +kernel, ?_⟩
  have isWritten : ((dualCompiler.compile none .empty).rulesets.get? "four").isSome = true := by
    decide +kernel
  obtain ⟨text, written⟩ := Option.isSome_iff_exists.mp isWritten
  obtain ⟨host, earlier, rules, defined, built, same, within, -⟩ :=
    compile_separates_families written
  exact ⟨text, written, host, earlier, rules, defined, built, same, within⟩

end Compiler

end Firewall
