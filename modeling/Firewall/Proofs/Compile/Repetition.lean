import Firewall.Proofs.Compile.Ending
import Firewall.Proofs.Table

/-!
# The same compilation again

A compilation depends on its past only through the answers that are known.  Two compilations of the
same hosts with faithful pasts have the same rulesets and the same report
(`Compiler.compile_again`).  What they have is told by the hosts that fail (`Compiler.Fails`): the
report has an error exactly if one of them is selected, and the others have rulesets, in the order
in which they are selected first.
-/

namespace Firewall

namespace Compiler

variable {compiler : Compiler} {names : List String} {first second : Compilation}

/-- A name fails: the policy does not define it, or the rules of its host cannot be built. -/
def Fails (compiler : Compiler) (name : String) : Prop :=
  ∀ host, compiler.policy.hosts.get? name = some host →
    ∃ error, ((compiler.factory.buildHost host).after .empty).1 = .error error

theorem fails_iff {name : String} : compiler.Fails name ↔ compiler.text? name = none := by
  rw [Fails, text?]
  cases compiler.policy.hosts.get? name with
  | none => simp
  | some host =>
      change (∀ other, some host = some other → ∃ error, compiler.alone other = .error error) ↔ _
      cases failed : compiler.alone host <;> simp [failed]

/-! ## Rulesets and reports -/

theorem rulesets_of_comprises (comprises : compiler.Comprises names first)
    (again : compiler.Comprises names second) : second.rulesets = first.rulesets := by
  have entries : second.rulesets.entries = first.rulesets.entries := by
    rw [Table.entries_eq_filterMap, Table.entries_eq_filterMap, comprises.keys, again.keys]
    simp only [comprises.texts, again.texts]
  exact Table.eq_of_entries entries

theorem report_of_comprises (comprises : compiler.Comprises names first)
    (again : compiler.Comprises names second) : second.report = first.report :=
  congrArg Report.mk (again.entries.trans comprises.entries.symm)

/-- The texts are in the order in which the names are selected first. -/
theorem texts_of_comprises (comprises : compiler.Comprises names first) :
    first.rulesets.entries.map Prod.snd = (distinct names).filterMap first.rulesets.get? := by
  have each : ∀ name ∈ distinct names,
      (if (compiler.text? name).isSome then
          ((first.rulesets.get? name).map (name, ·)).map Prod.snd
        else none) = first.rulesets.get? name := by
    intro name member
    rw [comprises.texts, if_pos (mem_distinct.mp member)]
    cases compiler.text? name <;> rfl
  rw [Table.entries_eq_filterMap, List.map_filterMap, comprises.keys, List.filterMap_filter]
  exact List.filterMap_congr each

theorem report_has_error_iff (comprises : compiler.Comprises names first) :
    first.report.has .error = true ↔ ∃ name ∈ names, compiler.Fails name := by
  rw [Report.has, comprises.entries, List.any_eq_true]
  simp only [fails_iff, ← notice?_error_iff, List.mem_filterMap, beq_iff_eq]
  constructor
  · rintro ⟨entry, ⟨name, selected, reported⟩, isError⟩
    exact ⟨name, selected, entry, reported, isError⟩
  · rintro ⟨name, selected, entry, reported, isError⟩
    exact ⟨entry, ⟨name, selected, reported⟩, isError⟩

theorem ruleset_isSome_iff (comprises : compiler.Comprises names first) (name : String) :
    (first.rulesets.get? name).isSome ↔ name ∈ names ∧ ¬ compiler.Fails name := by
  rw [comprises.texts, fails_iff]
  by_cases selected : name ∈ names <;> simp [selected, Option.isSome_iff_ne_none]

/-- What a compilation with a faithful past comes to is what it comes to with any other. -/
theorem compile_again {selected : Option (List String)} (past other : History)
    (collects : compiler.collects = true) (faithful : compiler.IsFaithful past)
    (alsoFaithful : compiler.IsFaithful other)
    (returned : (compiler.compile selected past).ended = none) :
    (compiler.compile selected other).ended = none ∧
      (compiler.compile selected other).rulesets = (compiler.compile selected past).rulesets ∧
      (compiler.compile selected other).report = (compiler.compile selected past).report := by
  have reports := (run_goesOn_iff collects (by exact faithful) rfl).mp returned
  have returnedAgain : (compiler.compile selected other).ended = none :=
    (run_goesOn_iff collects (by exact alsoFaithful) rfl).mpr reports
  have comprises := run_comprises collects (start_comprises faithful) returned
  have again := run_comprises collects (start_comprises alsoFaithful) returnedAgain
  exact ⟨returnedAgain, rulesets_of_comprises comprises again, report_of_comprises comprises again⟩

end Compiler

end Firewall
