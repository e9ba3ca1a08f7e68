import Firewall.Netfilter.Line
import Firewall.Proofs.Build.Accounting

/-!
# Restricting and requesting a family

There are two ways to get the rules of one family out of an intent: to build it under a restriction,
and to let the intent itself ask for the family.  The first way makes all rules and leaves out those
of the other family; the second way refuses combinations of the other family before their rules are
made.  Both come to the same lines (`build_restricted_as_requested`): under a restriction the rules
are those without it, less the ones of the other family, and the requesting intent has the same
rules, each with the family that it asked for.
-/

namespace Firewall

open Schema Resolver

/-! ## Rules of another family -/

namespace Schema.Checked

variable {α β γ : Type}

theorem map_seq (function : β → γ) (first : Checked (α → β)) (second : Checked α) :
    function <$> (first <*> second) = (function ∘ ·) <$> first <*> second := by
  cases first <;> cases second <;> rfl

theorem map_map (function : β → γ) (inner : α → β) (checked : Checked α) :
    function <$> (inner <$> checked) = (function ∘ inner) <$> checked := by
  cases checked <;> rfl

theorem map_seqLeft (function : α → β) (first : Checked α) (second : Checked γ) :
    function <$> (first <* second) = (function <$> first) <* second := by
  cases first <;> cases second <;> rfl

theorem seq_valid (first : Checked (α → β)) (value : α) :
    first <*> .valid value = (fun function => function value) <$> first := by
  cases first with
  | valid function => rfl
  | invalid issues => exact congrArg invalid (List.append_nil issues)

end Schema.Checked

namespace Rule

def Fields.withFamily (family : Option Family) (fields : Fields) : Fields := { fields with family }

def withFamily (family : Option Family) (rule : Rule) : Rule where
  toFields := rule.toFields.withFamily family
  targeted := rule.targeted
  redirected := rule.redirected

@[simp] theorem line_withFamily (family : Option Family) (rule : Rule) :
    (rule.withFamily family).line = rule.line := rfl

theorem fields_withFamily (parts : Parts) (family : Option Family) :
    Parts.fields { parts with family } = Fields.withFamily family <$> parts.fields := by
  unfold Parts.fields
  simp only [Checked.seq_valid, Checked.map_seqLeft, Checked.map_seq, Checked.map_map]
  rfl

theorem ofFields_withFamily (fields : Fields) (family : Option Family) :
    ofFields (fields.withFamily family) = withFamily family <$> ofFields fields := by
  have sameTarget : (fields.withFamily family).hasTarget = fields.hasTarget := rfl
  have sameRedirect : (fields.withFamily family).redirectComplete = fields.redirectComplete := rfl
  unfold ofFields
  by_cases targeted : fields.hasTarget = true
  · by_cases redirected : fields.redirectComplete = true
    · simp only [sameTarget, sameRedirect, dif_pos targeted, dif_pos redirected]
      rfl
    · simp only [sameTarget, sameRedirect, dif_pos targeted, dif_neg redirected]
      rfl
  · simp only [sameTarget, dif_neg targeted]
    rfl

/-- Parts with another family make the rule with this family, or have the same issues. -/
theorem ofParts_withFamily (parts : Parts) (family : Option Family) :
    ofParts { parts with family } = (ofParts parts).map (withFamily family) := by
  unfold ofParts
  rw [fields_withFamily]
  cases parts.fields with
  | invalid issues => rfl
  | valid fields =>
      rw [Checked.map_valid, Checked.further, Checked.further, ofFields_withFamily]
      cases ofFields fields <;> rfl

end Rule

/-! ## Intents that ask for a family -/

/-- The intent, asking for a family. -/
def Intent.requesting (family : Family) (intent : Intent) : Intent :=
  { intent with
    family := some (.only family)
    given := Intent.Field.all.filter fun field => field = .family ∨ field ∈ intent.given }

theorem Intent.requesting_nonempty (family : Family) (intent : Intent) :
    (intent.requesting family).isEmpty = false := by
  have isGiven : Field.family ∈ (intent.requesting family).given := by
    simp [requesting, Field.all]
  rw [isEmpty, List.isEmpty_eq_false_iff_exists_mem]
  exact ⟨.family, isGiven⟩

namespace Combination

variable {intent : Intent} {family : Family} {combination : Combination}

theorem families_requesting (unrequested : intent.restriction = none) :
    combination.families (intent.requesting family) = family :: combination.families intent := by
  have asksForNone : FamilyChoice.asked? intent.family = none := by
    rw [← FamilyChoice.bind_restriction]
    exact unrequested
  rw [families, families, asksForNone]
  rfl

/-- A combination without addresses of another family makes the same rule, which has the family
asked for. -/
theorem rule_requesting (unrequested : intent.restriction = none)
    (fits : ∀ other ∈ combination.families intent, other = family) :
    combination.rule (intent.requesting family) =
      (combination.rule intent).map (Rule.withFamily (some family)) := by
  have asked : combination.family (intent.requesting family) = .ok (some family) := by
    rw [family_eq_commonFamily, families_requesting unrequested, commonFamily_eq_ok_some_iff]
    refine ⟨List.cons_ne_nil _ _, ?_⟩
    intro other member
    rcases List.mem_cons.mp member with same | inFamilies
    · exact same
    · exact fits other inFamilies
  rw [rule, rule, asked]
  cases single : combination.family intent with
  | error conflict =>
      rw [family_eq_commonFamily] at single
      obtain ⟨inet, inet6⟩ := commonFamily_eq_error_iff.mp ⟨conflict, single⟩
      have equal := (fits _ inet).trans (fits _ inet6).symm
      contradiction
  | ok common => exact Rule.ofParts_withFamily (combination.parts intent common) (some family)

/-- A combination with an address of another family is in conflict with the family asked for. -/
theorem rule_requesting_conflict {other : Family} (unrequested : intent.restriction = none)
    (member : other ∈ combination.families intent) (different : other ≠ family) :
    ∃ conflict, combination.rule (intent.requesting family) = .error (.conflict conflict) := by
  rw [rule_eq_conflict_iff, families_requesting unrequested]
  have here : family ∈ family :: combination.families intent := List.mem_cons_self
  have there := List.mem_cons_of_mem family member
  cases family with
  | inet =>
      cases other with
      | inet => contradiction
      | inet6 => exact ⟨here, there⟩
  | inet6 =>
      cases other with
      | inet => exact ⟨there, here⟩
      | inet6 => contradiction

end Combination

/-! ## Verdicts -/

namespace Verdict

/-- The verdict under a restriction, when there was none before. -/
def restrict (family : Family) : Verdict → Verdict
  | .kept rule => onRule (some family) rule
  | verdict => verdict

/-- What becomes of a verdict under a restriction to a family if the intent asks for the family: its
rule has the family, and what was filtered is dropped. -/
inductive BecomesRequested (family : Family) : Verdict → Verdict → Prop
  | kept (rule : Rule) :
      BecomesRequested family (.kept rule) (.kept (rule.withFamily (some family)))
  | dropped (before after : FamilyConflict) :
      BecomesRequested family (.dropped before) (.dropped after)
  | filtered (other : Family) (conflict : FamilyConflict) :
      BecomesRequested family (.filtered other family) (.dropped conflict)

theorem onRule_none (rule : Rule) : onRule none rule = .kept rule := by
  unfold onRule
  cases rule.family <;> rfl

variable {intent : Intent} {family : Family}

/-- A restriction changes the verdict on a combination only. -/
theorem onCombination_restricted (combination : Combination) :
    onCombination intent (some family) combination =
      (onCombination intent none combination).map (restrict family) := by
  unfold onCombination
  cases combination.rule intent with
  | ok rule => exact congrArg Except.ok (by rw [onRule_none]; rfl)
  | error fault => cases fault <;> rfl

theorem onAll_restricted (combinations : List Combination) :
    onAll intent (some family) combinations =
      ((onAll intent none combinations).1.map (restrict family),
        (onAll intent none combinations).2) := by
  induction combinations with
  | nil => rfl
  | cons combination rest ih =>
      rw [onAll, onAll, onCombination_restricted]
      cases onCombination intent none combination with
      | error invalid => rfl
      | ok verdict =>
          simp only [Except.map, ih, List.map_cons]

/-- A rule of the family asked for is kept under a restriction to it. -/
theorem onRule_of_family {rule : Rule} {scope : Option Family} (same : rule.family = some family)
    (inScope : ∀ required ∈ scope, required = family) : onRule scope rule = .kept rule := by
  cases scope with
  | none => exact onRule_none rule
  | some required =>
      unfold onRule
      rw [same]
      exact if_pos (inScope required rfl).symm

theorem onRule_of_none {rule : Rule} (noFamily : rule.family = none) (scope : Option Family) :
    onRule scope rule = .kept rule := by
  unfold onRule
  rw [noFamily]

@[simp] theorem restrict_dropped (conflict : FamilyConflict) :
    restrict family (.dropped conflict) = .dropped conflict := rfl

theorem restrict_kept_of_fits {rule : Rule}
    (fits : rule.family = none ∨ rule.family = some family) :
    restrict family (.kept rule) = .kept rule := by
  rcases fits with noFamily | same
  · exact onRule_of_none noFamily (some family)
  · exact onRule_of_family same fun required isSome => (Option.some.inj isSome).symm

theorem restrict_kept_of_other {rule : Rule} {other : Family} (occurs : rule.family = some other)
    (different : other ≠ family) : restrict family (.kept rule) = .filtered other family := by
  rw [restrict]
  unfold onRule
  rw [occurs]
  exact if_neg different

/-- A combination that has a verdict has one if the intent asks for a family. -/
theorem onCombination_requesting (unrequested : intent.restriction = none)
    {combination : Combination} {verdict : Verdict}
    (reached : onCombination intent none combination = .ok verdict) {scope : Option Family}
    (inScope : ∀ required ∈ scope, required = family) :
    ∃ requested, onCombination (intent.requesting family) scope combination = .ok requested ∧
      BecomesRequested family (verdict.restrict family) requested := by
  unfold onCombination at reached ⊢
  by_cases fits : ∀ other ∈ combination.families intent, other = family
  · rw [Combination.rule_requesting unrequested fits]
    cases made : combination.rule intent with
    | error fault =>
        rw [made] at reached
        cases fault with
        | conflict conflict =>
            cases reached
            exact ⟨_, rfl, .dropped conflict conflict⟩
        | invalid invalid => contradiction
    | ok rule =>
        rw [made] at reached
        cases reached
        have kept : (onRule none rule).restrict family = .kept rule := by
          rw [onRule_none]
          apply restrict_kept_of_fits
          cases occurs : rule.family with
          | none => exact .inl rfl
          | some found =>
              have member := (Combination.family_of_rule_eq_ok made found).mp occurs
              exact .inr (congrArg some (fits found member))
        rw [kept]
        exact ⟨_, congrArg Except.ok (onRule_of_family rfl inScope), .kept rule⟩
  · obtain ⟨other, unfit⟩ := not_forall.mp fits
    obtain ⟨member, different⟩ := Classical.not_imp.mp unfit
    obtain ⟨conflict, clash⟩ :=
      Combination.rule_requesting_conflict unrequested member different
    rw [clash]
    cases made : combination.rule intent with
    | error fault =>
        rw [made] at reached
        cases fault with
        | conflict before =>
            cases reached
            exact ⟨_, rfl, .dropped before conflict⟩
        | invalid invalid => contradiction
    | ok rule =>
        rw [made] at reached
        cases reached
        have occurs := (Combination.family_of_rule_eq_ok made other).mpr member
        rw [onRule_none, restrict_kept_of_other occurs different]
        exact ⟨_, rfl, .filtered other conflict⟩

/-- Combinations that all have verdicts have them if the intent asks for a family. -/
theorem onAll_requesting (unrequested : intent.restriction = none) {scope : Option Family}
    (inScope : ∀ required ∈ scope, required = family) {combinations : List Combination}
    {verdicts : List Verdict} (reached : onAll intent none combinations = (verdicts, none)) :
    ∃ requested, onAll (intent.requesting family) scope combinations = (requested, none) ∧
      List.Forall₂ (BecomesRequested family) (verdicts.map (restrict family)) requested := by
  induction combinations generalizing verdicts with
  | nil =>
      cases reached
      exact ⟨[], rfl, .nil⟩
  | cons combination rest ih =>
      rw [onAll] at reached
      cases first : onCombination intent none combination with
      | error invalid =>
          rw [first] at reached
          cases reached
      | ok verdict =>
          cases others : onAll intent none rest with
          | mk restVerdicts invalid =>
              rw [first, others] at reached
              cases reached
              obtain ⟨asFirst, firstReached, becomes⟩ :=
                onCombination_requesting unrequested first inScope
              obtain ⟨asRest, restReached, becomeAll⟩ := ih others
              refine ⟨asFirst :: asRest, ?_, .cons becomes becomeAll⟩
              rw [onAll, firstReached, restReached]

theorem isFiltered_of_onCombination_none {combination : Combination} {verdict : Verdict}
    (reached : onCombination intent none combination = .ok verdict) :
    verdict.isFiltered = false := by
  unfold onCombination at reached
  cases made : combination.rule intent with
  | ok rule =>
      rw [made] at reached
      cases reached
      rw [onRule_none]
      rfl
  | error fault =>
      rw [made] at reached
      cases fault with
      | conflict conflict =>
          cases reached
          rfl
      | invalid invalid => contradiction

theorem isFiltered_of_onAll_none {combinations : List Combination} {verdict : Verdict}
    (member : verdict ∈ (onAll intent none combinations).1) : verdict.isFiltered = false := by
  induction combinations with
  | nil => contradiction
  | cons combination rest ih =>
      rw [onAll] at member
      cases first : onCombination intent none combination with
      | error invalid =>
          rw [first] at member
          contradiction
      | ok reached =>
          rw [first] at member
          rcases List.mem_cons.mp member with rfl | later
          · exact isFiltered_of_onCombination_none first
          · exact ih later

end Verdict

/-! ## Batches -/

namespace Batch

/-- A batch has the rules of another one without those of the other family, and counts them. -/
structure IsRestrictionOf (family : Family) (whole restricted : Batch) : Prop where
  kept : restricted.kept =
    whole.kept.filter fun rule => rule.family = none ∨ rule.family = some family
  dropped : restricted.dropped = whole.dropped
  filtered : restricted.filtered + restricted.kept.length = whole.kept.length

/-- A batch has the rules of another one with the family asked for, and has dropped what the other
one has filtered. -/
structure IsRequestOf (family : Family) (restricted requested : Batch) : Prop where
  kept : requested.kept = restricted.kept.map (Rule.withFamily (some family))
  lines : requested.kept.map Rule.line = restricted.kept.map Rule.line
  dropped : requested.dropped = restricted.dropped + restricted.filtered
  filtered : requested.filtered = 0

variable {family : Family}

/-- Verdicts under a restriction make the restricted batch, if nothing was filtered before. -/
theorem isRestrictionOf_ofVerdicts {verdicts : List Verdict}
    (unfiltered : ∀ verdict ∈ verdicts, verdict.isFiltered = false) :
    IsRestrictionOf family (ofVerdicts verdicts)
      (ofVerdicts (verdicts.map (Verdict.restrict family))) := by
  induction verdicts with
  | nil => exact ⟨rfl, rfl, rfl⟩
  | cons verdict rest ih =>
      obtain ⟨kept, dropped, filtered⟩ :=
        ih fun other member => unfiltered other (List.mem_cons_of_mem verdict member)
      rw [List.map_cons]
      cases verdict with
      | dropped conflict =>
          rw [Verdict.restrict_dropped, ofVerdicts_dropped, ofVerdicts_dropped]
          exact ⟨kept, congrArg (· + 1) dropped, filtered⟩
      | filtered other required =>
          have isFiltered := unfiltered (.filtered other required) List.mem_cons_self
          contradiction
      | kept rule =>
          rw [ofVerdicts_kept]
          by_cases fits : rule.family = none ∨ rule.family = some family
          · rw [Verdict.restrict_kept_of_fits fits, ofVerdicts_kept]
            constructor
            case kept => rw [List.filter_cons_of_pos (by simpa using fits), kept]
            case dropped => exact dropped
            case filtered => exact congrArg (· + 1) filtered
          · obtain ⟨hasFamily, different⟩ := not_or.mp fits
            obtain ⟨other, occurs⟩ := Option.ne_none_iff_exists'.mp hasFamily
            have isOther : other ≠ family := by
              rintro rfl
              exact different occurs
            rw [Verdict.restrict_kept_of_other occurs isOther, ofVerdicts_filtered]
            constructor
            case kept => rw [List.filter_cons_of_neg (by simpa using fits), kept]
            case dropped => exact dropped
            case filtered =>
              dsimp only
              rw [List.length_cons, ← filtered]
              omega

/-- Verdicts on an intent that asks for a family make the batch that asks for it. -/
theorem isRequestOf_ofVerdicts {restricted requested : List Verdict}
    (become : List.Forall₂ (Verdict.BecomesRequested family) restricted requested) :
    IsRequestOf family (ofVerdicts restricted) (ofVerdicts requested) := by
  induction become with
  | nil => exact ⟨rfl, rfl, rfl, rfl⟩
  | @cons before after restBefore restAfter first _ ih =>
      obtain ⟨kept, lines, dropped, filtered⟩ := ih
      cases first with
      | kept rule =>
          rw [ofVerdicts_kept, ofVerdicts_kept]
          constructor
          case kept => rw [List.map_cons, kept]
          case lines => rw [List.map_cons, List.map_cons, lines, Rule.line_withFamily]
          case dropped => exact dropped
          case filtered => exact filtered
      | dropped before after =>
          rw [ofVerdicts_dropped, ofVerdicts_dropped]
          refine ⟨kept, lines, ?_, filtered⟩
          dsimp only
          omega
      | filtered other conflict =>
          rw [ofVerdicts_filtered, ofVerdicts_dropped]
          refine ⟨kept, lines, ?_, filtered⟩
          dsimp only
          omega

end Batch

/-! ## Builds -/

namespace Factory

theorem outcome_of_nonempty (factory : Factory) {intent : Intent}
    (nonempty : intent.isEmpty = false) (restriction : Option Family) (answers : Answers) :
    factory.outcome intent restriction answers =
      intent.alternatives factory.services answers >>= fun alternatives =>
        Verdict.batch (Verdict.onAll intent restriction alternatives.combinations) := by
  rw [outcome, nonempty, if_neg Bool.false_ne_true]

theorem alternatives_requesting (intent : Intent) (family : Family) (services : Services)
    (answers : Answers) :
    (intent.requesting family).alternatives services answers =
      intent.alternatives services answers := rfl

end Factory

variable {factory : Factory} {intent : Intent} {family : Family} {answers : Answers}

/-- A build fails under a restriction exactly if it fails without one, and with the same error. -/
theorem outcome_restricted_error_iff (nonempty : intent.isEmpty = false) (error : BuildError) :
    factory.outcome intent (some family) answers = .error error ↔
      factory.outcome intent none answers = .error error := by
  rw [factory.outcome_of_nonempty nonempty, factory.outcome_of_nonempty nonempty]
  cases intent.alternatives factory.services answers with
  | error other => exact Iff.rfl
  | ok alternatives =>
      change Verdict.batch _ = _ ↔ Verdict.batch _ = _
      rw [Verdict.onAll_restricted]
      cases (Verdict.onAll intent none alternatives.combinations) with
      | mk verdicts invalid =>
          cases invalid with
          | some invalid => exact Iff.rfl
          | none => exact ⟨nofun, nofun⟩

/-- Where a build succeeds, it succeeds under a restriction and for the intent that asks for the
family. -/
theorem exists_restricted_requested (nonempty : intent.isEmpty = false)
    (unrequested : intent.restriction = none) {whole : Batch}
    (built : factory.outcome intent none answers = .ok whole) :
    ∃ restricted, factory.outcome intent (some family) answers = .ok restricted ∧
      Batch.IsRestrictionOf family whole restricted ∧
      ∀ scope : Option Family, (∀ required ∈ scope, required = family) →
        ∃ requested, factory.outcome (intent.requesting family) scope answers = .ok requested ∧
          Batch.IsRequestOf family restricted requested := by
  rw [factory.outcome_of_nonempty nonempty] at built
  obtain ⟨alternatives, known, reached⟩ := bind_eq_ok_iff.mp built
  cases run : Verdict.onAll intent none alternatives.combinations with
  | mk verdicts invalid =>
      rw [run] at reached
      cases invalid with
      | some invalid => contradiction
      | none =>
          cases reached
          have unfiltered : ∀ verdict ∈ verdicts, verdict.isFiltered = false := by
            intro verdict member
            apply Verdict.isFiltered_of_onAll_none
            rw [run]
            exact member
          refine ⟨.ofVerdicts (verdicts.map (Verdict.restrict family)), ?_,
            Batch.isRestrictionOf_ofVerdicts unfiltered, ?_⟩
          · rw [factory.outcome_of_nonempty nonempty, known]
            change Verdict.batch _ = _
            rw [Verdict.onAll_restricted, run]
            rfl
          · intro scope inScope
            obtain ⟨requested, reached, become⟩ :=
              Verdict.onAll_requesting unrequested inScope run
            refine ⟨.ofVerdicts requested, ?_, Batch.isRequestOf_ofVerdicts become⟩
            rw [factory.outcome_of_nonempty (intent.requesting_nonempty family),
              Factory.alternatives_requesting, known]
            change Verdict.batch _ = _
            rw [reached]
            rfl

/-- An intent that asks for no family is built under a restriction exactly if it is built without
one.  The restricted batch has the rules that are not of the other family, and the intent that asks
for the family itself has the same lines.  The names may be resolved anew for each build, as long as
the answers stay the same. -/
theorem build_restricted_as_requested {whole restricted requested : History}
    (nonempty : intent.isEmpty = false) (unrequested : intent.restriction = none)
    (sameRestricted : factory.resolver.answers restricted = factory.resolver.answers whole)
    (sameRequested : factory.resolver.answers requested = factory.resolver.answers whole) :
    (∀ error, ((factory.build intent (some family)).after restricted).1 = .error error ↔
      ((factory.build intent none).after whole).1 = .error error) ∧
    ∀ batch, ((factory.build intent none).after whole).1 = .ok batch →
      ∃ part, ((factory.build intent (some family)).after restricted).1 = .ok part ∧
        Batch.IsRestrictionOf family batch part ∧
        ∀ scope : Option Family, (∀ required ∈ scope, required = family) →
          ∃ asked, ((factory.build (intent.requesting family) scope).after requested).1 =
              .ok asked ∧
            Batch.IsRequestOf family part asked := by
  have atRestricted := (factory.build_determined intent (some family) restricted).1
  have atWhole := (factory.build_determined intent none whole).1
  have atRequested := fun scope =>
    (factory.build_determined (intent.requesting family) scope requested).1
  simp only [atRestricted, atWhole, atRequested, sameRestricted, sameRequested]
  constructor
  · intro error
    exact outcome_restricted_error_iff nonempty error
  · intro batch built
    exact exists_restricted_requested nonempty unrequested built

/-- Half of thirty-six choices make rules, and those of one family are had in both ways. -/
theorem build_dual_restricted_as_requested :
    dualIntent.isEmpty = false ∧ dualIntent.restriction = none ∧
    ∃ batch part asked : Batch,
      ((dualFactory.build dualIntent none).after .empty).1 = .ok batch ∧
      (batch.kept.length, batch.dropped, batch.filtered) = (18, 18, 0) ∧
      ((dualFactory.build dualIntent (some .inet)).after .empty).1 = .ok part ∧
      Batch.IsRestrictionOf .inet batch part ∧
      ((dualFactory.build (dualIntent.requesting .inet) (some .inet)).after .empty).1 = .ok asked ∧
      Batch.IsRequestOf .inet part asked := by
  have evaluated : ((dualFactory.build dualIntent none).after .empty).1.toOption.map
      (fun batch => (batch.kept.length, batch.dropped, batch.filtered)) = some (18, 18, 0) := by
    decide +kernel
  refine ⟨rfl, rfl, ?_⟩
  obtain ⟨batch, built, counts⟩ := exists_ok_of_map_toOption evaluated
  obtain ⟨part, restricted, isRestriction, asks⟩ :=
    (@build_restricted_as_requested dualFactory dualIntent .inet .empty .empty .empty rfl rfl
      rfl rfl).2 batch built
  obtain ⟨asked, requested, isRequest⟩ :=
    asks (some .inet) fun required same => (Option.some.inj same).symm
  exact ⟨batch, part, asked, built, counts, restricted, isRestriction, requested, isRequest⟩

end Firewall
