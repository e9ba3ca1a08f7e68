import Firewall.Family

/-!
# One family or two

There are two families, so some families are in conflict exactly when both are among them
(`commonFamily_eq_error_iff`), and otherwise the common family is the one that occurs, if any does
(`commonFamily_eq_ok_iff`).  A choice asks for a family only if it names one
(`FamilyChoice.asked?`).
-/

namespace Firewall

/-- The family that is asked for by a choice, if one is made.  The choice of any family asks for
none. -/
def FamilyChoice.asked? : Option FamilyChoice → Option Family
  | some (.only family) => some family
  | some .any => none
  | none => none

theorem FamilyChoice.bind_restriction (choice : Option FamilyChoice) :
    choice.bind restriction = asked? choice := by
  cases choice with
  | none => rfl
  | some made => cases made <;> rfl

/-- A family that is not the first one makes both families occur. -/
private theorem both_of_find?_eq_some {first second : Family} {rest : List Family}
    (found : rest.find? (· ≠ first) = some second) :
    .inet ∈ first :: rest ∧ .inet6 ∈ first :: rest := by
  have different : second ≠ first := by simpa using List.find?_some found
  have secondMember := List.mem_cons_of_mem first (List.mem_of_find?_eq_some found)
  have firstMember : first ∈ first :: rest := List.mem_cons_self
  cases first with
  | inet =>
      cases second with
      | inet => contradiction
      | inet6 => exact ⟨firstMember, secondMember⟩
  | inet6 =>
      cases second with
      | inet => exact ⟨secondMember, firstMember⟩
      | inet6 => contradiction

private theorem eq_first_of_find?_eq_none {first : Family} {rest : List Family}
    (found : rest.find? (· ≠ first) = none) : ∀ family ∈ first :: rest, family = first := by
  intro family member
  rcases List.mem_cons.mp member with rfl | inRest
  · rfl
  · simpa using List.find?_eq_none.mp found family inRest

/-- Some families are in conflict exactly when both families are among them. -/
theorem commonFamily_eq_error_iff {families : List Family} :
    (∃ conflict, commonFamily families = .error conflict) ↔
      .inet ∈ families ∧ .inet6 ∈ families := by
  cases families with
  | nil => simp [commonFamily]
  | cons first rest =>
      rw [commonFamily]
      cases found : rest.find? (· ≠ first) with
      | some second =>
          constructor
          · exact fun _ => both_of_find?_eq_some found
          · exact fun _ => ⟨⟨first, second⟩, rfl⟩
      | none =>
          constructor
          · rintro ⟨conflict, ⟨⟩⟩
          · rintro ⟨inet, inet6⟩
            have same := eq_first_of_find?_eq_none found
            have equal := (same _ inet).trans (same _ inet6).symm
            contradiction

/-- The common family of some families without conflict is the one that occurs among them. -/
theorem commonFamily_eq_ok_iff {families : List Family} {common : Option Family} :
    commonFamily families = .ok common ↔
      ¬ (.inet ∈ families ∧ .inet6 ∈ families) ∧
        ∀ family, common = some family ↔ family ∈ families := by
  cases reached : commonFamily families with
  | error conflict =>
      have both := commonFamily_eq_error_iff.mp ⟨conflict, reached⟩
      constructor
      · exact nofun
      · exact fun single => absurd both single.1
  | ok found =>
      have single : ¬ (.inet ∈ families ∧ .inet6 ∈ families) := by
        rw [← commonFamily_eq_error_iff, reached]
        exact nofun
      have occurs : ∀ family, found = some family ↔ family ∈ families := by
        cases families with
        | nil =>
            cases reached
            exact fun family => ⟨nofun, nofun⟩
        | cons first rest =>
            rw [commonFamily] at reached
            cases alone : rest.find? (· ≠ first) with
            | some second =>
                rw [alone] at reached
                contradiction
            | none =>
                rw [alone] at reached
                cases reached
                intro family
                constructor
                · rintro ⟨⟩
                  exact List.mem_cons_self
                · intro member
                  rw [eq_first_of_find?_eq_none alone family member]
      constructor
      · rintro ⟨⟩
        exact ⟨single, occurs⟩
      · rintro ⟨-, others⟩
        congr
        exact Option.ext fun family => (occurs family).trans (others family).symm

end Firewall
