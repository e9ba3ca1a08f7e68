/-!
# Address families

The two families of addresses, and the choice that a policy makes between them.  Choosing any
family is the same as making no choice: `FamilyChoice.restriction` says which family, if any, a
choice insists on.
-/

namespace Firewall

/-- A family of addresses. -/
inductive Family where
  /-- IPv4. -/
  | inet
  /-- IPv6. -/
  | inet6
  deriving DecidableEq, Repr

namespace Family

def name : Family → String
  | .inet => "inet"
  | .inet6 => "inet6"

end Family

/-- A choice of family, as a policy writes it. -/
inductive FamilyChoice where
  /-- One family. -/
  | only (family : Family)
  /-- Either family. -/
  | any
  deriving DecidableEq, Repr

namespace FamilyChoice

def name : FamilyChoice → String
  | .only family => family.name
  | .any => "any"

def all : List FamilyChoice := [.only .inet, .only .inet6, .any]

def ofName? (word : String) : Option FamilyChoice :=
  all.find? fun choice => choice.name == word

/-- The family that a choice insists on. -/
def restriction : FamilyChoice → Option Family
  | .only family => some family
  | .any => none

theorem ofName?_name (choice : FamilyChoice) : ofName? choice.name = some choice := by
  rcases choice with family | _
  · cases family <;> decide
  · decide

end FamilyChoice

/-- Two different families where there can be only one, in the order of their appearance. -/
structure FamilyConflict where
  first : Family
  second : Family
  deriving DecidableEq, Repr

/-- The message of a conflict: the two families, the one met first in front. -/
def FamilyConflict.message (conflict : FamilyConflict) : String :=
  "rule mixes address families: " ++ conflict.first.name ++ ", " ++ conflict.second.name

/-- The one family of some families, if there are any; two different ones are a conflict. -/
def commonFamily : List Family → Except FamilyConflict (Option Family)
  | [] => .ok none
  | first :: rest =>
      match rest.find? (· ≠ first) with
      | none => .ok (some first)
      | some second => .error ⟨first, second⟩

theorem commonFamily_eq_ok_some_iff {families : List Family} {family : Family} :
    commonFamily families = .ok (some family) ↔
      families ≠ [] ∧ ∀ other ∈ families, other = family := by
  cases families with
  | nil => simp [commonFamily]
  | cons first rest =>
      simp only [commonFamily]
      split
      · rename_i same
        simp only [List.find?_eq_none, ne_eq, decide_not, Bool.not_eq_true',
          decide_eq_false_iff_not, Decidable.not_not] at same
        simp only [Except.ok.injEq, Option.some.injEq, List.mem_cons, forall_eq_or_imp]
        constructor
        · rintro rfl
          exact ⟨by simp, rfl, same⟩
        · exact fun all => all.2.1
      · rename_i second found
        have different := List.find?_some found
        have inRest := List.mem_of_find?_eq_some found
        simp only [reduceCtorEq, false_iff, not_and, List.mem_cons, forall_eq_or_imp]
        rintro - rfl all
        simp [all second inRest] at different

end Firewall
