import Firewall.Schema.Field
import Mathlib.Data.List.Basic

/-!
# Issues and their places

What is put together from parts has the issues of the parts, in their order.  The issues of a field
are under its key, and those of the keys that no field uses are under these keys.
-/

namespace Firewall.Schema

variable {α β γ : Type}

namespace Checked

@[simp] theorem issues_map (function : α → β) (checked : Checked α) :
    (function <$> checked).issues = checked.issues := by
  cases checked <;> rfl

@[simp] theorem issues_seq (function : Checked (α → β)) (argument : Checked α) :
    (function <*> argument).issues = function.issues ++ argument.issues := by
  cases function <;> cases argument <;> simp [Seq.seq, apply, issues]

@[simp] theorem issues_seqLeft (checked : Checked α) (other : Checked β) :
    (checked <* other).issues = checked.issues ++ other.issues := by
  cases checked <;> cases other <;> simp [SeqLeft.seqLeft, apply, issues]

end Checked

/-- An issue is in a part of a document with a key. -/
def Issue.IsUnder (key : String) (issue : Issue) : Prop := issue.path.head? = some (.key key)

theorem isUnder_of_mem_under {checked : Checked α} {key : String} {issue : Issue}
    (member : issue ∈ (checked.under (.key key)).issues) : issue.IsUnder key := by
  cases checked with
  | valid value => contradiction
  | invalid issues =>
      obtain ⟨inner, -, rfl⟩ := List.mem_map.mp member
      rfl

theorem valueOf?_isSome_of_mem {members : Members} {key : String} {value : Value}
    (member : (key, value) ∈ members) : (valueOf? key members).isSome := by
  induction members with
  | nil => contradiction
  | cons first rest ih =>
      rw [valueOf?]
      split
      · rfl
      case isFalse other =>
        rcases List.mem_cons.mp member with rfl | isLater
        · exact absurd rfl other
        · exact ih isLater

/-- A field by one key that may be absent. -/
theorem field_singleton (key : String) (absent : Checked α) (read : Value → Checked α)
    (members : Members) :
    field [key] absent read members =
      match valueOf? key members with
      | none => absent
      | some value => (read value).under (.key key) := by
  rw [field, given?, List.findSome?_singleton]
  cases valueOf? key members <;> rfl

theorem isUnder_of_mem_field {key : String} {value : α} {read : Value → Checked α}
    {members : Members} {issue : Issue}
    (member : issue ∈ (field [key] (.valid value) read members).issues) : issue.IsUnder key := by
  rw [field_singleton] at member
  split at member
  · contradiction
  · exact isUnder_of_mem_under member

/-- A key that a field uses is not reported as one that no field uses. -/
theorem not_isUnder_of_mem_noOthers {fields : List (List String)} {members : Members}
    {key : String} (isField : [key] ∈ fields) {issue : Issue}
    (member : issue ∈ (noOthers fields members).issues) : ¬ issue.IsUnder key := by
  dsimp only [noOthers] at member
  split at member
  · contradiction
  · intro isUnder
    obtain ⟨⟨other, value⟩, isOther, rfl⟩ := List.mem_map.mp member
    obtain rfl : other = key := by simpa [Issue.IsUnder] using isUnder
    obtain ⟨isMember, unused⟩ := List.mem_filter.mp isOther
    obtain ⟨found, isFound⟩ := Option.isSome_iff_exists.mp (valueOf?_isSome_of_mem isMember)
    have used : other ∈ fields.filterMap fun keys => (given? keys members).map Prod.fst :=
      List.mem_filterMap.mpr ⟨[other], isField, by simp [given?, isFound]⟩
    simp [used] at unused

end Firewall.Schema
