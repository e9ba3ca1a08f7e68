import Mathlib.Data.List.Perm.Basic

/-!
# Grouping by a key

Items are grouped by their keys: the groups follow one another in the order of some distinct keys.
Grouping only moves items (`groupBy_perm`), and those with one key keep their order
(`filter_groupBy`).
-/

namespace Firewall

variable {α κ : Type} [DecidableEq κ] {key : α → κ}

/-- The items whose key is among some keys, those with the first key in front. -/
def groupBy (key : α → κ) (keys : List κ) (items : List α) : List α :=
  keys.flatMap fun wanted => items.filter fun item => key item = wanted

/-- Grouping by distinct keys only moves items. -/
theorem groupBy_perm {keys : List κ} (distinct : keys.Nodup) (items : List α) :
    (groupBy key keys items).Perm (items.filter fun item => key item ∈ keys) := by
  induction keys with
  | nil => simp [groupBy]
  | cons wanted rest ih =>
      obtain ⟨fresh, restDistinct⟩ := List.nodup_cons.mp distinct
      have here : items.filter (fun item => key item = wanted) =
          (items.filter fun item => key item ∈ wanted :: rest).filter
            fun item => key item = wanted := by
        rw [List.filter_filter]
        apply List.filter_congr
        intro item _
        by_cases same : key item = wanted <;> simp [same]
      have elsewhere : items.filter (fun item => key item ∈ rest) =
          (items.filter fun item => key item ∈ wanted :: rest).filter
            fun item => !decide (key item = wanted) := by
        rw [List.filter_filter]
        apply List.filter_congr
        intro item _
        by_cases same : key item = wanted <;> simp [same, fresh]
      have both := List.filter_append_perm (fun item => decide (key item = wanted))
        (items.filter fun item => key item ∈ wanted :: rest)
      rw [← here, ← elsewhere] at both
      exact ((ih restDistinct).append_left _).trans both

/-- Grouping by distinct keys keeps the order of the items with one key. -/
theorem filter_groupBy {keys : List κ} (distinct : keys.Nodup) (items : List α) (wanted : κ) :
    (groupBy key keys items).filter (fun item => key item = wanted) =
      (items.filter fun item => key item ∈ keys).filter fun item => key item = wanted := by
  induction keys with
  | nil => simp [groupBy]
  | cons first rest ih =>
      obtain ⟨fresh, restDistinct⟩ := List.nodup_cons.mp distinct
      have split : groupBy key (first :: rest) items =
          items.filter (fun item => key item = first) ++ groupBy key rest items := rfl
      rw [split, List.filter_append, ih restDistinct]
      simp only [List.filter_filter]
      by_cases same : first = wanted
      -- The first group is the wanted one, and nothing of it comes later.
      · have later : items.filter
            (fun item => decide (key item = wanted) && decide (key item ∈ rest)) = [] := by
          rw [List.filter_eq_nil_iff]
          intro item _
          by_cases isWanted : key item = wanted <;> simp [isWanted, same ▸ fresh]
        rw [later, List.append_nil]
        apply List.filter_congr
        intro item _
        by_cases isWanted : key item = wanted <;> simp [isWanted, same]
      -- The first group holds nothing that is wanted.
      · have here : items.filter
            (fun item => decide (key item = wanted) && decide (key item = first)) = [] := by
          rw [List.filter_eq_nil_iff]
          intro item _
          by_cases isWanted : key item = wanted <;> simp [isWanted, Ne.symm same]
        rw [here, List.nil_append]
        apply List.filter_congr
        intro item _
        by_cases isWanted : key item = wanted <;> simp [isWanted, Ne.symm same]

end Firewall
