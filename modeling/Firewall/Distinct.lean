/-!
# Lists without repetitions

`distinct` keeps the first occurrence of every element and drops the others.
-/

namespace Firewall

variable {α : Type} [DecidableEq α]

/-- The elements of a list, each once, in the order of their first occurrences. -/
def distinct : List α → List α
  | [] => []
  | element :: rest => element :: (distinct rest).filter (· ≠ element)

@[simp] theorem mem_distinct {element : α} {list : List α} :
    element ∈ distinct list ↔ element ∈ list := by
  induction list with
  | nil => simp [distinct]
  | cons head tail ih =>
      by_cases same : element = head <;> simp [distinct, ih, same]

theorem nodup_distinct (list : List α) : (distinct list).Nodup := by
  induction list with
  | nil => simp [distinct]
  | cons head tail ih =>
      refine List.nodup_cons.mpr ⟨by simp, ?_⟩
      exact List.Pairwise.filter _ ih

theorem distinct_of_nodup {list : List α} (nodup : list.Nodup) : distinct list = list := by
  induction list with
  | nil => rfl
  | cons head tail ih =>
      obtain ⟨fresh, tailNodup⟩ := List.nodup_cons.mp nodup
      rw [distinct, ih tailNodup, List.filter_eq_self.mpr]
      intro element member
      simpa using ne_of_mem_of_not_mem member fresh

/-- Behind some elements come those that are new. -/
theorem distinct_append (list more : List α) :
    distinct (list ++ more) = distinct list ++ (distinct more).filter (· ∉ list) := by
  induction list with
  | nil => exact (List.filter_eq_self.mpr (by simp)).symm
  | cons head tail ih =>
      rw [List.cons_append, distinct, distinct, ih, List.filter_append, List.filter_filter,
        List.cons_append]
      simp [not_or]

theorem distinct_append_singleton (list : List α) (element : α) :
    distinct (list ++ [element]) =
      if element ∈ list then distinct list else distinct list ++ [element] := by
  rw [distinct_append]
  by_cases member : element ∈ list <;> simp [distinct, member]

theorem distinct_append_of_subset {list more : List α} (inside : more ⊆ list) :
    distinct (list ++ more) = distinct list := by
  rw [distinct_append, List.filter_eq_nil_iff.mpr, List.append_nil]
  intro element member
  simpa using inside (mem_distinct.mp member)

end Firewall
