/-!
# Products of alternatives

`product` lists all ways to choose one element of every list; the choice from the last list varies
fastest.  There are as many ways as the product of the lengths says (`length_product`).
-/

namespace Firewall

variable {α : Type}

/-- All choices of one element from every list. -/
def product : List (List α) → List (List α)
  | [] => [[]]
  | choices :: rest => choices.flatMap fun choice => (product rest).map (choice :: ·)

theorem length_product (lists : List (List α)) :
    (product lists).length = (lists.map List.length).foldr (· * ·) 1 := by
  induction lists with
  | nil => rfl
  | cons choices rest ih =>
      simp only [product, List.length_flatMap, List.length_map, ih, List.map_cons, List.foldr_cons]
      generalize (rest.map List.length).foldr (· * ·) 1 = count
      induction choices with
      | nil => simp
      | cons choice others ih =>
          rw [List.map_cons, List.sum_cons, ih, List.length_cons, Nat.succ_mul, Nat.add_comm]

end Firewall
