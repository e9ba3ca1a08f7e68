import Firewall.Expansion.Document
import Firewall.Proofs.Build.Outcome
import Mathlib.Algebra.BigOperators.Ring.List
import Mathlib.Algebra.Ring.Nat
import Mathlib.Data.List.GetD

/-!
# The choices of an expansion

The documents that a document stands for are numbered like the readings of a counter with one wheel
for each expanded place, the last of which turns fastest.  So the digit of a number at a place says
which leaf of the place the document with the number has (`exists_getElem?_product`), and all that
is apart from the places is as it was (`expands_of_isComplete`).
-/

namespace Firewall

/-! ## Digits -/

/-- The digit of a number at a position, if every position counts up to its radix and the last one
is the least significant. -/
def digit (radices : List Nat) (position number : Nat) : Nat :=
  number / (radices.drop (position + 1)).prod % radices.getD position 1

/-- The value of a position, times its radix, divides the product of all radices. -/
theorem exists_prod_eq (radices : List Nat) (position : Nat) :
    ∃ outer, radices.prod =
      (radices.drop (position + 1)).prod * (radices.getD position 1 * outer) := by
  by_cases within : position < radices.length
  · refine ⟨(radices.take position).prod, ?_⟩
    rw [← List.prod_take_mul_prod_drop radices position, List.drop_eq_getElem_cons within,
      List.prod_cons, List.getD_eq_getElem _ _ within]
    ac_rfl
  · have behind : radices.length ≤ position := Nat.le_of_not_lt within
    refine ⟨radices.prod, ?_⟩
    rw [List.drop_eq_nil_of_le (Nat.le_succ_of_le behind), List.getD_eq_default _ _ behind]
    simp

theorem digit_cons_succ (radix : Nat) (radices : List Nat) (position number : Nat) :
    digit (radix :: radices) (position + 1) number =
      digit radices position (number % radices.prod) := by
  obtain ⟨outer, product⟩ := exists_prod_eq radices position
  rw [digit, digit, List.drop_succ_cons, List.getD_cons_succ, product,
    Nat.mod_mul_right_div_self, Nat.mod_mul_right_mod]

theorem digit_cons_zero {radix : Nat} {radices : List Nat} {number : Nat}
    (inRange : number < radix * radices.prod) :
    digit (radix :: radices) 0 number = number / radices.prod := by
  rw [digit, List.drop_succ_cons, List.drop_zero, List.getD_cons_zero]
  exact Nat.mod_eq_of_lt (Nat.div_lt_of_lt_mul (Nat.mul_comm radix _ ▸ inRange))

section Products

variable {α β : Type}

/-- Where all parts have one length, an element is found by the part and the place in it. -/
theorem getElem?_flatMap {size : Nat} {part : α → List β}
    (sizes : ∀ element, (part element).length = size) (list : List α) {number : Nat}
    (inRange : number < list.length * size) :
    (list.flatMap part)[number]? =
      list[number / size]?.bind fun element => (part element)[number % size]? := by
  induction list generalizing number with
  | nil => simp at inRange
  | cons element rest ih =>
      rw [List.flatMap_cons, List.getElem?_append, sizes]
      by_cases first : number < size
      · rw [if_pos first, Nat.div_eq_of_lt first, Nat.mod_eq_of_lt first]
        rfl
      · have later : size ≤ number := Nat.le_of_not_lt first
        have left : number - size < rest.length * size := by
          rw [List.length_cons, Nat.succ_mul] at inRange
          omega
        have positive : 0 < size := by
          by_contra zero
          simp [Nat.eq_zero_of_not_pos zero] at inRange
        rw [if_neg first, ih left, Nat.mod_eq_sub_mod later, Nat.div_eq_sub_div positive later,
          List.getElem?_cons_succ]

theorem length_product_eq_prod (lists : List (List α)) :
    (product lists).length = (lists.map List.length).prod := by
  rw [length_product]
  rfl

/-- The choice with a number takes from each list the element that the digit of the number says. -/
theorem exists_getElem?_product {lists : List (List α)} {number : Nat}
    (inRange : number < (lists.map List.length).prod) :
    ∃ combination, (product lists)[number]? = some combination ∧
      combination.length = lists.length ∧
      ∀ position choices, lists[position]? = some choices →
        ∃ choice, choices[digit (lists.map List.length) position number]? = some choice ∧
          combination[position]? = some choice := by
  induction lists generalizing number with
  | nil =>
      obtain rfl : number = 0 := by simpa using inRange
      exact ⟨[], rfl, rfl, fun position choices found => by simp at found⟩
  | cons first rest ih =>
      rw [List.map_cons, List.prod_cons] at inRange
      have positive : 0 < (rest.map List.length).prod :=
        Nat.pos_of_mul_pos_left (Nat.lt_of_le_of_lt (Nat.zero_le number) inRange)
      obtain ⟨tail, found, length, digits⟩ := ih (Nat.mod_lt number positive)
      have within : number / (rest.map List.length).prod < first.length :=
        Nat.div_lt_of_lt_mul (Nat.mul_comm first.length _ ▸ inRange)
      have sizes (choice : α) :
          ((product rest).map (choice :: ·)).length = (rest.map List.length).prod := by
        rw [List.length_map, length_product_eq_prod]
      refine ⟨first[number / (rest.map List.length).prod] :: tail, ?_, ?_, ?_⟩
      · rw [product, getElem?_flatMap sizes first inRange, List.getElem?_eq_getElem within,
          Option.bind_some, List.getElem?_map, found, Option.map_some]
      · rw [List.length_cons, length, List.length_cons]
      · intro position choices isAt
        cases position with
        | zero =>
            cases isAt
            rw [List.map_cons, digit_cons_zero inRange]
            exact ⟨_, List.getElem?_eq_getElem within, rfl⟩
        | succ position =>
            rw [List.map_cons, digit_cons_succ]
            exact digits position choices isAt

end Products

namespace Expansion

/-! ## Places -/

/-- Neither of two places is, or holds, the other. -/
def Place.IsApart : Place → Place → Prop
  | .top key, .top other => key ≠ other
  | .top key, .inside outer _ => key ≠ outer
  | .inside outer _, .top key => outer ≠ key
  | .inside outer key, .inside outer' other => outer ≠ outer' ∨ key ≠ other

instance : DecidableRel Place.IsApart := fun place other => by
  cases place <;> cases other <;> unfold Place.IsApart <;> infer_instance

variable {key outer : String} {document object value old : Value}

theorem member_assign_self (found : member key document = .ok old) :
    member key (assign key value document) = .ok value := by
  cases document with
  | object members => simp only [assign, member, valueOf?_putEntry, if_pos]
  | null | bool | int | float | text | list => contradiction

theorem member_assign_of_ne (different : key ≠ outer) :
    member outer (assign key value document) = member outer document := by
  cases document with
  | object members => simp only [assign, member, valueOf?_putEntry, if_neg different]
  | null | bool | int | float | text | list => rfl

theorem get_inside_of_ok (found : member outer document = .ok object) :
    (Place.inside outer key).get document = member key object := by
  rw [Place.get, found]
  rfl

theorem get_inside_congr (same : member outer value = member outer document) :
    (Place.inside outer key).get value = (Place.inside outer key).get document := by
  rw [Place.get, Place.get, same]

theorem set_inside_of_ok (found : member outer document = .ok object) :
    (Place.inside outer key).set value document =
      assign outer (assign key value object) document := by
  rw [Place.set, found]

theorem get_set_self {place : Place} (found : place.get document = .ok old) :
    place.get (place.set value document) = .ok value := by
  cases place with
  | top key => exact member_assign_self found
  | inside outer key =>
      cases isObject : member outer document with
      | error fault =>
          rw [Place.get, isObject] at found
          contradiction
      | ok object =>
          rw [get_inside_of_ok isObject] at found
          rw [set_inside_of_ok isObject, get_inside_of_ok (member_assign_self isObject)]
          exact member_assign_self found

/-- A place that is apart keeps its value, or goes on without one. -/
theorem get_set_of_isApart {place other : Place} (apart : place.IsApart other) :
    other.get (place.set value document) = other.get document := by
  cases place with
  | top key =>
      cases other with
      | top other => exact member_assign_of_ne apart
      | inside outer other => exact get_inside_congr (member_assign_of_ne apart)
  | inside outer key =>
      cases isObject : member outer document with
      | error fault => rw [Place.set, isObject]
      | ok object =>
          rw [set_inside_of_ok isObject]
          cases other with
          | top other => exact member_assign_of_ne apart
          | inside outer' other =>
              by_cases same : outer = outer'
              · subst same
                have different : key ≠ other := apart.resolve_left (not_not_intro rfl)
                rw [get_inside_of_ok (member_assign_self isObject), get_inside_of_ok isObject]
                exact member_assign_of_ne different
              · exact get_inside_congr (member_assign_of_ne same)

/-- Puts values at places, one after the other. -/
def setAll (document : Value) (choices : List (Place × Value)) : Value :=
  choices.foldl (fun document choice => choice.1.set choice.2 document) document

theorem get_setAll_of_isApart {choices : List (Place × Value)} {other : Place}
    (apart : ∀ choice ∈ choices, choice.1.IsApart other) :
    other.get (setAll document choices) = other.get document := by
  induction choices generalizing document with
  | nil => rfl
  | cons choice rest ih =>
      obtain ⟨first, others⟩ := List.forall_mem_cons.mp apart
      exact (ih others).trans (get_set_of_isApart first)

theorem Place.IsApart.symm {place other : Place} (apart : place.IsApart other) :
    other.IsApart place := by
  cases place with
  | top key =>
      cases other with
      | top other => exact Ne.symm apart
      | inside outer other => exact Ne.symm apart
  | inside outer key =>
      cases other with
      | top other => exact Ne.symm apart
      | inside outer' other => exact apart.imp Ne.symm Ne.symm

theorem get_setAll_of_mem {choices : List (Place × Value)}
    (apart : choices.Pairwise fun first second => first.1.IsApart second.1)
    (found : ∀ choice ∈ choices, ∃ old, choice.1.get document = .ok old) :
    ∀ choice ∈ choices, choice.1.get (setAll document choices) = .ok choice.2 := by
  induction choices generalizing document with
  | nil => exact List.forall_mem_nil _
  | cons first rest ih =>
      obtain ⟨fromFirst, apartRest⟩ := List.pairwise_cons.mp apart
      obtain ⟨⟨old, foundFirst⟩, foundRest⟩ := List.forall_mem_cons.mp found
      have kept : first.1.get (setAll (first.1.set first.2 document) rest) =
          first.1.get (first.1.set first.2 document) :=
        get_setAll_of_isApart fun choice member => (fromFirst choice member).symm
      have stillFound : ∀ choice ∈ rest, ∃ old,
          choice.1.get (first.1.set first.2 document) = .ok old := by
        intro choice member
        rw [get_set_of_isApart (fromFirst choice member)]
        exact foundRest choice member
      intro choice member
      cases List.mem_cons.mp member with
      | inl isFirst =>
          rw [isFirst, setAll, List.foldl_cons, ← setAll, kept, get_set_self foundFirst]
      | inr inRest => exact ih apartRest stillFound choice inRest

/-! ## Documents -/

def IsComplete (document : Value) : Prop :=
  ∀ place ∈ places, ∃ value, place.get document = .ok value

/-- The leaves at a place, if it has a value. -/
def leavesAt (document : Value) (place : Place) : List Value :=
  match place.get document with
  | .ok value => value.leaves
  | .error _ => []

def radices (document : Value) : List Nat :=
  places.map fun place => (leavesAt document place).length

/-- Some documents are the expansion of a document: there is one for every choice of leaves, in the
order of a counter, and all that is apart from the expanded places is as it was. -/
structure Expands (document : Value) (documents : List Value) : Prop where
  length : documents.length = (radices document).prod
  empty : 0 ∈ radices document → documents = []
  leaf : ∀ number yielded, documents[number]? = some yielded →
    ∀ position place, places[position]? = some place →
      ∃ leaf, (leavesAt document place)[digit (radices document) position number]? = some leaf ∧
        place.get yielded = .ok leaf
  others : ∀ yielded ∈ documents, ∀ other : Place, (∀ place ∈ places, place.IsApart other) →
    other.get yielded = other.get document

theorem places_pairwise_isApart : places.Pairwise Place.IsApart := by decide

theorem expand_of_isComplete (complete : IsComplete document) :
    expand document =
      .ok ((product (places.map (leavesAt document))).map (choose document)) := by
  have each : ∀ place ∈ places,
      (do return (← place.get document).leaves : Except Fault (List Value)) =
        .ok (leavesAt document place) := by
    intro place member
    obtain ⟨value, found⟩ := complete place member
    rw [leavesAt, found]
    rfl
  have choices : places.mapM (fun place => do return (← place.get document).leaves) =
      (.ok (places.map (leavesAt document)) : Except Fault (List (List Value))) := by
    rw [mapM_eq_ok_iff, List.forall₂_map_right_iff]
    exact List.forall₂_same.mpr each
  rw [expand, choices]
  rfl

/-- The places of a choice, with what is chosen for them. -/
theorem pairwise_zip {combination : List Value} (length : combination.length = places.length) :
    (places.zip combination).Pairwise fun first second => first.1.IsApart second.1 := by
  have firsts : (places.zip combination).map Prod.fst = places :=
    List.map_fst_zip (Nat.le_of_eq length.symm)
  rw [← List.pairwise_map, firsts]
  exact places_pairwise_isApart

/-- A document with a value at every place expands. -/
theorem expands_of_isComplete (complete : IsComplete document) :
    ∃ documents, expand document = .ok documents ∧ Expands document documents := by
  refine ⟨_, expand_of_isComplete complete, ?_⟩
  have length : ((product (places.map (leavesAt document))).map (choose document)).length =
      (radices document).prod := by
    rw [List.length_map, length_product_eq_prod, List.map_map]
    rfl
  constructor
  case length => exact length
  case empty =>
    intro none
    have zero : (radices document).prod = 0 := List.prod_eq_zero none
    exact List.eq_nil_of_length_eq_zero (length.trans zero)
  case leaf =>
    intro number yielded isYielded position place isPlace
    have inRange : number < ((places.map (leavesAt document)).map List.length).prod := by
      rw [List.map_map]
      exact length ▸ (List.getElem?_eq_some_iff.mp isYielded).1
    obtain ⟨combination, isCombination, count, digits⟩ := exists_getElem?_product inRange
    rw [List.getElem?_map, isCombination] at isYielded
    cases isYielded
    have isChoices : (places.map (leavesAt document))[position]? =
        some (leavesAt document place) := by
      rw [List.getElem?_map, isPlace]
      rfl
    obtain ⟨leaf, isLeaf, isChoice⟩ := digits position _ isChoices
    rw [List.map_map] at isLeaf
    refine ⟨leaf, isLeaf, ?_⟩
    have chosen : (place, leaf) ∈ places.zip combination :=
      List.mem_of_getElem? (List.getElem?_zip_eq_some.mpr ⟨isPlace, isChoice⟩)
    have found : ∀ choice ∈ places.zip combination, ∃ old, choice.1.get document = .ok old := by
      intro choice member
      exact complete choice.1 (List.of_mem_zip member).1
    exact get_setAll_of_mem (pairwise_zip (by rw [count, List.length_map])) found _ chosen
  case others =>
    intro yielded isYielded other apart
    obtain ⟨combination, -, rfl⟩ := List.mem_map.mp isYielded
    apply get_setAll_of_isApart
    intro choice member
    exact apart choice.1 (List.of_mem_zip member).1

end Expansion

end Firewall
