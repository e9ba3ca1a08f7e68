import Firewall.Proofs.Expansion.Choices
import Firewall.Proofs.Table

/-!
# Documents in memory

In memory a document is a mapping, and the mappings that it holds are objects of their own, which it
may share with other documents.  The documents of an expansion are made there one by one: each is a
copy of the given document and of the mappings that it holds, and a choice of leaves is written into
the copies (`Memory.choose`).

Seen to any depth, such a document is the one that `choose` makes of the given one
(`Memory.view_choose`), and to make it changes nothing but its copies (`Memory.choose_of_not_copy`).
-/

namespace Firewall.Expansion

/-- The identity of a mapping. -/
inductive Identity where
  /-- A mapping that was there before. -/
  | given (number : Nat)
  /-- A copy for the document with a number: of the given document, or of what it holds at a key. -/
  | copy (turn : Nat) (outer : Option String)
  deriving DecidableEq, Repr

/-- What a mapping holds at a key.  Lists are never changed, so they stand for themselves. -/
inductive Slot where
  | null
  | bool (truth : Bool)
  | int (number : Int)
  | float (number : Binary64)
  | text (content : String)
  | list (items : List Slot)
  | mapping (identity : Identity)

/-- What all mappings hold. -/
abbrev Memory := Identity → Table String Slot

/-- The key of the member of a document in which a place is, unless it is in the document itself. -/
def Place.outer? : Place → Option String
  | .top _ => none
  | .inside outer _ => some outer

/-- The key of a place where it is. -/
def Place.key : Place → String
  | .top key => key
  | .inside _ key => key

namespace Slot

mutual

/-- The alternatives that a slot holds: the leaves of a list, or the slot itself. -/
def leaves : Slot → List Slot
  | .list items => leavesOfItems items
  | slot => [slot]

def leavesOfItems : List Slot → List Slot
  | [] => []
  | item :: rest => item.leaves ++ leavesOfItems rest

end

mutual

def references : Slot → List Identity
  | .mapping identity => [identity]
  | .list items => referencesOfItems items
  | _ => []

def referencesOfItems : List Slot → List Identity
  | [] => []
  | item :: rest => item.references ++ referencesOfItems rest

end

mutual

/-- The value of a slot, if the values of mappings are known. -/
def value (view : Identity → Value) : Slot → Value
  | .null => .null
  | .bool truth => .bool truth
  | .int number => .int number
  | .float number => .float number
  | .text content => .text content
  | .list items => .list (valuesOfItems view items)
  | .mapping identity => view identity

def valuesOfItems (view : Identity → Value) : List Slot → List Value
  | [] => []
  | item :: rest => item.value view :: valuesOfItems view rest

end

/-- Only mappings are referred to that were there before. -/
def IsGiven (slot : Slot) : Prop :=
  ∀ identity ∈ slot.references, ∃ number, identity = .given number

variable {view other : Identity → Value}

mutual

theorem value_congr (slot : Slot)
    (same : ∀ identity ∈ slot.references, view identity = other identity) :
    slot.value view = slot.value other := by
  cases slot with
  | null | bool | int | float | text => rfl
  | list items => exact congrArg Value.list (valuesOfItems_congr items same)
  | mapping identity => exact same identity (List.mem_singleton_self identity)

theorem valuesOfItems_congr (items : List Slot)
    (same : ∀ identity ∈ referencesOfItems items, view identity = other identity) :
    valuesOfItems view items = valuesOfItems other items := by
  match items with
  | [] => rfl
  | item :: rest =>
      obtain ⟨ofItem, ofRest⟩ := List.forall_mem_append.mp same
      rw [valuesOfItems, valuesOfItems, value_congr item ofItem, valuesOfItems_congr rest ofRest]

end

mutual

theorem leaves_value (mappings : ∀ identity, (view identity).leaves = [view identity])
    (slot : Slot) :
    (slot.value view).leaves = slot.leaves.map (value view) := by
  cases slot with
  | null | bool | int | float | text => rfl
  | list items => exact leavesOfItems_value mappings items
  | mapping identity => exact mappings identity

theorem leavesOfItems_value (mappings : ∀ identity, (view identity).leaves = [view identity])
    (items : List Slot) :
    Firewall.leavesOfItems (valuesOfItems view items) = (leavesOfItems items).map (value view) := by
  match items with
  | [] => rfl
  | item :: rest =>
      rw [valuesOfItems, Firewall.leavesOfItems, leavesOfItems, List.map_append,
        leaves_value mappings item, leavesOfItems_value mappings rest]

end

mutual

theorem references_of_mem_leaves (slot : Slot) {leaf : Slot} (member : leaf ∈ slot.leaves) :
    leaf.references ⊆ slot.references := by
  cases slot with
  | null | bool | int | float | text | mapping =>
      rw [List.mem_singleton.mp member]
      exact List.Subset.refl _
  | list items => exact references_of_mem_leavesOfItems items member

theorem references_of_mem_leavesOfItems (items : List Slot) {leaf : Slot}
    (member : leaf ∈ leavesOfItems items) : leaf.references ⊆ referencesOfItems items := by
  match items with
  | [] => exact absurd member List.not_mem_nil
  | item :: rest =>
      cases List.mem_append.mp member with
      | inl inItem =>
          exact List.subset_append_of_subset_left _ (references_of_mem_leaves item inItem)
      | inr inRest =>
          exact List.subset_append_of_subset_right _ (references_of_mem_leavesOfItems rest inRest)

end

end Slot

namespace Memory

variable {memory later : Memory} {identity : Identity} {slot : Slot}

/-- A mapping as a value, with the mappings in it seen to a depth. -/
def view (memory : Memory) : Nat → Identity → Value
  | 0, _ => .object []
  | depth + 1, identity =>
      .object ((memory identity).mapWith fun _ slot => slot.value (memory.view depth)).entries

/-- What a mapping holds as values, with the mappings in it seen to a depth. -/
def values (memory : Memory) (depth : Nat) (identity : Identity) : Table String Value :=
  (memory identity).mapWith fun _ slot => slot.value (memory.view depth)

/-- What was there before refers to nothing else. -/
def IsClosed (memory : Memory) : Prop :=
  ∀ number key slot, (memory (.given number)).get? key = some slot → slot.IsGiven

/-- What was there before is the same in both. -/
def AgreesOnGiven (memory later : Memory) : Prop :=
  ∀ number, later (.given number) = memory (.given number)

theorem AgreesOnGiven.trans {last : Memory} (first : memory.AgreesOnGiven later)
    (second : later.AgreesOnGiven last) : memory.AgreesOnGiven last :=
  fun number => (second number).trans (first number)

theorem leaves_view (memory : Memory) (depth : Nat) (identity : Identity) :
    (memory.view depth identity).leaves = [memory.view depth identity] := by
  cases depth <;> rfl

/-- Mappings that hold the same are seen alike if what they hold is. -/
theorem view_succ_congr {other : Identity} {depth : Nat} (same : later other = memory identity)
    (each : ∀ key slot, (memory identity).get? key = some slot →
      slot.value (later.view depth) = slot.value (memory.view depth)) :
    later.view (depth + 1) other = memory.view (depth + 1) identity := by
  have values : (memory identity).mapWith (fun _ slot => slot.value (later.view depth)) =
      memory.values depth identity := Table.mapWith_congr each
  rw [view, same, values]
  rfl

theorem view_given (closed : memory.IsClosed) (agrees : memory.AgreesOnGiven later) (depth : Nat)
    (number : Nat) : later.view depth (.given number) = memory.view depth (.given number) := by
  induction depth generalizing number with
  | zero => rfl
  | succ depth ih =>
      apply view_succ_congr (agrees number)
      intro key slot found
      apply slot.value_congr
      intro identity referred
      obtain ⟨other, rfl⟩ := closed number key slot found identity referred
      exact ih other

theorem value_given (closed : memory.IsClosed) (agrees : memory.AgreesOnGiven later) (depth : Nat)
    (isGiven : slot.IsGiven) : slot.value (later.view depth) = slot.value (memory.view depth) := by
  apply slot.value_congr
  intro identity referred
  obtain ⟨number, rfl⟩ := isGiven identity referred
  exact view_given closed agrees depth number

/-- A mapping that holds what another one does is seen like it. -/
theorem view_of_eq (closed : memory.IsClosed) (agrees : memory.AgreesOnGiven later)
    {other : Identity} (same : later other = memory identity)
    (isGiven : ∀ key slot, (memory identity).get? key = some slot → slot.IsGiven) (depth : Nat) :
    later.view depth other = memory.view depth identity := by
  cases depth with
  | zero => rfl
  | succ depth =>
      apply view_succ_congr same
      intro key slot found
      exact value_given closed agrees depth (isGiven key slot found)

/-! ## Copies -/

/-- What a copy holds for a slot at a key: a copy of a mapping, and else the slot itself. -/
def copied (turn : Nat) (key : String) : Slot → Slot
  | .mapping _ => .mapping (.copy turn (some key))
  | slot => slot

/-- Copies a document, and the mappings that it holds. -/
def copy (memory : Memory) (source : Identity) (turn : Nat) : Memory
  | .given number => memory (.given number)
  | .copy other outer =>
      if other = turn then
        match outer with
        | none => (memory source).mapWith (copied turn)
        | some key =>
            match (memory source).get? key with
            | some (.mapping held) => memory held
            | _ => Table.empty
      else memory (.copy other outer)

def get? (memory : Memory) (document : Identity) : Place → Option Slot
  | .top key => (memory document).get? key
  | .inside outer key =>
      match (memory document).get? outer with
      | some (.mapping held) => (memory held).get? key
      | _ => none

/-- Puts a slot at a key of a mapping. -/
def put (memory : Memory) (identity : Identity) (key : String) (slot : Slot) : Memory :=
  Function.update memory identity ((memory identity).put key slot)

/-- Puts a slot at a place of a document. -/
def set (memory : Memory) (document : Identity) (slot : Slot) : Place → Memory
  | .top key => memory.put document key slot
  | .inside outer key =>
      match (memory document).get? outer with
      | some (.mapping held) => memory.put held key slot
      | _ => memory

/-- Puts slots at places of a document, one after the other. -/
def setAll (memory : Memory) (document : Identity) (choices : List (Place × Slot)) : Memory :=
  choices.foldl (fun memory choice => memory.set document choice.2 choice.1) memory

/-- Makes the document for one choice of alternatives. -/
def choose (memory : Memory) (source : Identity) (turn : Nat) (combination : List Slot) : Memory :=
  (memory.copy source turn).setAll (.copy turn none) (places.zip combination)

/-- Every expanded place of a document holds something. -/
def IsComplete (memory : Memory) (source : Identity) : Prop :=
  ∀ place ∈ places, ∃ slot, memory.get? source place = some slot

/-- The copies for a document hold what was there before, and the copy of the document holds the
other copies. -/
structure HoldsCopies (memory : Memory) (turn : Nat) : Prop where
  top : ∀ key slot, (memory (.copy turn none)).get? key = some slot →
    slot.IsGiven ∨ slot = .mapping (.copy turn (some key))
  inner : ∀ outer key slot, (memory (.copy turn (some outer))).get? key = some slot → slot.IsGiven
  linked : ∀ outer key, .inside outer key ∈ places →
    (memory (.copy turn none)).get? outer = some (.mapping (.copy turn (some outer)))

variable {source : Nat} {turn : Nat}

theorem given_of_mapping (closed : memory.IsClosed) {key : String} {held : Identity}
    (found : (memory (.given source)).get? key = some (.mapping held)) :
    ∃ number, held = .given number :=
  closed source key _ found held (List.mem_singleton_self held)

theorem agreesOnGiven_copy (memory : Memory) (source : Identity) (turn : Nat) :
    memory.AgreesOnGiven (memory.copy source turn) := fun _ => rfl

theorem copy_none (memory : Memory) (source : Identity) (turn : Nat) :
    memory.copy source turn (.copy turn none) = (memory source).mapWith (copied turn) := by
  rw [copy, if_pos rfl]

theorem copy_some {source held : Identity} {key : String}
    (found : (memory source).get? key = some (.mapping held)) :
    memory.copy source turn (.copy turn (some key)) = memory held := by
  rw [copy, if_pos rfl]
  simp only [found]

theorem copy_of_ne {source : Identity} {other : Nat} (different : other ≠ turn)
    (outer : Option String) :
    memory.copy source turn (.copy other outer) = memory (.copy other outer) := by
  cases outer with
  | none => rw [copy, if_neg different]
  | some key => rw [copy, if_neg different]

theorem holdsCopies_copy (closed : memory.IsClosed) (complete : memory.IsComplete (.given source))
    (turn : Nat) : (memory.copy (.given source) turn).HoldsCopies turn := by
  constructor
  case top =>
    intro key slot found
    rw [copy_none, Table.get?_mapWith] at found
    obtain ⟨original, isThere, rfl⟩ := Option.map_eq_some_iff.mp found
    cases original with
    | mapping held => exact .inr rfl
    | null | bool | int | float | text | list => exact .inl (closed source key _ isThere)
  case inner =>
    intro outer key slot found
    rw [copy, if_pos rfl] at found
    split at found
    case h_1 held isThere =>
      obtain ⟨number, rfl⟩ := given_of_mapping closed isThere
      exact closed number key slot found
    case h_2 => contradiction
  case linked =>
    intro outer key member
    obtain ⟨slot, found⟩ := complete _ member
    rw [get?] at found
    split at found
    case h_1 held isThere =>
      rw [copy_none, Table.get?_mapWith, isThere]
      rfl
    case h_2 => contradiction

theorem view_copy (closed : memory.IsClosed) (source turn depth : Nat) :
    (memory.copy (.given source) turn).view (depth + 2) (.copy turn none) =
      memory.view (depth + 2) (.given source) := by
  have agrees := memory.agreesOnGiven_copy (.given source) turn
  have same : ((memory (.given source)).mapWith (copied turn)).mapWith
        (fun _ slot => slot.value ((memory.copy (.given source) turn).view (depth + 1))) =
      (memory (.given source)).mapWith fun _ slot => slot.value (memory.view (depth + 1)) := by
    rw [Table.mapWith_mapWith]
    apply Table.mapWith_congr
    intro key slot found
    cases slot with
    | mapping held =>
        obtain ⟨number, rfl⟩ := given_of_mapping closed found
        exact view_of_eq closed agrees (copy_some found) (closed number) (depth + 1)
    | null | bool | int | float | text | list =>
        exact value_given closed agrees (depth + 1) (closed source key _ found)
  rw [view, view, copy_none, same]

/-! ## Choices -/

/-- The value of a slot that is put at a place. -/
def valueAt (memory : Memory) (depth : Nat) : Place → Slot → Value
  | .top _ => Slot.value (memory.view (depth + 1))
  | .inside _ _ => Slot.value (memory.view depth)

theorem valueAt_given (closed : memory.IsClosed) (agrees : memory.AgreesOnGiven later) (depth : Nat)
    (place : Place) (isGiven : slot.IsGiven) :
    later.valueAt depth place slot = memory.valueAt depth place slot := by
  cases place with
  | top key => exact value_given closed agrees (depth + 1) isGiven
  | inside outer key => exact value_given closed agrees depth isGiven

theorem put_of_ne {other : Identity} (different : other ≠ identity) (key : String) (slot : Slot) :
    memory.put identity key slot other = memory other :=
  Function.update_of_ne different _ _

theorem put_self (memory : Memory) (identity : Identity) (key : String) (slot : Slot) :
    memory.put identity key slot identity = (memory identity).put key slot :=
  Function.update_self _ _ _

/-- A slot is put into the copy that the place is in. -/
theorem set_eq_put (holds : memory.HoldsCopies turn) {place : Place} (member : place ∈ places)
    (slot : Slot) :
    memory.set (.copy turn none) slot place =
      memory.put (.copy turn place.outer?) place.key slot := by
  cases place with
  | top key => rfl
  | inside outer key =>
      rw [set, holds.linked outer key member]
      rfl

theorem agreesOnGiven_update (memory : Memory) (turn : Nat) (outer : Option String)
    (entries : Table String Slot) :
    memory.AgreesOnGiven (Function.update memory (.copy turn outer) entries) :=
  fun _ => Function.update_of_ne (by simp) _ _

theorem agreesOnGiven_put (memory : Memory) (outer : Option String) (key : String) (slot : Slot) :
    memory.AgreesOnGiven (memory.put (.copy turn outer) key slot) :=
  memory.agreesOnGiven_update turn outer _

theorem ne_of_mem_places {key outer inner : String} (isTop : .top key ∈ places)
    (isInside : .inside outer inner ∈ places) : key ≠ outer := by
  have apart : ∀ place ∈ places, ∀ other ∈ places, place ≠ other → place.IsApart other := by decide
  exact apart _ isTop _ isInside (by simp)

/-- What was there before may be put into the copy of the document. -/
theorem holdsCopies_put_top (holds : memory.HoldsCopies turn) {key : String}
    (member : .top key ∈ places) (isGiven : slot.IsGiven) :
    (memory.put (.copy turn none) key slot).HoldsCopies turn := by
  constructor
  case top =>
    intro query found isThere
    rw [put_self, Table.get?_put] at isThere
    split at isThere
    · cases isThere
      exact .inl isGiven
    · exact holds.top query found isThere
  case inner =>
    intro outer query found isThere
    rw [put_of_ne (by simp)] at isThere
    exact holds.inner outer query found isThere
  case linked =>
    intro outer inner isInside
    rw [put_self, Table.get?_put, if_neg (ne_of_mem_places member isInside)]
    exact holds.linked outer inner isInside

/-- What was there before may be put into the copy of a member. -/
theorem holdsCopies_put_inside (holds : memory.HoldsCopies turn) (outer key : String)
    (isGiven : slot.IsGiven) :
    (memory.put (.copy turn (some outer)) key slot).HoldsCopies turn := by
  have top : memory.put (.copy turn (some outer)) key slot (.copy turn none) =
      memory (.copy turn none) := put_of_ne (by simp) key slot
  constructor
  case top =>
    intro query found isThere
    rw [top] at isThere
    exact holds.top query found isThere
  case inner =>
    intro other query found isThere
    by_cases same : other = outer
    · rw [same, put_self, Table.get?_put] at isThere
      split at isThere
      · cases isThere
        exact isGiven
      · exact holds.inner outer query found isThere
    · rw [put_of_ne (by simpa using same)] at isThere
      exact holds.inner other query found isThere
  case linked =>
    intro other inner isInside
    rw [top]
    exact holds.linked other inner isInside

theorem holdsCopies_put (holds : memory.HoldsCopies turn) {place : Place} (member : place ∈ places)
    (isGiven : slot.IsGiven) :
    (memory.put (.copy turn place.outer?) place.key slot).HoldsCopies turn := by
  cases place with
  | top key => exact holdsCopies_put_top holds member isGiven
  | inside outer key => exact holdsCopies_put_inside holds outer key isGiven

theorem member_entries {table : Table String Value} {key : String} {value : Value}
    (found : table.get? key = some value) : member key (.object table.entries) = .ok value := by
  have isThere : valueOf? key table.entries = some value := found
  simp only [member, isThere]

/-- What a copy holds is seen as before if only other copies are changed. -/
theorem view_slot_eq (closed : memory.IsClosed) (holds : memory.HoldsCopies turn)
    (agrees : memory.AgreesOnGiven later) {key : String} {found : Slot}
    (isThere : (memory (.copy turn none)).get? key = some found)
    (same : later (.copy turn (some key)) = memory (.copy turn (some key))) (depth : Nat) :
    found.value (later.view depth) = found.value (memory.view depth) := by
  cases holds.top key found isThere with
  | inl isGiven => exact value_given closed agrees depth isGiven
  | inr isCopy =>
      rw [isCopy]
      exact view_of_eq closed agrees same (holds.inner key) depth

theorem view_put_top (closed : memory.IsClosed) (holds : memory.HoldsCopies turn) (key : String)
    (isGiven : slot.IsGiven) (depth : Nat) :
    (memory.put (.copy turn none) key slot).view (depth + 2) (.copy turn none) =
      assign key (slot.value (memory.view (depth + 1)))
        (memory.view (depth + 2) (.copy turn none)) := by
  have agrees : memory.AgreesOnGiven (memory.put (.copy turn none) key slot) :=
    memory.agreesOnGiven_put none key slot
  have others : (memory (.copy turn none)).mapWith (fun _ found =>
        found.value ((memory.put (.copy turn none) key slot).view (depth + 1))) =
      memory.values (depth + 1) (.copy turn none) := by
    apply Table.mapWith_congr
    intro query found isThere
    exact view_slot_eq closed holds agrees isThere (put_of_ne (by simp) key slot) (depth + 1)
  change Value.object (Table.mapWith _ (memory.put (.copy turn none) key slot _)).entries = _
  rw [put_self, Table.mapWith_put, others, value_given closed agrees (depth + 1) isGiven]
  rfl

/-- What is put into the copy of a member is seen there, and this copy is seen in the document. -/
theorem view_put_inside (closed : memory.IsClosed) (holds : memory.HoldsCopies turn)
    {outer key : String} (member : .inside outer key ∈ places) (isGiven : slot.IsGiven)
    (depth : Nat) :
    (memory.put (.copy turn (some outer)) key slot).view (depth + 2) (.copy turn none) =
      assign outer
        (assign key (slot.value (memory.view depth))
          (memory.view (depth + 1) (.copy turn (some outer))))
        (memory.view (depth + 2) (.copy turn none)) := by
  have agrees : memory.AgreesOnGiven (memory.put (.copy turn (some outer)) key slot) :=
    memory.agreesOnGiven_put (some outer) key slot
  have top : memory.put (.copy turn (some outer)) key slot (.copy turn none) =
      memory (.copy turn none) := put_of_ne (by simp) key slot
  have others : (memory (.copy turn (some outer))).mapWith (fun _ found =>
        found.value ((memory.put (.copy turn (some outer)) key slot).view depth)) =
      memory.values depth (.copy turn (some outer)) := by
    apply Table.mapWith_congr
    intro query found isThere
    exact value_given closed agrees depth (holds.inner outer query found isThere)
  have inner : (memory.put (.copy turn (some outer)) key slot).view (depth + 1)
        (.copy turn (some outer)) =
      assign key (slot.value (memory.view depth))
        (memory.view (depth + 1) (.copy turn (some outer))) := by
    rw [view, put_self, Table.mapWith_put, others, value_given closed agrees depth isGiven]
    rfl
  have elsewhere (query : String) (found : Slot) (different : query ≠ outer)
      (isThere : (memory (.copy turn none)).get? query = some found) :
      found.value ((memory.put (.copy turn (some outer)) key slot).view (depth + 1)) =
        found.value (memory.view (depth + 1)) :=
    view_slot_eq closed holds agrees isThere (put_of_ne (by simpa using different) key slot)
      (depth + 1)
  rw [view, top, Table.mapWith_eq_put (holds.linked outer key member) elsewhere, Slot.value, inner]
  rfl

/-- What is put at a place of a copy is seen there. -/
theorem view_put (closed : memory.IsClosed) (holds : memory.HoldsCopies turn) {place : Place}
    (member : place ∈ places) (isGiven : slot.IsGiven) (depth : Nat) :
    (memory.put (.copy turn place.outer?) place.key slot).view (depth + 2) (.copy turn none) =
      place.set (memory.valueAt depth place slot) (memory.view (depth + 2) (.copy turn none)) := by
  cases place with
  | top key => exact view_put_top closed holds key isGiven depth
  | inside outer key =>
      have isMember : Expansion.member outer (memory.view (depth + 2) (.copy turn none)) =
          .ok (memory.view (depth + 1) (.copy turn (some outer))) := by
        apply member_entries
        rw [Table.get?_mapWith, holds.linked outer key member]
        rfl
      rw [set_inside_of_ok isMember]
      exact view_put_inside closed holds member isGiven depth

/-! ## Documents of choices -/

/-- Slots that were there before are to be put at expanded places. -/
def AreGiven (choices : List (Place × Slot)) : Prop :=
  ∀ choice ∈ choices, choice.1 ∈ places ∧ choice.2.IsGiven

theorem isClosed_of_agrees (closed : memory.IsClosed) (agrees : memory.AgreesOnGiven later) :
    later.IsClosed := by
  intro number key slot found
  rw [agrees number] at found
  exact closed number key slot found

theorem holdsCopies_setAll (holds : memory.HoldsCopies turn) {choices : List (Place × Slot)}
    (given : AreGiven choices) : (memory.setAll (.copy turn none) choices).HoldsCopies turn := by
  induction choices generalizing memory with
  | nil => exact holds
  | cons choice rest ih =>
      obtain ⟨⟨member, isGiven⟩, others⟩ := List.forall_mem_cons.mp given
      rw [setAll, List.foldl_cons, ← setAll, set_eq_put holds member]
      exact ih (holdsCopies_put holds member isGiven) others

/-- Only the copies for a document change when slots are put into it. -/
theorem setAll_of_not_copy (holds : memory.HoldsCopies turn) {choices : List (Place × Slot)}
    (given : AreGiven choices) (different : ∀ outer, identity ≠ .copy turn outer) :
    memory.setAll (.copy turn none) choices identity = memory identity := by
  induction choices generalizing memory with
  | nil => rfl
  | cons choice rest ih =>
      obtain ⟨⟨member, isGiven⟩, others⟩ := List.forall_mem_cons.mp given
      rw [setAll, List.foldl_cons, ← setAll, set_eq_put holds member,
        ih (holdsCopies_put holds member isGiven) others, put_of_ne (different _)]

/-- What is put into a copy, one after the other, is seen there. -/
theorem view_setAll (closed : memory.IsClosed) (holds : memory.HoldsCopies turn)
    {choices : List (Place × Slot)} (given : AreGiven choices) (depth : Nat) :
    (memory.setAll (.copy turn none) choices).view (depth + 2) (.copy turn none) =
      Expansion.setAll (memory.view (depth + 2) (.copy turn none))
        (choices.map fun choice => (choice.1, memory.valueAt depth choice.1 choice.2)) := by
  induction choices generalizing memory with
  | nil => rfl
  | cons choice rest ih =>
      obtain ⟨⟨member, isGiven⟩, others⟩ := List.forall_mem_cons.mp given
      have agrees : memory.AgreesOnGiven
          (memory.put (.copy turn choice.1.outer?) choice.1.key choice.2) :=
        memory.agreesOnGiven_put choice.1.outer? choice.1.key choice.2
      have values : rest.map (fun other => (other.1, (memory.put (.copy turn choice.1.outer?)
            choice.1.key choice.2).valueAt depth other.1 other.2)) =
          rest.map fun other => (other.1, memory.valueAt depth other.1 other.2) := by
        apply List.map_congr_left
        intro other isOther
        rw [valueAt_given closed agrees depth other.1 (others other isOther).2]
      rw [setAll, List.foldl_cons, ← setAll, set_eq_put holds member,
        ih (isClosed_of_agrees closed agrees) (holdsCopies_put holds member isGiven) others, values,
        view_put closed holds member isGiven, List.map_cons, Expansion.setAll, Expansion.setAll,
        List.foldl_cons]

theorem areGiven_zip {combination : List Slot} (given : ∀ slot ∈ combination, slot.IsGiven) :
    AreGiven (places.zip combination) := by
  intro choice member
  obtain ⟨isPlace, isSlot⟩ := List.of_mem_zip member
  exact ⟨isPlace, given _ isSlot⟩

section Choosing

variable (closed : memory.IsClosed) (complete : memory.IsComplete (.given source))
  {combination : List Slot} (given : ∀ slot ∈ combination, slot.IsGiven)

include closed complete given

theorem holdsCopies_choose (turn : Nat) :
    (memory.choose (.given source) turn combination).HoldsCopies turn :=
  holdsCopies_setAll (holdsCopies_copy closed complete turn) (areGiven_zip given)

/-- To make a document changes nothing but its copies. -/
theorem choose_of_not_copy (different : ∀ outer, identity ≠ .copy turn outer) :
    memory.choose (.given source) turn combination identity = memory identity := by
  rw [choose, setAll_of_not_copy (holdsCopies_copy closed complete turn) (areGiven_zip given)
    different]
  cases identity with
  | given number => rfl
  | copy other outer =>
      apply copy_of_ne
      intro same
      exact different outer (by rw [same])

theorem agreesOnGiven_choose (turn : Nat) :
    memory.AgreesOnGiven (memory.choose (.given source) turn combination) :=
  fun _ => choose_of_not_copy closed complete given (by simp)

/-- The document that is made is seen as the one for the choice among what is seen. -/
theorem view_choose (turn depth : Nat) :
    (memory.choose (.given source) turn combination).view (depth + 2) (.copy turn none) =
      Expansion.setAll (memory.view (depth + 2) (.given source))
        ((places.zip combination).map fun choice =>
          (choice.1, memory.valueAt depth choice.1 choice.2)) := by
  have agrees := memory.agreesOnGiven_copy (.given source) turn
  have values : (places.zip combination).map (fun choice =>
        (choice.1, (memory.copy (.given source) turn).valueAt depth choice.1 choice.2)) =
      (places.zip combination).map fun choice =>
        (choice.1, memory.valueAt depth choice.1 choice.2) := by
    apply List.map_congr_left
    intro choice member
    rw [valueAt_given closed agrees depth choice.1 (areGiven_zip given choice member).2]
  rw [choose, view_setAll (isClosed_of_agrees closed agrees)
    (holdsCopies_copy closed complete turn) (areGiven_zip given), values, view_copy closed]

end Choosing

/-! ## Memories that agree -/

/-- Two memories agree on what was there before and on the copies for a document. -/
structure AgreesOn (turn : Nat) (memory later : Memory) : Prop where
  given : memory.AgreesOnGiven later
  copies : ∀ outer, later (.copy turn outer) = memory (.copy turn outer)

theorem agreesOn_refl (turn : Nat) (memory : Memory) : AgreesOn turn memory memory :=
  ⟨fun _ => rfl, fun _ => rfl⟩

theorem AgreesOn.trans {last : Memory} (first : AgreesOn turn memory later)
    (second : AgreesOn turn later last) : AgreesOn turn memory last where
  given := first.given.trans second.given
  copies := fun outer => (second.copies outer).trans (first.copies outer)

theorem AgreesOn.symm (agrees : AgreesOn turn memory later) : AgreesOn turn later memory where
  given := fun number => (agrees.given number).symm
  copies := fun outer => (agrees.copies outer).symm

/-- What is done to the copies for one document leaves those for another as they are. -/
theorem agreesOn_update_other {other : Nat} (different : other ≠ turn) (memory : Memory)
    (outer : Option String) (entries : Table String Slot) :
    AgreesOn turn memory (Function.update memory (.copy other outer) entries) where
  given := memory.agreesOnGiven_update other outer entries
  copies := fun _ => Function.update_of_ne (by simp [different.symm]) _ _

/-- What is done to a copy is done alike where it is alike. -/
theorem agreesOn_update (agrees : AgreesOn turn memory later) (outer : Option String)
    (update : Table String Slot → Table String Slot) :
    AgreesOn turn
      (Function.update memory (.copy turn outer) (update (memory (.copy turn outer))))
      (Function.update later (.copy turn outer) (update (later (.copy turn outer)))) := by
  rw [agrees.copies outer]
  constructor
  case given =>
    intro number
    rw [agreesOnGiven_update, agreesOnGiven_update, agrees.given number]
  case copies =>
    intro other
    by_cases same : other = outer
    · rw [same, Function.update_self, Function.update_self]
    · have different : Identity.copy turn other ≠ .copy turn outer := by simpa using same
      rw [Function.update_of_ne different, Function.update_of_ne different, agrees.copies other]

theorem HoldsCopies.of_agreesOn (holds : memory.HoldsCopies turn)
    (agrees : AgreesOn turn memory later) : later.HoldsCopies turn := by
  constructor
  case top =>
    intro key slot found
    rw [agrees.copies] at found
    exact holds.top key slot found
  case inner =>
    intro outer key slot found
    rw [agrees.copies] at found
    exact holds.inner outer key slot found
  case linked =>
    intro outer key member
    rw [agrees.copies]
    exact holds.linked outer key member

/-- A document is seen alike in memories that agree on it. -/
theorem view_of_agreesOn (closed : memory.IsClosed) (holds : memory.HoldsCopies turn)
    (agrees : AgreesOn turn memory later) (depth : Nat) :
    later.view (depth + 2) (.copy turn none) = memory.view (depth + 2) (.copy turn none) := by
  apply view_succ_congr (agrees.copies none)
  intro key found isThere
  exact view_slot_eq closed holds agrees.given isThere (agrees.copies (some key)) (depth + 1)

theorem agreesOn_put (agrees : AgreesOn turn memory later) (outer : Option String) (key : String)
    (slot : Slot) :
    AgreesOn turn (memory.put (.copy turn outer) key slot)
      (later.put (.copy turn outer) key slot) :=
  agreesOn_update agrees outer fun entries => entries.put key slot

theorem agreesOn_setAll (holds : memory.HoldsCopies turn) (agrees : AgreesOn turn memory later)
    {choices : List (Place × Slot)} (given : AreGiven choices) :
    AgreesOn turn (memory.setAll (.copy turn none) choices)
      (later.setAll (.copy turn none) choices) := by
  induction choices generalizing memory later with
  | nil => exact agrees
  | cons choice rest ih =>
      obtain ⟨⟨member, isGiven⟩, others⟩ := List.forall_mem_cons.mp given
      rw [setAll, setAll, List.foldl_cons, List.foldl_cons, ← setAll, ← setAll,
        set_eq_put holds member, set_eq_put (holds.of_agreesOn agrees) member]
      exact ih (holdsCopies_put holds member isGiven) (agreesOn_put agrees _ _ _) others

theorem agreesOn_copy (closed : memory.IsClosed) (agrees : memory.AgreesOnGiven later)
    (source turn : Nat) :
    AgreesOn turn (memory.copy (.given source) turn) (later.copy (.given source) turn) := by
  constructor
  case given => exact agrees
  case copies =>
    intro outer
    cases outer with
    | none => rw [copy_none, copy_none, agrees source]
    | some key =>
        rw [copy, copy, if_pos rfl, if_pos rfl, agrees source]
        split
        case h_1 held isThere =>
          obtain ⟨number, rfl⟩ := given_of_mapping closed isThere
          exact agrees number
        case h_2 => rfl

theorem agreesOn_choose_other (closed : memory.IsClosed)
    (complete : memory.IsComplete (.given source)) {combination : List Slot}
    (given : ∀ slot ∈ combination, slot.IsGiven) {other : Nat} (different : other ≠ turn) :
    AgreesOn turn memory (memory.choose (.given source) other combination) where
  given := agreesOnGiven_choose closed complete given other
  copies := fun _ => choose_of_not_copy closed complete given (by simp [different.symm])

/-- A document holds the same at a place if what was there before is the same. -/
theorem get?_of_agrees (closed : memory.IsClosed) (agrees : memory.AgreesOnGiven later)
    (source : Nat) (place : Place) :
    later.get? (.given source) place = memory.get? (.given source) place := by
  cases place with
  | top key => rw [get?, get?, agrees source]
  | inside outer key =>
      rw [get?, get?, agrees source]
      split
      case h_1 held isThere =>
        obtain ⟨number, rfl⟩ := given_of_mapping closed isThere
        rw [agrees number]
      case h_2 => rfl

theorem isComplete_of_agrees (closed : memory.IsClosed)
    (complete : memory.IsComplete (.given source)) (agrees : memory.AgreesOnGiven later) :
    later.IsComplete (.given source) := by
  intro place member
  rw [get?_of_agrees closed agrees]
  exact complete place member

/-- The same document is made in all memories with the same given documents. -/
theorem agreesOn_choose (closed : memory.IsClosed) (complete : memory.IsComplete (.given source))
    {combination : List Slot} (given : ∀ slot ∈ combination, slot.IsGiven)
    (agrees : memory.AgreesOnGiven later) (turn : Nat) :
    AgreesOn turn (memory.choose (.given source) turn combination)
      (later.choose (.given source) turn combination) :=
  agreesOn_setAll (holdsCopies_copy closed complete turn) (agreesOn_copy closed agrees source turn)
    (areGiven_zip given)

end Memory

end Firewall.Expansion
