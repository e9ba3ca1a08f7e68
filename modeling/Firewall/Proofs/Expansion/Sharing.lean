import Firewall.Proofs.Expansion.Memory

/-!
# Expansions in memory

The documents of an expansion are made on demand, and between two of them anybody may change the
ones that are there already.  A run is any sequence of such deeds (`Progress.run`).  What one deed
keeps (`Stands`), a run keeps: the given document stays as it is, a document to which nothing has
been done is still the one of the expansion, and the copies for a document depend on nothing that is
done to other documents (`expand_keeps_apart`).
-/

namespace Firewall

variable {α β ι : Type}

theorem exists_mem_of_mem_product {lists : List (List α)} {combination : List α}
    (isChoice : combination ∈ product lists) :
    ∀ element ∈ combination, ∃ list ∈ lists, element ∈ list := by
  induction lists generalizing combination with
  | nil =>
      rw [List.mem_singleton.mp isChoice]
      exact List.forall_mem_nil _
  | cons list rest ih =>
      obtain ⟨first, inList, isRest⟩ := List.mem_flatMap.mp isChoice
      obtain ⟨others, isChoiceOfRest, rfl⟩ := List.mem_map.mp isRest
      intro element member
      cases List.mem_cons.mp member with
      | inl isFirst => exact ⟨list, List.mem_cons_self, isFirst ▸ inList⟩
      | inr inOthers =>
          obtain ⟨other, inRest, inOther⟩ := ih isChoiceOfRest element inOthers
          exact ⟨other, List.mem_cons_of_mem _ inRest, inOther⟩

theorem product_map (change : ι → α → β) (list : ι → List α) (items : List ι) :
    product (items.map fun item => (list item).map (change item)) =
      (product (items.map list)).map (List.zipWith change items) := by
  induction items with
  | nil => rfl
  | cons item rest ih =>
      rw [List.map_cons, product, ih, List.map_cons, product, List.map_flatMap, List.flatMap_map]
      simp only [List.map_map, Function.comp_def, List.zipWith_cons_cons]

theorem zip_zipWith (change : α → β → ι) (first : List α) (second : List β) :
    first.zip (List.zipWith change first second) =
      (first.zip second).map fun pair => (pair.1, change pair.1 pair.2) := by
  induction first generalizing second with
  | nil => rfl
  | cons element rest ih =>
      cases second with
      | nil => rfl
      | cons other others => exact congrArg _ (ih others)

theorem mapM_eq_some_map {outcome : α → Option β} {value : α → β} {list : List α}
    (each : ∀ element ∈ list, outcome element = some (value element)) :
    list.mapM outcome = some (list.map value) := by
  induction list with
  | nil => rfl
  | cons element rest ih =>
      obtain ⟨first, others⟩ := List.forall_mem_cons.mp each
      rw [List.mapM_cons, first, ih others]
      rfl

namespace Expansion

/-! ## Alternatives in memory -/

namespace Memory

variable {memory : Memory} {source : Nat}

/-- The alternatives at a place of a document, if it holds something. -/
def alternativesAt (memory : Memory) (source : Identity) (place : Place) : List Slot :=
  ((memory.get? source place).map Slot.leaves).getD []

/-- All choices of alternatives. -/
def combinations (memory : Memory) (source : Identity) : List (List Slot) :=
  product (places.map (memory.alternativesAt source))

theorem isGiven_of_get? (closed : memory.IsClosed) {place : Place} {slot : Slot}
    (found : memory.get? (.given source) place = some slot) : slot.IsGiven := by
  cases place with
  | top key => exact closed source key slot found
  | inside outer key =>
      rw [get?] at found
      split at found
      case h_1 held isThere =>
        obtain ⟨number, rfl⟩ := given_of_mapping closed isThere
        exact closed number key slot found
      case h_2 => contradiction

theorem isGiven_of_mem_combinations (closed : memory.IsClosed) {combination : List Slot}
    (member : combination ∈ memory.combinations (.given source)) :
    ∀ slot ∈ combination, slot.IsGiven := by
  intro slot inCombination
  obtain ⟨list, isList, inList⟩ := exists_mem_of_mem_product member slot inCombination
  obtain ⟨place, -, rfl⟩ := List.mem_map.mp isList
  rw [alternativesAt] at inList
  cases found : memory.get? (.given source) place with
  | none =>
      rw [found] at inList
      exact absurd inList List.not_mem_nil
  | some whole =>
      rw [found] at inList
      intro identity referred
      exact isGiven_of_get? closed found identity (whole.references_of_mem_leaves inList referred)

theorem get_view {place : Place} {slot : Slot}
    (found : memory.get? (.given source) place = some slot) (depth : Nat) :
    place.get (memory.view (depth + 2) (.given source)) =
      .ok (memory.valueAt depth place slot) := by
  cases place with
  | top key =>
      apply member_entries
      rw [Table.get?_mapWith]
      exact congrArg _ found
  | inside outer key =>
      rw [get?] at found
      split at found
      case h_1 held isThere =>
        have isMember : member outer (memory.view (depth + 2) (.given source)) =
            .ok (memory.view (depth + 1) held) := by
          apply member_entries
          rw [Table.get?_mapWith, isThere]
          rfl
        rw [get_inside_of_ok isMember]
        apply member_entries
        rw [Table.get?_mapWith, found]
        rfl
      case h_2 => contradiction

theorem leaves_valueAt (memory : Memory) (depth : Nat) (place : Place) (slot : Slot) :
    (memory.valueAt depth place slot).leaves = slot.leaves.map (memory.valueAt depth place) := by
  cases place with
  | top key => exact slot.leaves_value (memory.leaves_view (depth + 1))
  | inside outer key => exact slot.leaves_value (memory.leaves_view depth)

theorem isComplete_view (complete : memory.IsComplete (.given source)) (depth : Nat) :
    Expansion.IsComplete (memory.view (depth + 2) (.given source)) := by
  intro place member
  obtain ⟨slot, found⟩ := complete place member
  exact ⟨_, get_view found depth⟩

theorem expand_view (complete : memory.IsComplete (.given source)) (depth : Nat) :
    expand (memory.view (depth + 2) (.given source)) =
      .ok ((memory.combinations (.given source)).map fun combination =>
        Expansion.setAll (memory.view (depth + 2) (.given source))
          ((places.zip combination).map fun choice =>
            (choice.1, memory.valueAt depth choice.1 choice.2))) := by
  have alternatives : places.map (leavesAt (memory.view (depth + 2) (.given source))) =
      places.map fun place =>
        (memory.alternativesAt (.given source) place).map (memory.valueAt depth place) := by
    apply List.map_congr_left
    intro place member
    obtain ⟨slot, found⟩ := complete place member
    rw [leavesAt, get_view found, alternativesAt, found]
    exact memory.leaves_valueAt depth place slot
  rw [expand_of_isComplete (isComplete_view complete depth), alternatives, product_map,
    List.map_map]
  simp only [combinations, Function.comp_def, Expansion.choose, zip_zipWith, Expansion.setAll]

end Memory

/-! ## Runs -/

/-- What has happened in an expansion: the memory, the number of documents that are made, and the
choices for those that wait. -/
structure Progress where
  memory : Memory
  turn : Nat
  waiting : List (List Slot)

/-- What may be done while documents are made. -/
inductive Deed where
  /-- The next document is made. -/
  | next
  /-- A copy for a document that is made gets other entries. -/
  | change (turn : Nat) (outer : Option String) (update : Table String Slot → Table String Slot)

namespace Deed

/-- The next document is made. -/
def isNext : Deed → Bool
  | .next => true
  | .change .. => false

/-- The next document is made, or something is done to a certain one. -/
def concerns (turn : Nat) : Deed → Bool
  | .next => true
  | .change other _ _ => other = turn

/-- Nothing is done to a certain document. -/
def Spares (turn : Nat) : Deed → Prop
  | .next => True
  | .change other _ _ => other ≠ turn

end Deed

namespace Progress

/-- The start of an expansion, unless a place holds nothing. -/
def start (memory : Memory) (source : Identity) : Option Progress := do
  let choices ← places.mapM fun place => (memory.get? source place).map Slot.leaves
  return ⟨memory, 0, product choices⟩

def step (source : Identity) (progress : Progress) : Deed → Progress
  | .next =>
      match progress.waiting with
      | [] => progress
      | combination :: rest =>
          ⟨progress.memory.choose source progress.turn combination, progress.turn + 1, rest⟩
  | .change turn outer update =>
      if turn < progress.turn then
        { progress with
          memory := Function.update progress.memory (.copy turn outer)
            (update (progress.memory (.copy turn outer))) }
      else progress

def run (source : Identity) (progress : Progress) (deeds : List Deed) : Progress :=
  deeds.foldl (step source) progress

theorem start_eq {memory : Memory} {source : Identity} (complete : memory.IsComplete source) :
    start memory source = some ⟨memory, 0, memory.combinations source⟩ := by
  have each : ∀ place ∈ places, (memory.get? source place).map Slot.leaves =
      some (memory.alternativesAt source place) := by
    intro place member
    obtain ⟨slot, found⟩ := complete place member
    rw [Memory.alternativesAt, found]
    rfl
  rw [start, mapM_eq_some_map each]
  rfl

theorem step_next_of_nil {source : Identity} {progress : Progress}
    (waiting : progress.waiting = []) : progress.step source .next = progress := by
  rw [step, waiting]

theorem step_next_of_cons {source : Identity} {progress : Progress} {combination : List Slot}
    {rest : List (List Slot)} (waiting : progress.waiting = combination :: rest) :
    progress.step source .next =
      ⟨progress.memory.choose source progress.turn combination, progress.turn + 1, rest⟩ := by
  rw [step, waiting]

/-! ## What deeds leave -/

/-- What the deeds so far have left: the given documents as they were, and the documents to which
nothing has been done as they were made. -/
structure Stands (memory : Memory) (source : Nat) (combinations : List (List Slot))
    (done : List Deed) (progress : Progress) : Prop where
  given : memory.AgreesOnGiven progress.memory
  waiting : progress.waiting = combinations.drop progress.turn
  turn : progress.turn = min (done.countP Deed.isNext) combinations.length
  made : ∀ turn combination, turn < progress.turn → combinations[turn]? = some combination →
    (∀ deed ∈ done, deed.Spares turn) →
    Memory.AgreesOn turn (memory.choose (.given source) turn combination) progress.memory

variable {memory : Memory} {source : Nat} {combinations : List (List Slot)} {done : List Deed}
  {progress : Progress}

theorem stands_start (memory : Memory) (source : Nat) (combinations : List (List Slot)) :
    Stands memory source combinations [] ⟨memory, 0, combinations⟩ := by
  constructor
  case given => exact fun _ => rfl
  case waiting => rfl
  case turn => exact (Nat.zero_min _).symm
  case made => exact fun turn combination early => absurd early (Nat.not_lt_zero turn)

/-- The choice for the next document, and those that wait behind it. -/
theorem Stands.next (stands : Stands memory source combinations done progress)
    {combination : List Slot} {rest : List (List Slot)}
    (waiting : progress.waiting = combination :: rest) :
    combinations[progress.turn]? = some combination ∧
      combinations.drop (progress.turn + 1) = rest := by
  have dropped : combinations.drop progress.turn = combination :: rest :=
    stands.waiting.symm.trans waiting
  rw [← List.head?_drop, ← List.tail_drop, dropped]
  exact ⟨rfl, rfl⟩

/-- Deeds leave things standing when something is done to a document. -/
theorem stands_change (stands : Stands memory source combinations done progress) (turn : Nat)
    (outer : Option String) (update : Table String Slot → Table String Slot) :
    Stands memory source combinations (done ++ [.change turn outer update])
      (progress.step (.given source) (.change turn outer update)) := by
  have count : (done ++ [Deed.change turn outer update]).countP Deed.isNext =
      done.countP Deed.isNext := by
    rw [List.countP_append]
    rfl
  rw [step]
  split
  case isTrue =>
    constructor
    case given => exact stands.given.trans (Memory.agreesOnGiven_update _ turn outer _)
    case waiting => exact stands.waiting
    case turn =>
      rw [count]
      exact stands.turn
    case made =>
      intro other combination early isChoice spares
      obtain ⟨sparesBefore, sparesLast⟩ := List.forall_mem_append.mp spares
      have different : turn ≠ other := sparesLast _ (List.mem_singleton_self _)
      exact (stands.made other combination early isChoice sparesBefore).trans
        (Memory.agreesOn_update_other different _ outer _)
  case isFalse =>
    constructor
    case given => exact stands.given
    case waiting => exact stands.waiting
    case turn =>
      rw [count]
      exact stands.turn
    case made =>
      intro other combination early isChoice spares
      exact stands.made other combination early isChoice (List.forall_mem_append.mp spares).1

/-- Two expansions are in step and agree on the copies for a document. -/
structure Matches (turn : Nat) (first second : Progress) : Prop where
  agrees : Memory.AgreesOn turn first.memory second.memory
  turn : second.turn = first.turn
  waiting : second.waiting = first.waiting

theorem matches_change {other : Progress} {turn : Nat} (agree : Matches turn progress other)
    (outer : Option String) (update : Table String Slot → Table String Slot) :
    Matches turn (progress.step (.given source) (.change turn outer update))
      (other.step (.given source) (.change turn outer update)) := by
  rw [step, step, agree.turn]
  split
  case isTrue => exact ⟨Memory.agreesOn_update agree.agrees outer update, rfl, agree.waiting⟩
  case isFalse => exact agree

/-- What is done to another document makes no difference. -/
theorem matches_change_other {other : Progress} {turn changed : Nat} (different : changed ≠ turn)
    (agree : Matches turn progress other) (outer : Option String)
    (update : Table String Slot → Table String Slot) :
    Matches turn (progress.step (.given source) (.change changed outer update)) other := by
  rw [step]
  split
  case isTrue =>
    refine ⟨?_, agree.turn, agree.waiting⟩
    exact (Memory.agreesOn_update_other different _ outer _).symm.trans agree.agrees
  case isFalse => exact agree

section Making

variable (closed : memory.IsClosed) (complete : memory.IsComplete (.given source))
  (given : ∀ combination ∈ combinations, ∀ slot ∈ combination, slot.IsGiven)

include closed complete given

/-- Deeds leave things standing when one more document is made. -/
theorem stands_next (stands : Stands memory source combinations done progress) :
    Stands memory source combinations (done ++ [.next]) (progress.step (.given source) .next) := by
  have count : (done ++ [Deed.next]).countP Deed.isNext = done.countP Deed.isNext + 1 := by
    rw [List.countP_append]
    rfl
  have turn := stands.turn
  have spared {turn : Nat} (spares : ∀ deed ∈ done ++ [Deed.next], deed.Spares turn) :
      ∀ deed ∈ done, deed.Spares turn :=
    fun deed member => spares deed (List.mem_append_left _ member)
  cases waiting : progress.waiting with
  | nil =>
      have ended : combinations.length ≤ progress.turn := by
        rw [stands.waiting] at waiting
        exact List.drop_eq_nil_iff.mp waiting
      rw [step_next_of_nil waiting]
      constructor
      case given => exact stands.given
      case waiting => exact stands.waiting
      case turn => omega
      case made =>
        intro turn combination early isChoice spares
        exact stands.made turn combination early isChoice (spared spares)
  | cons combination rest =>
      obtain ⟨isNext, behind⟩ := stands.next waiting
      have within : progress.turn < combinations.length := (List.getElem?_eq_some_iff.mp isNext).1
      have isGiven := given combination (List.mem_of_getElem? isNext)
      have stillClosed := Memory.isClosed_of_agrees closed stands.given
      have stillComplete := Memory.isComplete_of_agrees closed complete stands.given
      rw [step_next_of_cons waiting]
      constructor
      case given =>
        apply stands.given.trans
        exact Memory.agreesOnGiven_choose stillClosed stillComplete isGiven progress.turn
      case waiting => exact behind.symm
      case turn =>
        change progress.turn + 1 = _
        omega
      case made =>
        -- The document is the one that is made now, or it was there and its copies are others.
        intro turn other early isChoice spares
        cases Nat.lt_succ_iff_lt_or_eq.mp early with
        | inr last =>
            subst last
            cases isNext.symm.trans isChoice
            exact Memory.agreesOn_choose closed complete isGiven stands.given progress.turn
        | inl before =>
            apply (stands.made turn other before isChoice (spared spares)).trans
            exact Memory.agreesOn_choose_other stillClosed stillComplete isGiven
              (Nat.ne_of_gt before)

theorem stands_step (stands : Stands memory source combinations done progress) (deed : Deed) :
    Stands memory source combinations (done ++ [deed]) (progress.step (.given source) deed) := by
  cases deed with
  | next => exact stands_next closed complete given stands
  | change turn outer update => exact stands_change stands turn outer update

/-- Whatever is done, things stand. -/
theorem stands_run (stands : Stands memory source combinations done progress) (deeds : List Deed) :
    Stands memory source combinations (done ++ deeds) (progress.run (.given source) deeds) := by
  induction deeds generalizing done progress with
  | nil =>
      rw [List.append_nil]
      exact stands
  | cons deed rest ih =>
      have later := ih (stands_step closed complete given stands deed)
      rw [List.append_assoc] at later
      exact later

theorem matches_next {other : Progress} {others : List Deed} {turn : Nat}
    (stands : Stands memory source combinations done progress)
    (standsOther : Stands memory source combinations others other)
    (agree : Matches turn progress other) :
    Matches turn (progress.step (.given source) .next) (other.step (.given source) .next) := by
  cases waiting : progress.waiting with
  | nil =>
      rw [step_next_of_nil waiting, step_next_of_nil (agree.waiting.trans waiting)]
      exact agree
  | cons combination rest =>
      have isGiven := given combination (List.mem_of_getElem? (stands.next waiting).1)
      have closedFirst := Memory.isClosed_of_agrees closed stands.given
      have completeFirst := Memory.isComplete_of_agrees closed complete stands.given
      have closedOther := Memory.isClosed_of_agrees closed standsOther.given
      have completeOther := Memory.isComplete_of_agrees closed complete standsOther.given
      rw [step_next_of_cons waiting, step_next_of_cons (agree.waiting.trans waiting), agree.turn]
      refine ⟨?_, rfl, rfl⟩
      by_cases same : progress.turn = turn
      · rw [same]
        exact Memory.agreesOn_choose closedFirst completeFirst isGiven agree.agrees.given turn
      · have first := Memory.agreesOn_choose_other closedFirst completeFirst isGiven same
        have second := Memory.agreesOn_choose_other closedOther completeOther isGiven same
        exact first.symm.trans (agree.agrees.trans second)

/-- A document comes out of a run as it comes out of what concerns it. -/
theorem matches_run {other : Progress} {others : List Deed} {turn : Nat}
    (stands : Stands memory source combinations done progress)
    (standsOther : Stands memory source combinations others other)
    (agree : Matches turn progress other) (deeds : List Deed) :
    Matches turn (progress.run (.given source) deeds)
      (other.run (.given source) (deeds.filter (Deed.concerns turn))) := by
  induction deeds generalizing progress other done others with
  | nil => exact agree
  | cons deed rest ih =>
      have later := stands_step closed complete given stands deed
      have laterOther := stands_step closed complete given standsOther deed
      cases deed with
      | next =>
          exact ih later laterOther
            (matches_next closed complete given stands standsOther agree)
      | change changed outer update =>
          by_cases same : changed = turn
          · subst same
            rw [List.filter_cons_of_pos (by simp [Deed.concerns])]
            exact ih later laterOther (matches_change agree outer update)
          · rw [List.filter_cons_of_neg (by simpa [Deed.concerns] using same)]
            exact ih later standsOther (matches_change_other same agree outer update)

end Making

end Progress

/-- What a run leaves of an expansion in memory.  As many documents are made as are asked for, up to
all; the given document is seen as before; a document to which nothing is done is seen as the one of
the expansion with its number; and the copies for a document are changed only by what is done to
them. -/
structure KeepsApart (memory : Memory) (source : Nat) (progress : Progress) (deeds : List Deed) :
    Prop where
  turn : (progress.run (.given source) deeds).turn =
    min (deeds.countP Deed.isNext) progress.waiting.length
  stays : ∀ depth, (progress.run (.given source) deeds).memory.view depth (.given source) =
    memory.view depth (.given source)
  made : ∀ depth, ∃ documents,
    expand (memory.view (depth + 2) (.given source)) = .ok documents ∧
      documents.length = progress.waiting.length ∧
      ∀ turn < (progress.run (.given source) deeds).turn, (∀ deed ∈ deeds, deed.Spares turn) →
        documents[turn]? = some
          ((progress.run (.given source) deeds).memory.view (depth + 2) (.copy turn none))
  own : ∀ turn outer, (progress.run (.given source) deeds).memory (.copy turn outer) =
    (progress.run (.given source) (deeds.filter (Deed.concerns turn))).memory (.copy turn outer)

theorem keepsApart_of_isComplete {memory : Memory} {source : Nat} (closed : memory.IsClosed)
    (complete : memory.IsComplete (.given source)) (deeds : List Deed) :
    KeepsApart memory source ⟨memory, 0, memory.combinations (.given source)⟩ deeds := by
  have given : ∀ combination ∈ memory.combinations (.given source),
      ∀ slot ∈ combination, slot.IsGiven :=
    fun combination member => Memory.isGiven_of_mem_combinations closed member
  have start := Progress.stands_start memory source (memory.combinations (.given source))
  have stands := Progress.stands_run closed complete given start deeds
  rw [List.nil_append] at stands
  constructor
  case turn => exact stands.turn
  case stays => exact fun depth => Memory.view_given closed stands.given depth source
  case made =>
    intro depth
    refine ⟨_, Memory.expand_view complete depth, by rw [List.length_map], ?_⟩
    intro turn early spares
    have within : turn < (memory.combinations (.given source)).length := by
      have count := stands.turn
      omega
    have isChoice := List.getElem?_eq_getElem within
    have isGiven := given _ (List.getElem_mem within)
    have agrees := stands.made turn _ early isChoice spares
    have holds := Memory.holdsCopies_choose closed complete isGiven turn
    have stillClosed := Memory.isClosed_of_agrees closed
      (Memory.agreesOnGiven_choose closed complete isGiven turn)
    rw [List.getElem?_map, isChoice, Option.map_some,
      Memory.view_of_agreesOn stillClosed holds agrees, Memory.view_choose closed complete isGiven]
  case own =>
    intro turn outer
    have same : Progress.Matches turn
        (⟨memory, 0, memory.combinations (.given source)⟩ : Progress)
        ⟨memory, 0, memory.combinations (.given source)⟩ :=
      ⟨Memory.agreesOn_refl turn memory, rfl, rfl⟩
    exact ((Progress.matches_run closed complete given start start same deeds).agrees.copies
      outer).symm

/-- A document with a value at every expanded place stands for one document for every choice of
leaves, in the order of a counter.  In memory these documents are made one by one, and neither the
given document nor another one changes with what is done to one of them. -/
theorem expand_keeps_apart :
    (∀ document, IsComplete document →
      ∃ documents, expand document = .ok documents ∧ Expands document documents) ∧
    ∀ (memory : Memory) (source : Nat), memory.IsClosed → memory.IsComplete (.given source) →
      ∃ progress, Progress.start memory (.given source) = some progress ∧
        ∀ deeds, KeepsApart memory source progress deeds := by
  constructor
  · intro document complete
    exact expands_of_isComplete complete
  · intro memory source closed complete
    exact ⟨_, Progress.start_eq complete, keepsApart_of_isComplete closed complete⟩

/-- A document whose source and destination are one mapping. -/
def sharedMemory : Memory
  | .given 0 => Table.ofList [("proto", .list [.text "tcp", .list [.text "udp"]]),
      ("from", .mapping (.given 1)), ("to", .mapping (.given 1)), ("nat_to", .null),
      ("rdr_to", .mapping (.given 2)), ("on", .text "eth0")]
  | .given 1 => Table.ofList [("host", .null), ("port", .list [.int 80, .int 443])]
  | .given 2 => Table.ofList [("host", .null), ("port", .null)]
  | _ => Table.empty

theorem shared_isClosed : sharedMemory.IsClosed := by
  have ofDocument : (sharedMemory (.given 0)).entries.flatMap (·.2.references) =
      [.given 1, .given 1, .given 2] := by decide +kernel
  have ofEndpoint : (sharedMemory (.given 1)).entries.flatMap (·.2.references) = [] := by
    decide +kernel
  have ofRedirect : (sharedMemory (.given 2)).entries.flatMap (·.2.references) = [] := by
    decide +kernel
  intro number key slot found identity referred
  have isReference : identity ∈ (sharedMemory (.given number)).entries.flatMap (·.2.references) :=
    List.mem_flatMap.mpr ⟨_, (Table.mem_entries_iff _).mpr found, referred⟩
  match number, found, isReference with
  | 0, _, isReference =>
      rw [ofDocument] at isReference
      have isGiven : identity = .given 1 ∨ identity = .given 2 := by simpa using isReference
      exact isGiven.elim (⟨1, ·⟩) (⟨2, ·⟩)
  | 1, _, isReference =>
      rw [ofEndpoint] at isReference
      exact absurd isReference List.not_mem_nil
  | 2, _, isReference =>
      rw [ofRedirect] at isReference
      exact absurd isReference List.not_mem_nil
  | _ + 3, found, _ => contradiction

/-- Something is done to the first of two documents when it is made. -/
def sharedDeeds : List Deed :=
  [.next, .change 0 (some "to") (·.put "port" (.int 22)), .next]

theorem shared_keeps_apart :
    sharedMemory.IsClosed ∧ sharedMemory.IsComplete (.given 0) ∧
    ∃ progress, Progress.start sharedMemory (.given 0) = some progress ∧
      progress.waiting.length = 8 ∧ KeepsApart sharedMemory 0 progress sharedDeeds ∧
      ∃ documents, expand (sharedMemory.view 2 (.given 0)) = .ok documents ∧
        Expands (sharedMemory.view 2 (.given 0)) documents ∧
        documents[1]? = some
          ((progress.run (.given 0) sharedDeeds).memory.view 2 (.copy 1 none)) := by
  have closed := shared_isClosed
  have filled : ∀ place ∈ places, (sharedMemory.get? (.given 0) place).isSome := by decide +kernel
  have complete : sharedMemory.IsComplete (.given 0) := fun place member =>
    Option.isSome_iff_exists.mp (filled place member)
  obtain ⟨documents, isExpansion, expands⟩ :=
    expand_keeps_apart.1 _ (Memory.isComplete_view complete 0)
  obtain ⟨progress, started, keeps⟩ := expand_keeps_apart.2 sharedMemory 0 closed complete
  have count : (Progress.start sharedMemory (.given 0)).map (·.waiting.length) = some 8 := by
    decide +kernel
  rw [started] at count
  have waiting : progress.waiting.length = 8 := Option.some.inj count
  obtain ⟨same, isSame, -, made⟩ := (keeps sharedDeeds).made 0
  cases isExpansion.symm.trans isSame
  refine ⟨closed, complete, progress, started, waiting, keeps sharedDeeds, documents, isExpansion,
    expands, made 1 ?_ ?_⟩
  · rw [(keeps sharedDeeds).turn, waiting]
    decide
  · simp [sharedDeeds, Deed.Spares]

end Expansion

end Firewall
