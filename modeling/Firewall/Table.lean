/-!
# Tables in order of insertion

A finite map whose keys keep the place of their first insertion; a later value replaces an
earlier one where it stands.  The main lemmas say what `Table.put` does to the keys
(`keys_put`) and to the values (`get?_put`).
-/

namespace Firewall

variable {α : Type} {β : Type}

/-- Puts a value at the place of its key, or at the end if the key is new. -/
def putEntry [DecidableEq α] (key : α) (value : β) : List (α × β) → List (α × β)
  | [] => [(key, value)]
  | entry :: rest =>
      if entry.1 = key then (key, value) :: rest else entry :: putEntry key value rest

/-- The value of the first entry with a key. -/
def valueOf? [DecidableEq α] (key : α) : List (α × β) → Option β
  | [] => none
  | entry :: rest => if entry.1 = key then some entry.2 else valueOf? key rest

@[simp] theorem map_fst_putEntry [DecidableEq α] (key : α) (value : β) (entries : List (α × β)) :
    (putEntry key value entries).map Prod.fst =
      if key ∈ entries.map Prod.fst then entries.map Prod.fst
      else entries.map Prod.fst ++ [key] := by
  induction entries with
  | nil => simp [putEntry]
  | cons entry rest ih =>
      by_cases same : entry.1 = key
      · simp [putEntry, same]
      · have different : key ≠ entry.1 := fun equal => same equal.symm
        simp only [putEntry, if_neg same, List.map_cons, ih, List.mem_cons, different, false_or]
        split <;> simp

@[simp] theorem valueOf?_putEntry [DecidableEq α] (key query : α) (value : β)
    (entries : List (α × β)) :
    valueOf? query (putEntry key value entries) =
      if key = query then some value else valueOf? query entries := by
  induction entries with
  | nil => simp [putEntry, valueOf?]
  | cons entry rest ih =>
      by_cases same : entry.1 = key
      · by_cases asked : key = query <;> simp [putEntry, valueOf?, same, asked]
      · rw [putEntry, if_neg same, valueOf?, valueOf?, ih]
        by_cases asked : key = query
        · subst asked
          simp [same]
        · rw [if_neg asked, if_neg asked]

theorem valueOf?_eq_some_iff [DecidableEq α] {key : α} {value : β} {entries : List (α × β)}
    (keysDistinct : (entries.map Prod.fst).Nodup) :
    valueOf? key entries = some value ↔ (key, value) ∈ entries := by
  induction entries with
  | nil => simp [valueOf?]
  | cons entry rest ih =>
      obtain ⟨notInRest, restDistinct⟩ := List.nodup_cons.mp keysDistinct
      rw [valueOf?, List.mem_cons]
      by_cases same : entry.1 = key
      · have absent : (key, value) ∉ rest := fun member =>
          notInRest (List.mem_map.mpr ⟨(key, value), member, same.symm⟩)
        simp [absent, Prod.ext_iff, same, eq_comm]
      · have other : (key, value) ≠ entry := fun equal => same (congrArg Prod.fst equal).symm
        simp [same, other, ih restDistinct]

/-- A finite map that remembers the order in which its keys came. -/
structure Table (α β : Type) where
  entries : List (α × β)
  keysDistinct : (entries.map Prod.fst).Nodup

namespace Table

variable [DecidableEq α]

def empty : Table α β := ⟨[], by simp⟩

/-- The keys, in order of first insertion. -/
def keys (table : Table α β) : List α := table.entries.map Prod.fst

def size (table : Table α β) : Nat := table.entries.length

def get? (table : Table α β) (key : α) : Option β := valueOf? key table.entries

def contains (table : Table α β) (key : α) : Bool := (table.get? key).isSome

/-- Gives a key a value. -/
def put (table : Table α β) (key : α) (value : β) : Table α β where
  entries := putEntry key value table.entries
  keysDistinct := by
    have distinct := table.keysDistinct
    rw [map_fst_putEntry]
    split
    · exact distinct
    · rename_i fresh
      refine List.nodup_append.mpr ⟨distinct, by simp, ?_⟩
      intro other inTable last isKey
      rw [List.mem_singleton.mp isKey]
      exact fun same => fresh (same ▸ inTable)

/-- The table to which a list of entries leads, the later entry of a key replacing the earlier. -/
def ofList (entries : List (α × β)) : Table α β :=
  entries.foldl (fun table entry => table.put entry.1 entry.2) empty

omit [DecidableEq α] in
@[simp] theorem keys_empty : (empty : Table α β).keys = [] := rfl

@[simp] theorem get?_empty (key : α) : (empty : Table α β).get? key = none := rfl

@[simp] theorem keys_put (table : Table α β) (key : α) (value : β) :
    (table.put key value).keys =
      if key ∈ table.keys then table.keys else table.keys ++ [key] :=
  map_fst_putEntry key value table.entries

@[simp] theorem get?_put (table : Table α β) (key query : α) (value : β) :
    (table.put key value).get? query = if key = query then some value else table.get? query :=
  valueOf?_putEntry key query value table.entries

omit [DecidableEq α] in
theorem eq_of_entries {first second : Table α β} (same : first.entries = second.entries) :
    first = second := by
  cases first
  cases same
  rfl

theorem mem_entries_iff (table : Table α β) {key : α} {value : β} :
    (key, value) ∈ table.entries ↔ table.get? key = some value :=
  (valueOf?_eq_some_iff table.keysDistinct).symm

theorem mem_keys_iff (table : Table α β) {key : α} :
    key ∈ table.keys ↔ (table.get? key).isSome := by
  rw [keys, List.mem_map, Option.isSome_iff_exists]
  simp only [← mem_entries_iff]
  constructor
  · rintro ⟨⟨_, value⟩, member, rfl⟩
    exact ⟨value, member⟩
  · rintro ⟨value, member⟩
    exact ⟨(key, value), member, rfl⟩

end Table

end Firewall
