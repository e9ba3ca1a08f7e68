import Firewall.Table
import Mathlib.Data.List.Basic
import Mathlib.Data.List.Induction

/-!
# Tables by their keys and values

A table is its keys in order together with their values (`Table.ext_of_get?`).  Changing all values
keeps the keys (`Table.mapWith`).
-/

namespace Firewall.Table

variable {α β γ : Type} [DecidableEq α]

theorem entries_eq_filterMap (table : Table α β) :
    table.entries = table.keys.filterMap fun key => (table.get? key).map (key, ·) := by
  have each : ∀ entry ∈ table.entries,
      ((fun key => (table.get? key).map (key, ·)) ∘ Prod.fst) entry = some entry := by
    intro entry member
    rw [Function.comp_apply, table.mem_entries_iff.mp member]
    rfl
  rw [keys, List.filterMap_map, List.filterMap_congr each, List.filterMap_some]

theorem ext_of_get? {first second : Table α β} (keys : first.keys = second.keys)
    (values : ∀ key, first.get? key = second.get? key) : first = second := by
  apply eq_of_entries
  rw [entries_eq_filterMap, entries_eq_filterMap, keys]
  simp only [values]

theorem mem_keys_of_get? {table : Table α β} {key : α} {value : β}
    (found : table.get? key = some value) : key ∈ table.keys :=
  table.mem_keys_iff.mpr (Option.isSome_of_eq_some found)

theorem putEntry_of_fresh {key : α} {entries : List (α × β)}
    (fresh : key ∉ entries.map Prod.fst) (value : β) :
    putEntry key value entries = entries ++ [(key, value)] := by
  induction entries with
  | nil => rfl
  | cons entry rest ih =>
      rw [List.map_cons, List.mem_cons, not_or] at fresh
      rw [putEntry, if_neg (Ne.symm fresh.1), ih fresh.2, List.cons_append]

/-- Entries with distinct keys are those of the table to which they lead. -/
theorem entries_ofList {entries : List (α × β)} (keysDistinct : (entries.map Prod.fst).Nodup) :
    (ofList entries).entries = entries := by
  induction entries using List.reverseRecOn with
  | nil => rfl
  | append_singleton front last ih =>
      rw [List.map_append, List.map_singleton, List.nodup_append] at keysDistinct
      obtain ⟨frontDistinct, -, apart⟩ := keysDistinct
      have fresh : last.1 ∉ front.map Prod.fst := fun member =>
        apart last.1 member last.1 (List.mem_singleton_self last.1) rfl
      rw [← ih frontDistinct] at fresh
      rw [ofList, List.foldl_append]
      exact (putEntry_of_fresh fresh last.2).trans (by rw [ih frontDistinct])

/-- A table is the one to which its entries lead. -/
theorem ofList_entries (table : Table α β) : ofList table.entries = table :=
  eq_of_entries (entries_ofList table.keysDistinct)

omit [DecidableEq α] in
/-- The table with every value changed. -/
def mapWith (change : α → β → γ) (table : Table α β) : Table α γ where
  entries := table.entries.map fun entry => (entry.1, change entry.1 entry.2)
  keysDistinct := by
    rw [List.map_map]
    exact table.keysDistinct

omit [DecidableEq α] in
@[simp] theorem keys_mapWith (change : α → β → γ) (table : Table α β) :
    (table.mapWith change).keys = table.keys := by
  rw [keys, mapWith, List.map_map]
  rfl

theorem valueOf?_map (change : α → β → γ) (entries : List (α × β)) (key : α) :
    valueOf? key (entries.map fun entry => (entry.1, change entry.1 entry.2)) =
      (valueOf? key entries).map (change key) := by
  induction entries with
  | nil => rfl
  | cons entry rest ih =>
      rw [List.map_cons, valueOf?, valueOf?, ih]
      by_cases same : entry.1 = key
      · rw [if_pos same, if_pos same, same]
        rfl
      · rw [if_neg same, if_neg same]

@[simp] theorem get?_mapWith (change : α → β → γ) (table : Table α β) (key : α) :
    (table.mapWith change).get? key = (table.get? key).map (change key) :=
  valueOf?_map change table.entries key

/-- Only the values that a table has count. -/
theorem mapWith_congr {change other : α → β → γ} {table : Table α β}
    (same : ∀ key value, table.get? key = some value → change key value = other key value) :
    table.mapWith change = table.mapWith other := by
  apply ext_of_get?
  · rw [keys_mapWith, keys_mapWith]
  · intro key
    rw [get?_mapWith, get?_mapWith]
    cases found : table.get? key with
    | none => rfl
    | some value => exact congrArg some (same key value found)

omit [DecidableEq α] in
theorem mapWith_mapWith {δ : Type} (first : α → β → γ) (second : α → γ → δ) (table : Table α β) :
    (table.mapWith first).mapWith second =
      table.mapWith fun key value => second key (first key value) := by
  apply eq_of_entries
  exact List.map_map

theorem mapWith_put (change : α → β → γ) (table : Table α β) (key : α) (value : β) :
    (table.put key value).mapWith change = (table.mapWith change).put key (change key value) := by
  apply ext_of_get?
  · simp only [keys_mapWith, keys_put]
  · intro other
    rw [get?_mapWith, get?_put, get?_put, get?_mapWith]
    by_cases same : key = other
    · rw [if_pos same, if_pos same, same]
      rfl
    · rw [if_neg same, if_neg same]

theorem mapWith_eq_put {change other : α → β → γ} {table : Table α β} {key : α} {value : β}
    (found : table.get? key = some value)
    (same : ∀ query value, query ≠ key → table.get? query = some value →
      change query value = other query value) :
    table.mapWith change = (table.mapWith other).put key (change key value) := by
  apply ext_of_get?
  · rw [keys_mapWith, keys_put, keys_mapWith, if_pos (mem_keys_of_get? found)]
  · intro query
    rw [get?_put, get?_mapWith, get?_mapWith]
    by_cases isKey : key = query
    · rw [if_pos isKey, ← isKey, found]
      rfl
    · rw [if_neg isKey]
      cases isThere : table.get? query with
      | none => rfl
      | some value => exact congrArg some (same query value (Ne.symm isKey) isThere)

end Firewall.Table
