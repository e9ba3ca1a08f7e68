import Firewall.Distinct
import Firewall.Proofs.Number.Grammar
import Firewall.Proofs.Text.Words
import Firewall.Services
import Mathlib.Data.Set.Card

/-!
# The table of a services file

The records among the lines of a file are what counts (`Services.RecordsOf`).  The table gives each
name the port of the last record that mentions it, in the order of first mention
(`Services.IsTableOf`), and the lines behind others update their table.

What one more record does to a table is said by `get?_register` and `keys_register`; the rest
follows by induction on the records.
-/

namespace Firewall

/-- A table after an update: values of the update win, keys that were there keep their place, and
new ones follow in the order of the update. -/
structure Table.IsUpdate {α β : Type} [DecidableEq α] (base update result : Table α β) : Prop where
  keys : result.keys = base.keys ++ update.keys.filter (· ∉ base.keys)
  values : ∀ key, result.get? key = (update.get? key).or (base.get? key)

namespace Services

/-! ## Records -/

/-- In front of its comment, a line has a name, a word with a port in front of its slash, and any
number of aliases. -/
inductive IsRecord : String → Record → Prop
  | intro {line : String} {name port : List Char} {aliases : List (List Char)} {number : Int} :
      Text.IsMadeOf (Text.before '#' line.toList) (name :: port :: aliases) →
      Integer.IsLiteral (Text.before '/' port) number →
      IsRecord line ⟨(name :: aliases).map String.ofList, number⟩

/-- The records among some lines, in order. -/
inductive RecordsOf : List String → List Record → Prop
  | none : RecordsOf [] []
  | record {line : String} {lines : List String} {record : Record} {records : List Record} :
      IsRecord line record → RecordsOf lines records → RecordsOf (line :: lines) (record :: records)
  | other {line : String} {lines : List String} {records : List Record} :
      (∀ record, ¬ IsRecord line record) → RecordsOf lines records →
      RecordsOf (line :: lines) records

theorem record?_eq_some_iff {line : String} {record : Record} :
    (Line.read line).record? = some record ↔ IsRecord line record := by
  constructor
  · intro isRecord
    unfold Line.read at isRecord
    split at isRecord
    case h_2 => contradiction
    case h_1 name port aliases isWords =>
      split at isRecord
      case h_2 => contradiction
      case h_1 number isNumber =>
        cases isRecord
        refine .intro (Text.words_eq_iff.mp isWords) ?_
        simpa using Integer.read_eq_ok_iff.mp isNumber
  · intro isRecord
    cases isRecord with
    | @intro name port aliases number isWords isNumber =>
        have found : wordsOf line = name :: port :: aliases := Text.words_eq_iff.mpr isWords
        have isRead : Integer.read (String.ofList (Text.before '/' port)) = .ok number :=
          Integer.read_eq_ok_iff.mpr (by simpa using isNumber)
        simp only [Line.read, found, isRead]
        rfl

theorem record?_eq_none_iff {line : String} :
    (Line.read line).record? = none ↔ ∀ record, ¬ IsRecord line record := by
  simp only [← record?_eq_some_iff, Option.eq_none_iff_forall_ne_some, ne_eq]

theorem recordsOf_filterMap (lines : List String) :
    RecordsOf lines (lines.filterMap fun line => (Line.read line).record?) := by
  induction lines with
  | nil => exact .none
  | cons line rest ih =>
      cases isRecord : (Line.read line).record? with
      | none =>
          simp only [List.filterMap_cons, isRecord]
          exact .other (record?_eq_none_iff.mp isRecord) ih
      | some record =>
          simp only [List.filterMap_cons, isRecord]
          exact .record (record?_eq_some_iff.mp isRecord) ih

/-! ## One more record -/

/-- A record gives its port to the names it mentions, and leaves the others alone. -/
theorem get?_register (services : Services) (record : Record) (name : String) :
    (services.register record).get? name =
      if name ∈ record.names then some record.port else services.get? name := by
  obtain ⟨names, port⟩ := record
  rw [register]
  induction names generalizing services with
  | nil => rfl
  | cons first rest ih =>
      rw [List.foldl_cons, ih, Table.get?_put]
      by_cases inRest : name ∈ rest
      · rw [if_pos inRest, if_pos (List.mem_cons_of_mem first inRest)]
      · by_cases same : name = first <;> simp [inRest, same, eq_comm]

/-- The names of a record come behind those of the table, unless they are there. -/
theorem keys_register (services : Services) (record : Record) :
    (services.register record).keys = distinct (services.keys ++ record.names) := by
  obtain ⟨names, port⟩ := record
  rw [register]
  induction names using List.reverseRecOn with
  | nil =>
      have kept : distinct services.keys = services.keys := distinct_of_nodup services.keysDistinct
      rw [List.append_nil, kept]
      rfl
  | append_singleton rest last ih =>
      rw [List.foldl_append, List.foldl_cons, List.foldl_nil, Table.keys_put, ih,
        ← List.append_assoc, distinct_append_singleton]
      simp only [mem_distinct]

/-! ## The table of some records -/

/-- The last record that mentions a name has a port. -/
def LastGives (records : List Record) (name : String) (port : Int) : Prop :=
  ∃ front record back, records = front ++ record :: back ∧ name ∈ record.names ∧
    record.port = port ∧ ∀ later ∈ back, name ∉ later.names

/-- A table of some records: every name has the port of the last record that mentions it, and the
names are in the order in which they are mentioned first. -/
structure IsTableOf (records : List Record) (table : Services) : Prop where
  ports : ∀ name port, table.get? name = some port ↔ LastGives records name port
  names : table.keys = distinct (records.flatMap Record.names)
  size : table.size = {name | ∃ record ∈ records, name ∈ record.names}.ncard

theorem lastGives_append_singleton {records : List Record} {record : Record} {name : String}
    {port : Int} :
    LastGives (records ++ [record]) name port ↔
      if name ∈ record.names then record.port = port else LastGives records name port := by
  constructor
  · rintro ⟨front, found, back, split, named, isPort, later⟩
    cases back using List.reverseRecOn with
    | nil =>
        obtain ⟨-, ⟨⟩⟩ := List.append_inj' split rfl
        rwa [if_pos named]
    | append_singleton between last =>
        rw [← List.cons_append, ← List.append_assoc] at split
        obtain ⟨rfl, ⟨⟩⟩ := List.append_inj' split rfl
        rw [if_neg (later record (by simp))]
        exact ⟨front, found, between, rfl, named, isPort, fun other member =>
          later other (List.mem_append_left _ member)⟩
  · split
    case isTrue named => exact fun isPort => ⟨records, record, [], rfl, named, isPort, nofun⟩
    case isFalse unnamed =>
      rintro ⟨front, found, back, rfl, named, isPort, later⟩
      refine ⟨front, found, back ++ [record], by simp, named, isPort, ?_⟩
      intro other member
      rcases List.mem_append.mp member with earlier | isLast
      · exact later other earlier
      · rwa [List.mem_singleton.mp isLast]

/-- The table to which records lead, one after the other. -/
def ofRecords (records : List Record) : Services := records.foldl register Table.empty

theorem ofRecords_append_singleton (records : List Record) (record : Record) :
    ofRecords (records ++ [record]) = (ofRecords records).register record := by
  rw [ofRecords, List.foldl_append]
  rfl

theorem get?_ofRecords_iff {records : List Record} {name : String} {port : Int} :
    (ofRecords records).get? name = some port ↔ LastGives records name port := by
  induction records using List.reverseRecOn with
  | nil =>
      constructor
      · exact nofun
      · rintro ⟨front, record, back, split, -⟩
        simp at split
  | append_singleton records record ih =>
      rw [ofRecords_append_singleton, get?_register, lastGives_append_singleton, ← ih]
      split
      · exact Option.some_inj
      · rfl

theorem keys_ofRecords (records : List Record) :
    (ofRecords records).keys = distinct (records.flatMap Record.names) := by
  induction records using List.reverseRecOn with
  | nil => rfl
  | append_singleton records record ih =>
      rw [ofRecords_append_singleton, keys_register, ih, List.flatMap_append,
        List.flatMap_singleton, distinct_append, distinct_append,
        distinct_of_nodup (nodup_distinct _)]
      simp only [mem_distinct]

theorem isTableOf_ofRecords (records : List Record) : IsTableOf records (ofRecords records) where
  ports := fun _ _ => get?_ofRecords_iff
  names := keys_ofRecords records
  size := by
    have mentioned : {name | ∃ record ∈ records, name ∈ record.names} =
        ((ofRecords records).keys.toFinset : Set String) := by
      ext name
      simp [keys_ofRecords]
    have nodup : (ofRecords records).keys.Nodup := (ofRecords records).keysDistinct
    rw [mentioned, Set.ncard_coe_finset, List.toFinset_card_of_nodup nodup]
    exact (List.length_map _).symm

/-- More records update the table of those before them. -/
theorem isUpdate_ofRecords (records more : List Record) :
    Table.IsUpdate (ofRecords records) (ofRecords more) (ofRecords (records ++ more)) where
  keys := by
    rw [keys_ofRecords, keys_ofRecords, keys_ofRecords, List.flatMap_append, distinct_append]
    simp only [mem_distinct]
  values := by
    intro name
    induction more using List.reverseRecOn with
    | nil =>
        rw [List.append_nil]
        rfl
    | append_singleton more record ih =>
        rw [← List.append_assoc, ofRecords_append_singleton, ofRecords_append_singleton,
          get?_register, get?_register, ih]
        split <;> rfl

/-! ## The table of some lines -/

/-- The table of some lines is that of the records among them, lines behind them update it, and no
line counts but the records. -/
structure LastRecordWins (lines : List String) : Prop where
  table : ∃ records, RecordsOf lines records ∧ IsTableOf records (ofLines lines)
  updates : ∀ more, Table.IsUpdate (ofLines lines) (ofLines more) (ofLines (lines ++ more))
  skips : ∀ front line back, lines = front ++ line :: back →
    (∀ record, ¬ IsRecord line record) → ofLines (front ++ back) = ofLines lines

theorem ofLines_lastRecordWins (lines : List String) : LastRecordWins lines where
  table := ⟨_, recordsOf_filterMap lines, isTableOf_ofRecords _⟩
  updates := by
    intro more
    have both := isUpdate_ofRecords
      (lines.filterMap fun line => (Line.read line).record?)
      (more.filterMap fun line => (Line.read line).record?)
    rwa [← List.filterMap_append] at both
  skips := by
    rintro front line back rfl noRecord
    have skipped := record?_eq_none_iff.mpr noRecord
    simp only [ofLines, List.filterMap_append, List.filterMap_cons, skipped]

/-- A bad port takes its names with it, and a later record changes a port in its place. -/
example :
    (ofLines ["http 80/tcp www # web", "ssh", "ftp x21/tcp ssh", "squid\u0085 8_080",
      "www ٨١"]).entries = [("http", 80), ("www", 81), ("squid", 8080)] := by
  decide +kernel

end Services

end Firewall
