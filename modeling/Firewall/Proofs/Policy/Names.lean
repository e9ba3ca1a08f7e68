import Firewall.Policy.Basic
import Firewall.Proofs.Rule.Parts
import Firewall.Proofs.Schema.Issues
import Firewall.Proofs.Table

/-!
# The names of a policy

The names of a policy are sound if each of them has addresses that can be read (`AreSound`).  A
policy is read with sound names only, and the first fault of other names is told as an issue of the
document, unless its message or a key of the document is not whole (`Policy.settledByNames`).
-/

namespace Firewall

open Schema

/-! ## Faults -/

/-- There are addresses, and all of them can be read. -/
def AreAddresses (texts : List String) : Prop :=
  texts ≠ [] ∧ ∀ text ∈ texts, ∃ address, Address.read text = .ok address

def AreSound (names : List (String × List String)) : Prop :=
  ∀ entry ∈ names, AreAddresses entry.2

/-- What is wrong with a name: it has no addresses, or here is the first that cannot be read. -/
inductive NameFault.IsOf : NameFault → String × List String → Prop
  | noAddresses {name : String} : IsOf (.noAddresses name) (name, [])
  | badAddress {name text : String} {front back : List String} {malformed : Address.Malformed} :
      (∀ earlier ∈ front, ∃ address, Address.read earlier = .ok address) →
      Address.read text = .error malformed →
      IsOf (.badAddress name text) (name, front ++ text :: back)

/-- What is wrong with some names: all names before this one are sound. -/
def NameFault.IsFirst (fault : NameFault) (names : List (String × List String)) : Prop :=
  ∃ front entry back, names = front ++ entry :: back ∧ AreSound front ∧ fault.IsOf entry

theorem read?_eq_some_iff {text : String} {address : Address} :
    Address.read? text = some address ↔ Address.read text = .ok address := by
  rw [Address.read?]
  cases Address.read text <;> simp [Except.toOption]

theorem read?_isNone_iff {text : String} :
    (Address.read? text).isNone = true ↔ ∃ malformed, Address.read text = .error malformed := by
  rw [Address.read?]
  cases Address.read text <;> simp [Except.toOption]

theorem read?_isNone_eq_false_iff {text : String} :
    (Address.read? text).isNone = false ↔ ∃ address, Address.read text = .ok address := by
  simp only [Option.isNone_eq_false_iff, Option.isSome_iff_exists, read?_eq_some_iff]

theorem nameFault?_eq_some_iff {entry : String × List String} {fault : NameFault} :
    nameFault? entry.1 entry.2 = some fault ↔ fault.IsOf entry := by
  obtain ⟨name, texts⟩ := entry
  constructor
  · intro found
    rw [nameFault?] at found
    split at found
    case isTrue empty =>
      obtain rfl := List.isEmpty_iff.mp empty
      cases found
      exact .noAddresses
    case isFalse =>
      obtain ⟨text, isFirst, rfl⟩ := Option.map_eq_some_iff.mp found
      obtain ⟨unreadable, front, back, rfl, earlier⟩ := List.find?_eq_some_iff_append.mp isFirst
      obtain ⟨malformed, isMalformed⟩ := read?_isNone_iff.mp unreadable
      refine .badAddress ?_ isMalformed
      intro text member
      exact read?_isNone_eq_false_iff.mp (by simpa using earlier text member)
  · intro isOf
    cases isOf with
    | noAddresses => rfl
    | @badAddress _ text front back malformed earlier isMalformed =>
        have isFirst : (front ++ text :: back).find? (fun text => (Address.read? text).isNone) =
            some text := by
          refine List.find?_eq_some_iff_append.mpr
            ⟨read?_isNone_iff.mpr ⟨_, isMalformed⟩, front, back, rfl, fun text member => ?_⟩
          simpa using read?_isNone_eq_false_iff.mpr (earlier text member)
        rw [nameFault?, isFirst]
        simp

theorem nameFault?_eq_none_iff {entry : String × List String} :
    nameFault? entry.1 entry.2 = none ↔ AreAddresses entry.2 := by
  obtain ⟨name, texts⟩ := entry
  rw [nameFault?, AreAddresses]
  cases texts with
  | nil => simp
  | cons text rest =>
      rw [if_neg (by simp), Option.map_eq_none_iff, List.find?_eq_none]
      simp only [Bool.not_eq_true, read?_isNone_eq_false_iff, ne_eq, reduceCtorEq,
        not_false_eq_true, true_and]

theorem namesFault?_eq_some_iff {names : List (String × List String)} {fault : NameFault} :
    namesFault? names = some fault ↔ fault.IsFirst names := by
  simp only [namesFault?, List.findSome?_eq_some_iff, nameFault?_eq_some_iff,
    nameFault?_eq_none_iff]
  constructor
  · rintro ⟨front, entry, back, split, isOf, sound⟩
    exact ⟨front, entry, back, split, sound, isOf⟩
  · rintro ⟨front, entry, back, split, sound, isOf⟩
    exact ⟨front, entry, back, split, isOf, sound⟩

theorem namesFault?_eq_none_iff {names : List (String × List String)} :
    namesFault? names = none ↔ AreSound names := by
  simp only [namesFault?, List.findSome?_eq_none_iff, nameFault?_eq_none_iff, AreSound]

/-! ## Names in a document -/

/-- The value that writes some names. -/
def valueOfNames (names : List (String × List String)) : Value :=
  .object (names.map fun entry => (entry.1, .list (entry.2.map .text)))

/-- The members of a document that write some names; the key may be left out if there are none. -/
def WritesNames (members : Members) (names : Table String (List String)) : Prop :=
  (valueOf? "names" members).getD (.object []) = valueOfNames names.entries

theorem text_eq_valid_iff {value : Value} {content : String} :
    text value = .valid content ↔ value = .text content := by
  cases value <;> simp [text, Checked.issue]

theorem items_text_eq_valid_iff {position : Nat} {items : List Value} {texts : List String} :
    Checked.items text position items = .valid texts ↔ items = texts.map .text := by
  induction items generalizing position texts with
  | nil =>
      rw [Checked.items, Checked.valid.injEq]
      cases texts <;> simp
  | cons item rest ih =>
      simp only [Checked.items, Checked.seq_eq_valid_iff, Checked.map_eq_valid_iff,
        Checked.under_eq_valid_iff, text_eq_valid_iff, ih]
      constructor
      · rintro ⟨_, others, ⟨first, rfl, rfl⟩, rfl, rfl⟩
        rfl
      · intro same
        cases texts with
        | nil => contradiction
        | cons first others =>
            obtain ⟨rfl, rfl⟩ := List.cons.inj same
            exact ⟨_, others, ⟨first, rfl, rfl⟩, rfl, rfl⟩

theorem listOf_text_eq_valid_iff {value : Value} {texts : List String} :
    listOf text value = .valid texts ↔ value = .list (texts.map .text) := by
  cases value with
  | list items => rw [listOf, items_text_eq_valid_iff, Value.list.injEq]
  | _ => simp [listOf, Checked.issue]

/-- Lists of texts by name are what writes names. -/
theorem listsOf_eq_valid_iff {value : Value} {names : List (String × List String)} :
    listsOf value = .valid names ↔ value = valueOfNames names := by
  cases value with
  | object members =>
      rw [listsOf, dictOf, valueOfNames, Value.object.injEq]
      induction members generalizing names with
      | nil =>
          rw [dictOf.all, Checked.valid.injEq]
          cases names <;> simp
      | cons member rest ih =>
          simp only [dictOf.all, Checked.seq_eq_valid_iff, Checked.map_eq_valid_iff,
            Checked.under_eq_valid_iff, listOf_text_eq_valid_iff, ih]
          constructor
          · rintro ⟨_, others, ⟨texts, isList, rfl⟩, rfl, rfl⟩
            rw [List.map_cons, ← isList]
          · intro same
            cases names with
            | nil => contradiction
            | cons first others =>
                obtain ⟨rfl, rfl⟩ := List.cons.inj same
                exact ⟨_, others, ⟨first.2, rfl, rfl⟩, rfl, rfl⟩
  | _ => simp [listsOf, dictOf, valueOfNames, Checked.issue]

theorem namesOf_valueOfNames (names : List (String × List String)) :
    namesOf (valueOfNames names) =
      match namesFault? names with
      | some fault => .issue (.refused fault.message)
      | none => .valid names := by
  rw [namesOf, listsOf_eq_valid_iff.mpr rfl]
  rfl

variable {members : Members} {names : Table String (List String)}

theorem field_names (writes : WritesNames members names) :
    field ["names"] (.valid []) namesOf members =
      (namesOf (valueOfNames names.entries)).under (.key "names") := by
  rw [field_singleton, ← writes]
  cases valueOf? "names" members <;> rfl

theorem unencodable?_names (writes : WritesNames members names) :
    Policy.unencodable? (.object members) =
      (namesFault? names.entries).bind (Text.unencodable? ·.message) := by
  rw [Policy.unencodable?, Value.member?]
  cases given : valueOf? "names" members with
  | none =>
      rw [WritesNames, given, Option.getD_none, ← listsOf_eq_valid_iff] at writes
      have nothing : [] = names.entries := Checked.valid.inj writes
      rw [← nothing]
      rfl
  | some value =>
      rw [WritesNames, given, Option.getD_some] at writes
      rw [Option.map_some, listsOf_eq_valid_iff.mpr writes]

/-! ## Reading a policy -/

namespace Policy

/-- The names of a document are taken: they are those of the policy, or the issues are elsewhere. -/
inductive AcceptsNames (names : Table String (List String)) : Except Fault Policy → Prop
  | policy (hosts : Table String HostPolicy) : AcceptsNames names (.ok ⟨names, hosts⟩)
  | elsewhere {invalid : Invalid} :
      (∀ issue ∈ invalid.issues, ¬ issue.IsUnder "names") →
      AcceptsNames names (.error (.invalid invalid))

/-- The names of a document are refused for a fault: it is told in the first issue, and no other one
is about the names.  If its message is not whole, it has no UTF-8 form to be told in; and if a key
of the document is not whole, that is all that is told. -/
inductive RefusesNames (members : Members) (fault : NameFault) : Except Fault Policy → Prop
  | told {others : List Issue} :
      hasWholeKeys members = true → Text.isWhole fault.message = true →
      (∀ issue ∈ others, ¬ issue.IsUnder "names") →
      RefusesNames members fault (.error (.invalid
        ⟨"PolicyConfig", ⟨.refused fault.message, [.key "names"]⟩ :: others⟩))
  | notEncoded {found : Text.Unencodable} :
      Text.unencodable? fault.message = some found →
      RefusesNames members fault (.error (.notEncoded found))
  | unread :
      hasWholeKeys members = false → Text.isWhole fault.message = true →
      RefusesNames members fault (.error (.invalid ⟨"PolicyConfig", [⟨.stringUnicode, []⟩]⟩))

/-- A document is settled by its names: they are sound or have a first fault; they are taken exactly
if they are sound, and refused for that fault if not; and a policy that is read has them. -/
structure SettledByNames (members : Members) (names : Table String (List String)) : Prop where
  faulty : ¬ AreSound names.entries ↔ ∃ fault : NameFault, fault.IsFirst names.entries
  accepts : hasWholeKeys members = true →
    (AcceptsNames names (read (.object members)) ↔ AreSound names.entries)
  refuses : ∀ fault : NameFault, fault.IsFirst names.entries →
    RefusesNames members fault (read (.object members))
  keeps : ∀ policy, read (.object members) = .ok policy →
    AreSound names.entries ∧ policy.names = names

/-- A policy from its names and the rest of its document. -/
def ofNames (checked : Checked (List (String × List String))) (members : Members) :
    Checked Policy :=
  (fun names hosts => mk (Table.ofList names) (Table.ofList hosts))
    <$> checked
    <*> field ["hosts"] (.valid []) (dictOf HostPolicy.ofValue) members
    <* noOthers [["names"], ["hosts"]] members

/-- The issues of a document that are not about its names. -/
def otherIssues (members : Members) : List Issue :=
  (field ["hosts"] (.valid []) (dictOf HostPolicy.ofValue) members).issues
    ++ (noOthers [["names"], ["hosts"]] members).issues

theorem issues_ofNames (checked : Checked (List (String × List String))) (members : Members) :
    (ofNames checked members).issues = checked.issues ++ otherIssues members := by
  simp [ofNames, otherIssues]

theorem not_isUnder_of_mem_otherIssues {issue : Issue} (member : issue ∈ otherIssues members) :
    ¬ issue.IsUnder "names" := by
  rcases List.mem_append.mp member with ofHosts | ofOthers
  · intro isUnder
    have inHosts := isUnder_of_mem_field ofHosts
    rw [Issue.IsUnder, inHosts] at isUnder
    simp at isUnder
  · exact not_isUnder_of_mem_noOthers (by simp) ofOthers

theorem names_of_ofNames {checked : Checked (List (String × List String))} {policy : Policy}
    (valid : ofNames checked members = .valid policy) :
    ∃ entries, checked = .valid entries ∧ policy.names = Table.ofList entries := by
  simp only [ofNames, Checked.seqLeft_eq_valid_iff, Checked.seq_eq_valid_iff,
    Checked.map_eq_valid_iff] at valid
  obtain ⟨⟨_, hosts, ⟨entries, rfl, rfl⟩, -, rfl⟩, -⟩ := valid
  exact ⟨entries, rfl, rfl⟩

theorem ofValue_object (writes : WritesNames members names) :
    ofValue (.object members) =
      if hasWholeKeys members then
        ofNames ((namesOf (valueOfNames names.entries)).under (.key "names")) members
      else .issue .stringUnicode := by
  rw [← field_names writes]
  rfl

/-- With sound names, all issues are elsewhere. -/
theorem read_of_sound (writes : WritesNames members names) (sound : AreSound names.entries) :
    read (.object members) =
      ((if hasWholeKeys members then ofNames (.valid names.entries) members
        else .issue .stringUnicode).toExcept "PolicyConfig").mapError .invalid := by
  rw [read, unencodable?_names writes, ofValue_object writes, namesOf_valueOfNames,
    namesFault?_eq_none_iff.mpr sound]
  rfl

theorem acceptsNames_of_sound (writes : WritesNames members names)
    (sound : AreSound names.entries) : AcceptsNames names (read (.object members)) := by
  rw [read_of_sound writes sound]
  cases whole : hasWholeKeys members with
  | false =>
      refine .elsewhere fun issue member => ?_
      rw [List.mem_singleton.mp member]
      exact nofun
  | true =>
      rw [if_pos rfl]
      cases found : ofNames (.valid names.entries) members with
      | valid policy =>
          obtain ⟨_, ⟨⟩, isNames⟩ := names_of_ofNames found
          rw [Table.ofList_entries] at isNames
          obtain ⟨_, hosts⟩ := policy
          cases isNames
          exact .policy hosts
      | invalid issues =>
          have isIssues : issues = otherIssues members := by
            simpa [found, Checked.issues] using issues_ofNames (.valid names.entries) members
          exact .elsewhere fun issue member => not_isUnder_of_mem_otherIssues (isIssues ▸ member)

/-- A first fault of the names keeps a document from being read. -/
theorem refusesNames_of_isFirst (writes : WritesNames members names) {fault : NameFault}
    (first : fault.IsFirst names.entries) :
    RefusesNames members fault (read (.object members)) := by
  have found := namesFault?_eq_some_iff.mpr first
  rw [read, unencodable?_names writes, found, Option.bind_some]
  cases encoded : Text.unencodable? fault.message with
  | some found => exact .notEncoded encoded
  | none =>
      have wholeMessage := Text.unencodable?_eq_none_iff.mp encoded
      rw [ofValue_object writes, namesOf_valueOfNames, found]
      cases whole : hasWholeKeys members with
      | false => exact .unread whole wholeMessage
      | true =>
          have isIssues := issues_ofNames
            ((Checked.issue (.refused fault.message)).under (.key "names")) members
          dsimp only [if_true]
          cases read : ofNames ((Checked.issue (.refused fault.message)).under (.key "names"))
              members with
          | valid policy =>
              rw [read] at isIssues
              contradiction
          | invalid issues =>
              rw [read] at isIssues
              obtain rfl : issues = _ := isIssues
              exact .told whole wholeMessage fun issue => not_isUnder_of_mem_otherIssues

theorem not_acceptsNames_of_told {fault : NameFault} {result : Except Fault Policy}
    (whole : hasWholeKeys members = true) (refused : RefusesNames members fault result) :
    ¬ AcceptsNames names result := by
  intro accepted
  cases refused with
  | told =>
      cases accepted with
      | elsewhere apart => exact apart _ List.mem_cons_self rfl
  | notEncoded => cases accepted
  | unread notWhole =>
      rw [whole] at notWhole
      contradiction

/-- A document is settled by the names that it writes. -/
theorem settledByNames (writes : WritesNames members names) : SettledByNames members names where
  faulty := by
    simp only [← namesFault?_eq_none_iff, ← namesFault?_eq_some_iff]
    exact Option.ne_none_iff_exists'
  accepts := by
    intro whole
    constructor
    · intro accepted
      rw [← namesFault?_eq_none_iff, Option.eq_none_iff_forall_ne_some]
      intro fault found
      have refused := refusesNames_of_isFirst writes (namesFault?_eq_some_iff.mp found)
      exact not_acceptsNames_of_told whole refused accepted
    · exact acceptsNames_of_sound writes
  refuses := fun fault => refusesNames_of_isFirst writes
  keeps := by
    intro policy isRead
    cases found : namesFault? names.entries with
    | some fault =>
        have refused := refusesNames_of_isFirst writes (namesFault?_eq_some_iff.mp found)
        rw [isRead] at refused
        cases refused
    | none =>
        have sound := namesFault?_eq_none_iff.mp found
        have accepted := acceptsNames_of_sound writes sound
        rw [isRead] at accepted
        cases accepted
        exact ⟨sound, rfl⟩

end Policy

end Firewall
