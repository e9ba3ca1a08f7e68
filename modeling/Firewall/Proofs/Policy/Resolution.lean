import Firewall.CommandLine.Run
import Firewall.Proofs.Build.References
import Firewall.Proofs.Policy.Names
import Firewall.Proofs.Resolver.Queries

/-!
# Resolving the names of a policy

A resolver takes the names that a policy takes: where the names are sound, all their texts are read
again without a fault, and from then on the resolver knows them (`Resolver.Knows`).  Neither a query
for such a name nor a build that refers to such names and to addresses only can fail for a name,
whatever the system would say.
-/

namespace Firewall

open Schema

/-! ## The table of names -/

/-- The addresses that are read for each name. -/
def addressesByName (names : Table String (List String)) : Table String (List Address) :=
  names.mapWith fun _ texts => texts.filterMap Address.read?

theorem mapM_read_eq_ok {texts : List String}
    (readable : ∀ text ∈ texts, ∃ address, Address.read text = .ok address) :
    texts.mapM Address.read = .ok (texts.filterMap Address.read?) := by
  rw [mapM_eq_ok_iff]
  induction texts with
  | nil => exact .nil
  | cons text rest ih =>
      obtain ⟨address, isRead⟩ := readable text List.mem_cons_self
      rw [List.filterMap_cons, read?_eq_some_iff.mpr isRead]
      exact .cons isRead (ih fun other member => readable other (List.mem_cons_of_mem text member))

/-- The texts of sound names are read without a fault. -/
theorem readNames_of_sound {names : Table String (List String)} (sound : AreSound names.entries) :
    Resolver.readNames names.entries = .ok (addressesByName names) := by
  have entries : (names.entries.mapM fun entry : String × List String =>
      (do return (entry.1, ← entry.2.mapM Address.read) : Except Address.Malformed _)) =
      .ok (addressesByName names).entries := by
    rw [mapM_eq_ok_iff, addressesByName, Table.mapWith, List.forall₂_map_right_iff,
      List.forall₂_same]
    intro entry member
    rw [mapM_read_eq_ok (sound entry member).2]
    rfl
  rw [Resolver.readNames, bind_eq_ok_iff]
  exact ⟨_, entries, congrArg Except.ok (Table.ofList_entries (addressesByName names))⟩

theorem addresses_eq (policy : Policy) : policy.addresses = addressesByName policy.names :=
  Table.ofList_entries (addressesByName policy.names)

namespace Resolver

/-- A query for a name with some texts comes to the addresses of the texts, in their order; there
are some, and nobody is asked for them. -/
structure Query.IsAnsweredBy (query : Query) (texts : List String) : Prop where
  addresses : ∃ addresses, query.outcome = .ok addresses ∧ addresses ≠ [] ∧
    List.Forall₂ (fun text address => Address.read text = .ok address) texts addresses
  unasked : query.asked = []

end Resolver

/-- The hosts of an intent are addresses, texts of addresses, and names that are known. -/
def Intent.HasKnownHosts (names : Table String (List String)) (intent : Intent) : Prop :=
  ∀ name, Reference.host (some (.named name)) ∈ intent.references →
    name ∈ names.keys ∨ ∃ address, Address.read name = .ok address

/-- A resolver knows some names: a query for one of them is answered at any time, and no build fails
for a name as long as all hosts are known. -/
structure Resolver.Knows (resolver : Resolver) (names : Table String (List String)) : Prop where
  queries : ∀ history queried, ∀ query ∈ resolver.queries history queried,
    ∀ texts, names.get? query.name = some texts → query.IsAnsweredBy texts
  builds : ∀ services (intent : Intent) restriction history, intent.HasKnownHosts names →
    ∀ host failure,
      ((Factory.build ⟨resolver, services⟩ intent restriction).after history).1 ≠
        .error (.unresolved host failure)

/-! ## Queries -/

section Knows

variable {names : Table String (List String)} {system : Option (String → DnsAnswer)}

theorem get?_addressesByName {name : String} {texts : List String}
    (isName : names.get? name = some texts) :
    (addressesByName names).get? name = some (texts.filterMap Address.read?) := by
  rw [addressesByName, Table.get?_mapWith, isName, Option.map_some]

theorem exists_of_mem_queries {resolver : Resolver} {history : History} {queried : List String}
    {query : Resolver.Query} (member : query ∈ resolver.queries history queried) :
    ∃ earlier name, query = resolver.query earlier name := by
  induction queried generalizing history with
  | nil => contradiction
  | cons name rest ih =>
      rcases List.mem_cons.mp member with first | later
      · exact ⟨history, name, first⟩
      · exact ih later

theorem isAnsweredBy_query (sound : AreSound names.entries) (history : History) {name : String}
    {texts : List String} (isName : names.get? name = some texts) :
    ((Resolver.mk (addressesByName names) system).query history name).IsAnsweredBy texts := by
  have resolved : (Resolver.mk (addressesByName names) system).resolve name =
      pure (texts.filterMap Address.read?) := by
    rw [Resolver.resolve, get?_addressesByName isName]
  obtain ⟨nonempty, readable⟩ := sound _ (names.mem_entries_iff.mpr isName)
  have areAddresses := mapM_eq_ok_iff.mp (mapM_read_eq_ok readable)
  constructor
  case addresses =>
    refine ⟨texts.filterMap Address.read?, ?_, ?_, areAddresses⟩
    · rw [Resolver.query, resolved]
      rfl
    · intro none
      rw [none] at areAddresses
      exact nonempty (List.forall₂_nil_right_iff.mp areAddresses)
  case unasked =>
    rw [Resolver.query, resolved]
    change lookups (history.events.drop history.events.length) = []
    rw [List.drop_length]
    rfl

/-! ## Builds -/

/-- Names in the table and addresses have an answer, whatever else is known. -/
theorem exists_answer_of_known {name : String} (history : History)
    (known : name ∈ names.keys ∨ ∃ address, Address.read name = .ok address) :
    ∃ addresses, (Resolver.mk (addressesByName names) system).answers history name =
      .ok addresses := by
  rw [Resolver.answers]
  cases tabled : (addressesByName names).get? name with
  | some addresses => exact ⟨addresses, rfl⟩
  | none =>
      rcases known with isName | ⟨address, isRead⟩
      · obtain ⟨texts, isTexts⟩ := Option.isSome_iff_exists.mp (names.mem_keys_iff.mp isName)
        rw [get?_addressesByName isTexts] at tabled
        contradiction
      · dsimp only
        rw [read?_eq_some_iff.mpr isRead]
        exact ⟨[address], rfl⟩

theorem portOfText_ne_unresolved (services : Services) (content host : String)
    (failure : LookupFailure) :
    Factory.portOfText services content ≠ .error (.unresolved host failure) := by
  intro failed
  rw [Factory.portOfText] at failed
  split at failed
  · contradiction
  · split at failed <;> split at failed <;> cases failed

theorem portOfLeaf_ne_unresolved (services : Services) (leaf : Value) (host : String)
    (failure : LookupFailure) :
    Factory.portOfLeaf services leaf ≠ .error (.unresolved host failure) := by
  intro failed
  cases leaf with
  | null | int | bool => contradiction
  | float | list | object => cases failed
  | text content =>
      rw [Factory.portOfLeaf] at failed
      cases port : Factory.portOfText services content with
      | ok found =>
          rw [port] at failed
          contradiction
      | error error =>
          rw [port] at failed
          cases failed
          exact portOfText_ne_unresolved services content host failure port

/-- A reference to a host that is known does not fail for its name. -/
theorem error?_ne_unresolved {answers : Answers} {reference : Reference} (services : Services)
    (answered : ∀ name, reference = .host (some (.named name)) →
      ∃ addresses, answers name = .ok addresses)
    (host : String) (failure : LookupFailure) :
    reference.error? services answers ≠ some (.unresolved host failure) := by
  intro failed
  match reference with
  | .port leaf =>
      exact portOfLeaf_ne_unresolved services leaf host failure (error?_eq_some_iff.mp failed)
  | .host none => contradiction
  | .host (some (.address address)) => contradiction
  | .host (some (.named name)) =>
      obtain ⟨addresses, isAnswer⟩ := answered name rfl
      rw [Reference.error?, Intent.hostOutcome, isAnswer] at failed
      contradiction

/-- A build whose names have answers does not fail for a name. -/
theorem outcome_ne_unresolved {factory : Factory} {intent : Intent} {answers : Answers}
    (answered : ∀ name, Reference.host (some (.named name)) ∈ intent.references →
      ∃ addresses, answers name = .ok addresses)
    (restriction : Option Family) (host : String) (failure : LookupFailure) :
    factory.outcome intent restriction answers ≠ .error (.unresolved host failure) := by
  intro failed
  rw [Factory.outcome] at failed
  split at failed
  · contradiction
  · cases found : intent.alternatives factory.services answers with
    | error error =>
        rw [found] at failed
        obtain rfl := Except.error.inj failed
        have first := error?_eq_some_iff.mpr found
        rw [Intent.error?_alternatives] at first
        obtain ⟨reference, member, fails⟩ := List.exists_of_findSome?_eq_some first
        refine error?_ne_unresolved factory.services ?_ host failure fails
        rintro name rfl
        exact answered name member
    | ok alternatives =>
        rw [found] at failed
        change Verdict.batch _ = _ at failed
        unfold Verdict.batch at failed
        split at failed <;> cases failed

theorem knows_of_sound (sound : AreSound names.entries) :
    (Resolver.mk (addressesByName names) system).Knows names where
  queries := by
    intro history queried query member texts isName
    obtain ⟨earlier, name, rfl⟩ := exists_of_mem_queries member
    exact isAnsweredBy_query sound earlier isName
  builds := by
    intro services intent restriction history known host failure
    have determined :=
      (Factory.build_determined ⟨⟨addressesByName names, system⟩, services⟩ intent restriction
        history).1
    rw [determined]
    apply outcome_ne_unresolved
    exact fun name member => exists_answer_of_known history (known name member)

end Knows

/-! ## From the document to the resolver -/

namespace Policy

/-- A document is settled by its names, and the names that it is settled with are known: a resolver
reads them without a fault, a run has the same table, and whatever there is to ask besides, a
resolver with this table knows the names. -/
structure NamesResolve (members : Members) (names : Table String (List String)) : Prop where
  settled : SettledByNames members names
  resolves : AreSound names.entries → ∃ table, Resolver.readNames names.entries = .ok table ∧
    (∀ hosts, (Policy.mk names hosts).addresses = table) ∧
    ∀ system, (Resolver.mk table system).Knows names

/-- The names that a document writes are taken if and only if they are sound, and then they can be
resolved at any time. -/
theorem names_resolve {members : Members} {names : Table String (List String)}
    (writes : WritesNames members names) : NamesResolve members names where
  settled := settledByNames writes
  resolves := fun sound => ⟨addressesByName names, readNames_of_sound sound,
    fun hosts => addresses_eq ⟨names, hosts⟩, fun _ => knows_of_sound sound⟩

/-- A name for addresses of both families, and an address that is a name for another one. -/
def mixedNames : Table String (List String) :=
  Table.ofList [("both", ["10.0.0.1", " fe80::1%eth0 "]), ("::1", ["192.0.2.1/24"])]

theorem mixed_names_resolve :
    WritesNames [("hosts", .object []), ("names", valueOfNames mixedNames.entries)] mixedNames ∧
      AreSound mixedNames.entries ∧
      NamesResolve [("hosts", .object []), ("names", valueOfNames mixedNames.entries)]
        mixedNames :=
  ⟨rfl, namesFault?_eq_none_iff.mp (by decide +kernel), names_resolve rfl⟩

/-- Half of a surrogate pair, as a name without addresses. -/
def halfName : List (String × List String) := [(Text.ofCodePoints [0xD800], [])]

/-- The fault of such a name is not told. -/
theorem half_name_is_not_told :
    (NameFault.noAddresses (Text.ofCodePoints [0xD800])).IsFirst halfName ∧
      WritesNames [("names", valueOfNames halfName)] (Table.ofList halfName) ∧
      hasWholeKeys [("names", valueOfNames halfName)] = true ∧
      read (.object [("names", valueOfNames halfName)]) = .error (.notEncoded ⟨6, 0xD800, 1⟩) := by
  refine ⟨⟨[], _, [], rfl, nofun, .noAddresses⟩, rfl, by decide +kernel, ?_⟩
  have noForm : unencodable? (.object [("names", valueOfNames halfName)]) =
      some ⟨6, 0xD800, 1⟩ := by
    decide +kernel
  rw [read, noForm]

end Policy

end Firewall
