import Firewall.Proofs.Address.Trimming
import Firewall.Proofs.Build.Outcome
import Firewall.Proofs.Family
import Firewall.Proofs.Rule.Parts

/-!
# The family of a rule that is read

The family of a rule is settled by a first look at its host values, before they are read as
addresses.  The first look sees addresses that are written as texts.  It does not see the address
that a number stands for, and it sees none where a zone is made of blanks (`Value.showsFamily`).

What the first look sees is never contradicted by what is read later.  So all hosts that it sees are
of the family of the rule, and hosts of two families are refused (`Rule.ofValue_settles_family`).
Hosts that it does not see can be of any family.
-/

namespace Firewall

open Schema

/-- The family of the address that a value stands for is seen before the value is read: the value is
a text that, without blanks, does not end in a percent sign.  Null stands for no address. -/
def Value.showsFamily : Value → Bool
  | .null => true
  | .text content => (Text.trim Text.isBlank content.toList).getLast? != some '%'
  | _ => false

namespace Schema

variable {α : Type} {members : Members} {keys : List String} {read : Value → Checked α}

/-- A field that is valid is absent, or read from the value that is given. -/
theorem field_eq_valid_iff {absent : Checked α} {result : α} :
    field keys absent read members = .valid result ↔
      match (given? keys members).map Prod.snd with
      | none => absent = .valid result
      | some value => read value = .valid result := by
  unfold field
  cases given? keys members with
  | none => rfl
  | some entry => exact Checked.under_eq_valid_iff

/-- A field that may be absent counts as null then. -/
theorem nullable_eq_valid_iff {result : Option α} :
    nullable keys read members = .valid result ↔
      orNull read (((given? keys members).map Prod.snd).getD .null) = .valid result := by
  rw [nullable, field_eq_valid_iff]
  cases (given? keys members).map Prod.snd <;> rfl

end Schema

namespace Rule

/-- The hosts of a rule, each in its place: source, destination, masquerade and redirect. -/
def Fields.places (fields : Fields) : List (Option Address) :=
  [fields.source.host, fields.destination.host, fields.masquerade, fields.redirect.host]

/-- The hosts at the places whose values show their family. -/
def shownAmong (values : List Value) (places : List (Option Address)) : List Address :=
  (values.zip places).filterMap fun pair => if pair.1.showsFamily then pair.2 else none

/-- The hosts of a rule whose values show their family. -/
def Fields.shownHosts (fields : Fields) (members : Members) : List Address :=
  shownAmong (hostValues members) fields.places

/-- The value at a place is read as the host there. -/
def Holds (value : Value) (host : Option Address) : Prop :=
  orNull addressOf value = .valid host

/-! ## The first look -/

/-- The first look at a value that is read as an address sees its family, if the value shows it. -/
theorem familyOfHost?_of_holds {value : Value} {host : Option Address} (holds : Holds value host) :
    familyOfHost? value = if value.showsFamily then host.map Address.family else none := by
  cases value with
  | null =>
      cases holds
      rfl
  | text content =>
      obtain ⟨address, read, rfl⟩ := Checked.map_eq_valid_iff.mp holds
      have parsed : Address.parse? content.toList = some address := by
        rw [addressOf] at read
        cases found : Address.parse? content.toList with
        | none =>
            rw [found] at read
            contradiction
        | some address =>
            rw [found] at read
            cases read
            rfl
      rw [familyOfHost?, Address.map_family_read? parsed, Value.showsFamily]
      split
      · simp [*]
      · simp [*]
  | bool truth => rfl
  | int number => rfl
  | float number => rfl
  | list items => rfl
  | object entries => rfl

/-- What the first look sees are the families of the hosts that show them. -/
theorem filterMap_familyOfHost? {values : List Value} {places : List (Option Address)}
    (read : List.Forall₂ Holds values places) :
    values.filterMap familyOfHost? = (shownAmong values places).map Address.family := by
  unfold shownAmong
  induction read with
  | nil => rfl
  | @cons value host rest others holds _ ih =>
      rw [List.filterMap_cons, familyOfHost?_of_holds holds, List.zip_cons_cons,
        List.filterMap_cons, ih]
      cases value.showsFamily with
      | false => rfl
      | true => cases host <;> rfl

theorem shownAmong_eq_filterMap {values : List Value} {places : List (Option Address)}
    (read : List.Forall₂ Holds values places)
    (shown : ∀ value ∈ values, value.showsFamily = true) :
    shownAmong values places = places.filterMap id := by
  unfold shownAmong
  induction read with
  | nil => rfl
  | @cons value host rest others _ _ ih =>
      have shownLater := ih fun other member => shown other (List.mem_cons_of_mem value member)
      rw [List.zip_cons_cons, List.filterMap_cons, List.filterMap_cons, shownLater,
        if_pos (shown value List.mem_cons_self)]
      rfl

/-! ## The places -/

theorem map_snd_given?_singleton (key : String) (members : Members) :
    (given? [key] members).map Prod.snd = valueOf? key members := by
  rw [given?, List.findSome?_cons]
  cases valueOf? key members <;> rfl

theorem holds_of_endpointOf {value : Value} {endpoint : Endpoint}
    (valid : endpointOf value = .valid endpoint) :
    Holds ((value.member? "host").getD .null) endpoint.host := by
  cases value with
  | object entries =>
      rw [endpointOf, model] at valid
      split at valid
      · rw [Checked.seqLeft_eq_valid_iff] at valid
        obtain ⟨_, _, both, -, rfl⟩ := Checked.seq_eq_valid_iff.mp valid.1
        obtain ⟨host, read, rfl⟩ := Checked.map_eq_valid_iff.mp both
        rw [nullable_eq_valid_iff, map_snd_given?_singleton] at read
        exact read
      · contradiction
  | null | bool | int | float | text | list => contradiction

theorem holds_of_endpoint {members : Members} {keys : List String} {endpoint : Endpoint}
    (valid : field keys (.valid .unspecified) endpointOf members = .valid endpoint) :
    Holds (((((given? keys members).map Prod.snd).getD .null).member? "host").getD .null)
      endpoint.host := by
  rw [field_eq_valid_iff] at valid
  generalize (given? keys members).map Prod.snd = given at valid ⊢
  cases given with
  | none =>
      cases valid
      rfl
  | some value => exact holds_of_endpointOf valid

/-- Where the fields of a rule are valid, the value at each place is read as the host there. -/
theorem holds_places {members : Members} {family : Option Family} {fields : Fields}
    (valid : (partsOf members family).fields = .valid fields) :
    List.Forall₂ Holds (hostValues members) fields.places := by
  rw [fields_eq_valid_iff] at valid
  obtain ⟨-, -, -, -, -, -, -, -, source, destination, masquerade, redirect, -⟩ := valid
  have atSource := holds_of_endpoint source
  have atDestination := holds_of_endpoint destination
  have atMasquerade := nullable_eq_valid_iff.mp masquerade
  have atRedirect := holds_of_endpoint redirect
  exact .cons atSource (.cons atDestination (.cons atMasquerade (.cons atRedirect .nil)))

/-! ## Rules of a document -/

/-- The family that the members of an object ask for. -/
def requestedBy (members : Members) : Except IssueKind (Option Family) :=
  requested ((valueOf? "af" members).getD .null)

/-- What a value asks for, if one is given. -/
inductive AsksFor : Option Value → Option Family → Prop where
  | absent : AsksFor none none
  | null : AsksFor (some .null) none
  | any : AsksFor (some (.text "any")) none
  | inet : AsksFor (some (.text "inet")) (some .inet)
  | inet6 : AsksFor (some (.text "inet6")) (some .inet6)

theorem asksFor_of_ofName? {word : String} {choice : FamilyChoice}
    (found : FamilyChoice.ofName? word = some choice) :
    AsksFor (some (.text word)) choice.restriction := by
  rw [FamilyChoice.ofName?] at found
  obtain rfl : choice.name = word := by simpa using List.find?_some found
  cases choice with
  | any => exact .any
  | only family =>
      cases family with
      | inet => exact .inet
      | inet6 => exact .inet6

theorem requested_eq_ok_iff {value : Value} {restriction : Option Family} :
    requested value = .ok restriction ↔ AsksFor (some value) restriction := by
  constructor
  · intro asked
    unfold requested at asked
    split at asked
    case h_2 => contradiction
    case h_1 found choice =>
      cases asked
      cases value with
      | null =>
          cases choice
          exact .null
      | text word =>
          obtain ⟨made, isMade, rfl⟩ := Option.map_eq_some_iff.mp choice
          exact asksFor_of_ofName? isMade
      | bool | int | float | list | object => contradiction
  · intro asks
    cases asks <;> rfl

theorem requestedBy_eq_ok_iff {members : Members} {restriction : Option Family} :
    requestedBy members = .ok restriction ↔ AsksFor (valueOf? "af" members) restriction := by
  rw [requestedBy, requested_eq_ok_iff]
  cases valueOf? "af" members with
  | some value => exact Iff.rfl
  | none =>
      constructor
      · rintro ⟨⟩
        exact .absent
      · rintro ⟨⟩
        exact .null

/-- The family of a rule is settled by the family asked for and by some hosts. -/
structure SettledBy (restriction : Option Family) (hosts : List Address) (rule : Rule) : Prop where
  /-- All the hosts are of one family. -/
  single : ∀ first ∈ hosts, ∀ second ∈ hosts, first.family = second.family
  /-- The family of the hosts is the one of the rule. -/
  ofHosts : ∀ host ∈ hosts, rule.family = some host.family
  /-- The family asked for is the one of the rule. -/
  ofRestriction : ∀ family ∈ restriction, rule.family = some family
  /-- Without a host, the rule has the family asked for or none. -/
  ofNoHost : hosts = [] → rule.family = restriction

/-- A rule is read where the first look finds one family and the fields are valid. -/
theorem ofMembers_eq_ok_iff {members : Members} {rule : Rule} :
    ofMembers members = .ok rule ↔
      ∃ restriction, requestedBy members = .ok restriction ∧
        commonFamily (restriction.toList ++ (hostValues members).filterMap familyOfHost?) =
          .ok rule.family ∧
        hasWholeKeys members = true ∧
        (partsOf members rule.family).fields = .valid rule.toFields := by
  unfold ofMembers requestedBy
  constructor
  · intro accepted
    split at accepted
    · contradiction
    · rename_i restriction asked
      split at accepted
      · contradiction
      · rename_i family common
        split at accepted
        · rename_i whole
          have valid := ofParts_eq_ok_iff.mp accepted
          have same : family = rule.family := (fields_eq_valid_iff.mp valid).2.2.2.1
          rw [same] at common valid
          exact ⟨restriction, asked, common, whole, valid⟩
        · contradiction
  · rintro ⟨restriction, asked, common, whole, valid⟩
    simp only [asked, common, whole, if_true]
    exact ofParts_eq_ok_iff.mpr valid

/-- Families that the first look sees are in conflict if there are two of them. -/
theorem ofMembers_eq_conflict_iff {members : Members} {restriction : Option Family}
    (asked : requestedBy members = .ok restriction) :
    (∃ conflict, ofMembers members = .error (.conflict conflict)) ↔
      .inet ∈ restriction.toList ++ (hostValues members).filterMap familyOfHost? ∧
      .inet6 ∈ restriction.toList ++ (hostValues members).filterMap familyOfHost? := by
  rw [← commonFamily_eq_error_iff]
  unfold ofMembers
  unfold requestedBy at asked
  rw [asked]
  dsimp only
  cases common :
      commonFamily (restriction.toList ++ (hostValues members).filterMap familyOfHost?) with
  | error conflict => exact ⟨fun _ => ⟨conflict, rfl⟩, fun _ => ⟨conflict, rfl⟩⟩
  | ok family =>
      dsimp only
      constructor
      · intro clash
        obtain ⟨conflict, clash⟩ := clash
        split at clash
        · exact absurd clash (ofParts_ne_conflict _ conflict)
        · cases clash
      · exact nofun

/-- A rule that is read has the family of the hosts that show theirs, and of the request. -/
theorem settledBy_of_ofMembers {members : Members} {rule : Rule}
    (accepted : ofMembers members = .ok rule) :
    ∃ restriction, requestedBy members = .ok restriction ∧
      List.Forall₂ Holds (hostValues members) rule.places ∧
      rule.SettledBy restriction (rule.shownHosts members) := by
  obtain ⟨restriction, asked, common, -, valid⟩ := ofMembers_eq_ok_iff.mp accepted
  have holds := holds_places valid
  have family := (commonFamily_eq_ok_iff.mp common).2
  rw [filterMap_familyOfHost? holds] at family
  have ofHosts : ∀ host ∈ rule.shownHosts members, rule.family = some host.family := by
    intro host member
    apply (family host.family).mpr
    exact List.mem_append_right _ (List.mem_map_of_mem member)
  refine ⟨restriction, asked, holds, ?_⟩
  constructor
  case single =>
    intro first isFirst second isSecond
    exact Option.some.inj ((ofHosts first isFirst).symm.trans (ofHosts second isSecond))
  case ofHosts => exact ofHosts
  case ofRestriction =>
    intro asksFor member
    apply (family asksFor).mpr
    exact List.mem_append_left _ (Option.mem_toList.mpr member)
  case ofNoHost =>
    intro noHost
    apply Option.ext
    intro found
    change shownAmong (hostValues members) rule.places = [] at noHost
    rw [family, noHost]
    simp

/-- The families that a request and some hosts name. -/
def namedFamilies (restriction : Option Family) (hosts : List Address) : List Family :=
  restriction.toList ++ hosts.map Address.family

theorem two_families_iff {families : List Family} :
    (.inet ∈ families ∧ .inet6 ∈ families) ↔
      ∃ first ∈ families, ∃ second ∈ families, first ≠ second := by
  constructor
  · intro both
    exact ⟨.inet, both.1, .inet6, both.2, by decide⟩
  · intro different
    obtain ⟨first, isFirst, second, isSecond, different⟩ := different
    cases first with
    | inet =>
        cases second with
        | inet => contradiction
        | inet6 => exact ⟨isFirst, isSecond⟩
    | inet6 =>
        cases second with
        | inet => exact ⟨isSecond, isFirst⟩
        | inet6 => contradiction

/-- The family of every rule that is read is the one asked for and the one of the hosts that show
theirs, and these are all hosts if every value shows its family.  Where request and fields are
valid, there is a conflict exactly if the request and the hosts that show their family name two. -/
theorem ofValue_settles_family (document : Value) :
    (∀ rule, ofValue document = .ok rule →
      ∃ members restriction, document = .object members ∧
        AsksFor (valueOf? "af" members) restriction ∧
        List.Forall₂ Holds (hostValues members) rule.places ∧
        rule.SettledBy restriction (rule.shownHosts members) ∧
        ((∀ value ∈ hostValues members, value.showsFamily = true) →
          rule.shownHosts members = rule.hosts)) ∧
    (∀ members restriction fields, document = .object members →
      AsksFor (valueOf? "af" members) restriction → (partsOf members none).fields = .valid fields →
        ((∃ conflict, ofValue document = .error (.conflict conflict)) ↔
          ∃ first ∈ namedFamilies restriction (fields.shownHosts members),
            ∃ second ∈ namedFamilies restriction (fields.shownHosts members), first ≠ second)) := by
  constructor
  · intro rule accepted
    cases document with
    | object members =>
        obtain ⟨restriction, asked, holds, settled⟩ := settledBy_of_ofMembers accepted
        exact ⟨members, restriction, rfl, requestedBy_eq_ok_iff.mp asked, holds, settled,
          shownAmong_eq_filterMap holds⟩
    | null | bool | int | float | text | list => contradiction
  · intro members restriction fields isObject asked valid
    rw [isObject, ← two_families_iff, namedFamilies, Fields.shownHosts,
      ← filterMap_familyOfHost? (holds_places valid)]
    exact ofMembers_eq_conflict_iff (requestedBy_eq_ok_iff.mpr asked)

/-- A rule of a document, from one host to another. -/
def membersBetween (source destination : Value) : Members :=
  [("action", .text "pass"), ("dir", .text "in"), ("af", .text "any"),
    ("from", .object [("host", source)]), ("to", .object [("host", destination)])]

/-- From an address to a network of its family. -/
def networkMembers : Members := membersBetween (.text "10.0.0.1") (.text "10.0.0.0/8")

/-- From an address to one of the other family. -/
def clashingMembers : Members := membersBetween (.text "10.0.0.1") (.text "::1")

/-- A rule of a document that asks for a family, with more members. -/
def membersAsking (more : Members) : Members :=
  [("action", .text "pass"), ("dir", .text "in"), ("af", .text "inet6")] ++ more

/-- From an address of the family that is not asked for. -/
def refusedMembers : Members := membersAsking [("from", .object [("host", .text "10.0.0.1")])]

/-- Texts of one family make a rule of this family, and texts of two families are in conflict.  A
rule without hosts has the family asked for, and a text of the other family is in conflict with
it. -/
theorem ofValue_texts_settle_family :
    (∃ rule, ofValue (.object networkMembers) = .ok rule ∧
      rule.SettledBy none (rule.shownHosts networkMembers) ∧
      rule.shownHosts networkMembers = rule.hosts ∧ rule.family = some .inet) ∧
    (∃ fields, (partsOf clashingMembers none).fields = .valid fields ∧
      ∃ conflict, ofValue (.object clashingMembers) = .error (.conflict conflict)) ∧
    (∃ rule, ofValue (.object (membersAsking [])) = .ok rule ∧
      rule.SettledBy (some .inet6) (rule.shownHosts (membersAsking [])) ∧
      rule.hosts = [] ∧ rule.family = some .inet6) ∧
    ∃ fields, (partsOf refusedMembers none).fields = .valid fields ∧
      ∃ conflict, ofValue (.object refusedMembers) = .error (.conflict conflict) := by
  have clash (members : Members) (restriction : Option Family) (first second : Family)
      (asked : AsksFor (valueOf? "af" members) restriction) (different : first ≠ second)
      (evaluated : (((partsOf members none).fields.toExcept "Rule").toOption.map
        fun fields => namedFamilies restriction (fields.shownHosts members)) =
        some [first, second]) :
      ∃ fields, (partsOf members none).fields = .valid fields ∧
        ∃ conflict, ofValue (.object members) = .error (.conflict conflict) := by
    cases valid : (partsOf members none).fields with
    | invalid issues =>
        rw [valid] at evaluated
        contradiction
    | valid fields =>
        rw [valid] at evaluated
        have families : namedFamilies restriction (fields.shownHosts members) = [first, second] :=
          Option.some.inj evaluated
        have conflict_iff :=
          (ofValue_settles_family (.object members)).2 _ restriction fields rfl asked valid
        refine ⟨fields, rfl, conflict_iff.mpr ?_⟩
        rw [families]
        exact ⟨first, by simp, second, by simp, different⟩
  refine ⟨?_, clash clashingMembers none .inet .inet6 .any (by decide) (by decide +kernel), ?_,
    clash refusedMembers (some .inet6) .inet6 .inet .inet6 (by decide) (by decide +kernel)⟩
  · have evaluated : ((ofValue (.object networkMembers)).toOption.map fun rule => rule.family) =
        some (some .inet) := by
      decide +kernel
    obtain ⟨rule, read, family⟩ := exists_ok_of_map_toOption evaluated
    obtain ⟨_, restriction, ⟨⟩, asked, _, settled, whole⟩ :=
      (ofValue_settles_family (.object networkMembers)).1 rule read
    cases requestedBy_eq_ok_iff.mpr asked
    exact ⟨rule, read, settled, whole (by decide +kernel), family⟩
  · have evaluated : ((ofValue (.object (membersAsking []))).toOption.map fun rule => rule.hosts) =
        some [] := by
      decide +kernel
    obtain ⟨rule, read, noHost⟩ := exists_ok_of_map_toOption evaluated
    obtain ⟨_, restriction, ⟨⟩, asked, _, settled, -⟩ :=
      (ofValue_settles_family (.object (membersAsking []))).1 rule read
    cases requestedBy_eq_ok_iff.mpr asked
    exact ⟨rule, read, settled, noHost, settled.ofRestriction .inet6 rfl⟩

/-- A document is read as a rule with hosts of two families. -/
def IsReadMixed (document : Value) : Prop :=
  ∃ rule, ofValue document = .ok rule ∧
    ∃ first ∈ rule.hosts, ∃ second ∈ rule.hosts, first.family ≠ second.family

theorem isReadMixed_of_families {document : Value}
    (families : ((ofValue document).toOption.map fun rule => rule.hosts.map Address.family) =
      some [.inet, .inet6]) : IsReadMixed document := by
  obtain ⟨rule, read, both⟩ := exists_ok_of_map_toOption families
  obtain ⟨first, isFirst, four⟩ := List.mem_map.mp (both ▸ List.mem_cons_self)
  obtain ⟨second, isSecond, six⟩ :=
    List.mem_map.mp (both ▸ List.mem_cons_of_mem _ List.mem_cons_self)
  refine ⟨rule, read, first, isFirst, second, isSecond, ?_⟩
  rw [four, six]
  decide

/-- The first look misses numbers, truth values and zones of blanks, so the rules have hosts of two
families. -/
theorem ofValue_misses_family :
    IsReadMixed (.object (membersBetween (.int 1) (.text "::1"))) ∧
    IsReadMixed (.object (membersBetween (.bool true) (.text "::1"))) ∧
    IsReadMixed (.object (membersBetween (.text "10.0.0.1") (.text "fe80::1% "))) := by
  refine ⟨?_, ?_, ?_⟩
  · exact isReadMixed_of_families (by decide +kernel)
  · exact isReadMixed_of_families (by decide +kernel)
  · exact isReadMixed_of_families (by decide +kernel)

end Rule

end Firewall
