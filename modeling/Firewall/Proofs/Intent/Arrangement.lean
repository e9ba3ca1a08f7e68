import Firewall.Build.Factory
import Firewall.Proofs.Rule.Agreement

/-!
# Arrangements of ports

The ports of an endpoint may be written in many ways: one port on its own or in a list, and lists in
lists.  Ports that are numbers, texts or null are read in each of these arrangements, and an intent
is read alike whatever the arrangement is: with the same issues, or as intents that differ in
nothing but the arrangement (`Intent.ofMembers_alike`).
-/

namespace Firewall

open Schema

/-! ## Outcomes that agree -/

namespace Schema

variable {α β γ δ : Type}

/-- Two outcomes agree: they have the same issues, or values that are related. -/
inductive Checked.Alike (related : α → β → Prop) : Checked α → Checked β → Prop
  | valid {first : α} {second : β} (holds : related first second) :
      Alike related (.valid first) (.valid second)
  | invalid (issues : List Issue) : Alike related (.invalid issues) (.invalid issues)

namespace Checked

variable {related : α → β → Prop} {image : γ → δ → Prop}

theorem alike_of_eq {same : α → α → Prop} (reflexive : ∀ value, same value value)
    {first second : Checked α} (equal : first = second) : Alike same first second := by
  subst equal
  cases first with
  | valid value => exact .valid (reflexive value)
  | invalid issues => exact .invalid issues

theorem Alike.map {first : Checked α} {second : Checked β} {left : α → γ} {right : β → δ}
    (alike : Alike related first second)
    (each : ∀ value other, related value other → image (left value) (right other)) :
    Alike image (left <$> first) (right <$> second) := by
  cases alike with
  | valid holds => exact .valid (each _ _ holds)
  | invalid issues => exact .invalid issues

/-- Outcomes agree that are put together from outcomes that agree. -/
theorem Alike.seq {left : Checked (α → γ)} {right : Checked (β → δ)} {first : Checked α}
    {second : Checked β}
    (makers : Alike (fun make other =>
      ∀ value value', related value value' → image (make value) (other value')) left right)
    (alike : Alike related first second) : Alike image (left <*> first) (right <*> second) := by
  cases makers with
  | valid each =>
      cases alike with
      | valid holds => exact .valid (each _ _ holds)
      | invalid issues => exact .invalid issues
  | invalid issues =>
      cases alike with
      | valid holds => exact .invalid (issues ++ [])
      | invalid others => exact .invalid (issues ++ others)

theorem Alike.seqLeft {first : Checked α} {second : Checked β} (alike : Alike related first second)
    (other : Checked γ) : Alike related (first <* other) (second <* other) := by
  cases alike with
  | valid holds =>
      cases other with
      | valid value => exact .valid holds
      | invalid issues => exact .invalid issues
  | invalid issues =>
      cases other with
      | valid value => exact .invalid (issues ++ [])
      | invalid others => exact .invalid (issues ++ others)

theorem Alike.under {first : Checked α} {second : Checked β} (alike : Alike related first second)
    (step : Step) : Alike related (first.under step) (second.under step) := by
  cases alike with
  | valid holds => exact .valid holds
  | invalid issues => exact .invalid _

end Checked

/-! ## Objects that differ in one member -/

variable {members : Members} {keys : List String} {key : String}

theorem given?_putEntry_of_notMem (absent : key ∉ keys) (value : Value) :
    given? keys (putEntry key value members) = given? keys members := by
  unfold given?
  induction keys with
  | nil => rfl
  | cons other rest ih =>
      rw [List.mem_cons, not_or] at absent
      rw [List.findSome?_cons, List.findSome?_cons, ih absent.2, valueOf?_putEntry,
        if_neg absent.1]

/-- With another value of a member, a field has that value where it had the one before. -/
theorem given?_putEntry (first second : Value) :
    given? keys (putEntry key second members) =
      (given? keys (putEntry key first members)).map fun entry =>
        (entry.1, if entry.1 = key then second else entry.2) := by
  unfold given?
  induction keys with
  | nil => rfl
  | cons other rest ih =>
      rw [List.findSome?_cons, List.findSome?_cons, ih, valueOf?_putEntry, valueOf?_putEntry]
      by_cases same : key = other
      · simp [same]
      · rw [if_neg same, if_neg same]
        cases valueOf? other members with
        | none => rfl
        | some value => simp [Ne.symm same]

theorem map_fst_given?_putEntry (first second : Value) :
    (given? keys (putEntry key second members)).map Prod.fst =
      (given? keys (putEntry key first members)).map Prod.fst := by
  rw [given?_putEntry first second, Option.map_map]
  rfl

theorem valueOf?_of_given? {entry : String × Value} (found : given? keys members = some entry) :
    valueOf? entry.1 members = some entry.2 := by
  obtain ⟨other, -, isEntry⟩ := List.exists_of_findSome?_eq_some found
  obtain ⟨value, isValue, rfl⟩ := Option.map_eq_some_iff.mp isEntry
  exact isValue

/-- A field is read alike if the member is, by which the objects differ. -/
theorem field_alike {related : α → α → Prop} (reflexive : ∀ value, related value value)
    {read : Value → Checked α} {first second : Value}
    (alike : Checked.Alike related (read first) (read second)) (absent : Checked α) :
    Checked.Alike related (field keys absent read (putEntry key first members))
      (field keys absent read (putEntry key second members)) := by
  unfold field
  rw [given?_putEntry first second]
  cases found : given? keys (putEntry key first members) with
  | none => exact Checked.alike_of_eq reflexive rfl
  | some entry =>
      have isValue := valueOf?_of_given? found
      rw [valueOf?_putEntry] at isValue
      by_cases same : entry.1 = key
      · rw [if_pos same.symm] at isValue
        cases isValue
        simp only [Option.map_some, if_pos same]
        exact alike.under _
      · simp only [Option.map_some, if_neg same]
        exact Checked.alike_of_eq reflexive rfl

theorem map_fst_putEntry_eq (first second : Value) :
    (putEntry key second members).map Prod.fst = (putEntry key first members).map Prod.fst := by
  rw [map_fst_putEntry, map_fst_putEntry]

theorem noOthers_congr (fields : List (List String)) {first second : Members}
    (keys : second.map Prod.fst = first.map Prod.fst)
    (given : ∀ keys, (given? keys second).map Prod.fst = (given? keys first).map Prod.fst) :
    noOthers fields second = noOthers fields first := by
  unfold noOthers
  simp only [given]
  generalize (fields.filterMap fun keys => (given? keys first).map Prod.fst) = used
  have byKeys (members : Members) :
      (members.filter fun entry => !used.contains entry.1).map Prod.fst =
        (members.map Prod.fst).filter fun key => !used.contains key := by
    rw [List.filter_map]
    rfl
  have same := (byKeys second).trans ((congrArg _ keys).trans (byKeys first).symm)
  revert same
  cases first.filter fun entry => !used.contains entry.1 with
  | nil =>
      cases second.filter fun entry => !used.contains entry.1 with
      | nil => exact fun _ => rfl
      | cons entry rest => exact fun same => absurd same (List.cons_ne_nil _ _)
  | cons entry rest =>
      cases second.filter fun entry => !used.contains entry.1 with
      | nil => exact fun same => absurd same.symm (List.cons_ne_nil _ _)
      | cons other others =>
          intro same
          have issues := congrArg (List.map fun key => Issue.mk .extraForbidden [.key key]) same
          rw [List.map_map, List.map_map] at issues
          exact congrArg Checked.invalid issues

theorem noOthers_putEntry (fields : List (List String)) (first second : Value) :
    noOthers fields (putEntry key second members) =
      noOthers fields (putEntry key first members) := by
  apply noOthers_congr fields (map_fst_putEntry_eq first second)
  exact fun _ => map_fst_given?_putEntry first second

theorem hasWholeKeys_putEntry (first second : Value) :
    hasWholeKeys (putEntry key second members) = hasWholeKeys (putEntry key first members) := by
  have byKeys (members : Members) :
      hasWholeKeys members = (members.map Prod.fst).all Text.isWhole := by
    rw [hasWholeKeys, List.all_map]
    rfl
  rw [byKeys, byKeys, map_fst_putEntry_eq first second]

end Schema

/-! ## Ports -/

/-- A leaf that stands for the same port on its own and in a list: a number, a text or null. -/
def Value.IsPlain : Value → Prop
  | .null | .int _ | .text _ => True
  | .bool _ | .float _ | .list _ | .object _ => False

namespace Intent

/-- Plain ports are read in every arrangement, with their leaves in order. -/
theorem Ports.exists_ofValue {value : Value} (plain : ∀ leaf ∈ value.leaves, leaf.IsPlain) :
    ∃ ports, Ports.ofValue value = .valid ports ∧ ports.leaves = value.leaves := by
  cases value with
  | null => exact ⟨.absent, rfl, rfl⟩
  | int number => exact ⟨.number number, rfl, rfl⟩
  | text content => exact ⟨.named content, rfl, rfl⟩
  | list items => exact ⟨.many items, rfl, rfl⟩
  | bool truth => exact False.elim (plain (.bool truth) (List.mem_singleton_self _))
  | float number => exact False.elim (plain (.float number) (List.mem_singleton_self _))
  | object members => exact False.elim (plain (.object members) (List.mem_singleton_self _))

/-- Two endpoints have the same hosts, and ports with the same leaves. -/
structure Endpoint.Rearranges (first second : Endpoint) : Prop where
  hosts : second.hosts = first.hosts
  leaves : second.ports.leaves = first.ports.leaves

theorem Endpoint.rearranges_refl (endpoint : Endpoint) : endpoint.Rearranges endpoint := ⟨rfl, rfl⟩

/-- Two intents differ in nothing but the arrangement of their ports. -/
structure Rearranges (first second : Intent) : Prop where
  rest : second = { first with
    source := second.source, destination := second.destination, redirect := second.redirect }
  source : first.source.Rearranges second.source
  destination : first.destination.Rearranges second.destination
  redirect : first.redirect.Rearranges second.redirect

theorem rearranges_refl (intent : Intent) : intent.Rearranges intent :=
  ⟨rfl, Endpoint.rearranges_refl _, Endpoint.rearranges_refl _, Endpoint.rearranges_refl _⟩

variable {first second : Value}

theorem Ports.ofValue_alike (plain : ∀ leaf ∈ first.leaves, leaf.IsPlain)
    (same : second.leaves = first.leaves) :
    Checked.Alike (fun ports other => other.leaves = ports.leaves) (Ports.ofValue first)
      (Ports.ofValue second) := by
  obtain ⟨ports, read, leaves⟩ := Ports.exists_ofValue plain
  obtain ⟨other, readOther, leavesOther⟩ := Ports.exists_ofValue (same ▸ plain)
  rw [read, readOther]
  exact .valid (leavesOther.trans (same.trans leaves.symm))

open Expansion (assign)

/-- An endpoint is read alike with another arrangement of its ports. -/
theorem Endpoint.ofValue_alike (plain : ∀ leaf ∈ first.leaves, leaf.IsPlain)
    (same : second.leaves = first.leaves) (endpoint : Value) :
    Checked.Alike Rearranges (Endpoint.ofValue (assign "port" first endpoint))
      (Endpoint.ofValue (assign "port" second endpoint)) := by
  cases endpoint with
  | object members =>
      simp only [assign, Endpoint.ofValue, model, hasWholeKeys_putEntry first second]
      split
      case isFalse => exact .invalid _
      case isTrue =>
        have hosts : Checked.Alike Eq
            (field ["host"] (.valid .absent) Hosts.ofValue (putEntry "port" first members))
            (field ["host"] (.valid .absent) Hosts.ofValue (putEntry "port" second members)) := by
          rw [field, field, given?_putEntry_of_notMem (by decide),
            given?_putEntry_of_notMem (by decide)]
          exact Checked.alike_of_eq (fun _ => rfl) rfl
        have ports : Checked.Alike (fun ports other => other.leaves = ports.leaves)
            (field ["port"] (.valid .absent) Ports.ofValue (putEntry "port" first members))
            (field ["port"] (.valid .absent) Ports.ofValue (putEntry "port" second members)) := by
          refine field_alike ?_ (Ports.ofValue_alike plain same) _
          exact fun ports => rfl
        rw [noOthers_putEntry _ first second]
        refine .seqLeft (.seq (hosts.map ?_) ports) _
        rintro found _ rfl ports other leaves
        exact ⟨rfl, leaves⟩
  | null | bool | int | float | text | list => exact Checked.alike_of_eq rearranges_refl rfl

/-- The keys under which an intent has its endpoints. -/
def endpointKeys : List String :=
  Field.source.keys ++ Field.destination.keys ++ Field.redirect.keys

theorem notMem_keys_of_endpoint {key : String} (isEndpoint : key ∈ endpointKeys) :
    ∀ field ∈ [Field.action, .returns, .direction, .family, .protocols, .interface, .inbound,
      .outbound, .masquerade], key ∉ field.keys := by
  revert key
  decide

/-- An intent is read alike with another arrangement of the ports of an endpoint. -/
theorem ofMembers_alike {members : Members} {key : String} (isEndpoint : key ∈ endpointKeys)
    (alike : Checked.Alike Endpoint.Rearranges (Endpoint.ofValue first)
      (Endpoint.ofValue second)) :
    Checked.Alike Rearranges (ofMembers (putEntry key first members))
      (ofMembers (putEntry key second members)) := by
  have others := notMem_keys_of_endpoint isEndpoint
  simp only [List.forall_mem_cons] at others
  obtain ⟨action, returns, direction, family, protocols, interface, inbound, outbound, masquerade,
    -⟩ := others
  have given : Field.givenIn (putEntry key second members) =
      Field.givenIn (putEntry key first members) := by
    simp only [Field.givenIn, given?_putEntry first second, Option.isSome_map]
  have endpoint (field : Field) :=
    @field_alike _ members field.keys key _ Endpoint.rearranges_refl _ _ _ alike
      (.valid .unspecified)
  have same {α : Type} (checked : Checked α) : Checked.Alike Eq checked checked :=
    Checked.alike_of_eq (fun _ => rfl) rfl
  unfold ofMembers
  simp only [nullable, Schema.field, given?_putEntry_of_notMem, action, returns, direction, family,
    protocols, interface, inbound, outbound, masquerade, not_false_eq_true]
  rw [noOthers_putEntry _ first second, given]
  refine .seqLeft (.seq (.seq (.seq (.seq (.seq (.seq (.seq (.seq (.seq (.seq (.seq (.seq
    ((same _).map ?_) (same _)) (same _)) (same _)) (same _)) (same _)) (same _)) (same _))
    (endpoint .source)) (endpoint .destination)) (same _)) (endpoint .redirect)) (same _)) _
  rintro action _ rfl returns _ rfl direction _ rfl family _ rfl protocols _ rfl interface _ rfl
  rintro inbound _ rfl outbound _ rfl source _ sources destination _ destinations
  rintro masquerade _ rfl redirect _ redirects given _ rfl
  exact ⟨rfl, sources, destinations, redirects⟩

end Intent

end Firewall
