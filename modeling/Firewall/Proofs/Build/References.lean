import Firewall.Proofs.Build.Carrying
import Firewall.Proofs.Build.Outcome
import Firewall.Proofs.Number.Literal

/-!
# References in order

An intent refers to hosts and to ports.  Its references are resolved one after the other, and the
first one that cannot be resolved says why the intent has no alternatives (`error?_alternatives`).

Most errors concern one host of a policy and are reported for it.  The others come from ports that
no services table can explain: values that are neither numbers nor texts, and digits that make no
number (`Value.IsUnreadable`).  An intent whose first bad reference is such a port is stuck, and no
other intent fails with an error that is not reported (`Factory.endsWork_outcome_iff`).
-/

namespace Firewall

open Resolver

/-! ## Errors of outcomes -/

section Errors

variable {α β ε : Type}

/-- The error of an outcome, if it is one. -/
def error? : Except ε α → Option ε
  | .ok _ => none
  | .error error => some error

@[simp] theorem error?_eq_some_iff {outcome : Except ε α} {error : ε} :
    error? outcome = some error ↔ outcome = .error error := by
  cases outcome <;> simp [error?]

theorem error?_eq_none_iff {outcome : Except ε α} :
    error? outcome = none ↔ ∃ value, outcome = .ok value := by
  cases outcome <;> simp [error?]

/-- Work that goes on fails for its first part, or else for what comes after it. -/
theorem error?_bind {outcome : Except ε α} {next : α → Except ε β} {rest : Option ε}
    (afterwards : ∀ value, outcome = .ok value → error? (next value) = rest) :
    error? (outcome >>= next) = (error? outcome).or rest := by
  cases outcome with
  | error error => rfl
  | ok value => exact afterwards value rfl

theorem error?_bind_of_none {outcome : Except ε α} {next : α → Except ε β}
    (afterwards : ∀ value, error? (next value) = none) :
    error? (outcome >>= next) = error? outcome := by
  rw [error?_bind fun value _ => afterwards value, Option.or_none]

/-- A list of outcomes fails for the first element that fails. -/
theorem error?_mapM (outcome : α → Except ε β) (list : List α) :
    error? (list.mapM outcome) = list.findSome? fun element => error? (outcome element) := by
  induction list with
  | nil => rfl
  | cons element rest ih =>
      rw [List.mapM_cons, List.findSome?_cons]
      cases first : outcome element with
      | error error => rfl
      | ok value =>
          change error? (rest.mapM outcome >>= fun values => .ok (value :: values)) = _
          rw [error?_bind_of_none fun values => rfl, ih]
          rfl

end Errors

/-! ## References -/

/-- What an intent refers to. -/
inductive Reference where
  /-- A host, or none. -/
  | host (reference : Option Intent.Host)
  /-- A leaf of the ports. -/
  | port (leaf : Value)

/-- Why a reference cannot be resolved. -/
def Reference.error? (services : Services) (answers : Answers) : Reference → Option BuildError
  | .host reference => Firewall.error? (Intent.hostOutcome answers reference)
  | .port leaf => Firewall.error? (Factory.portOfLeaf services leaf)

namespace Intent

/-- The references of an endpoint: its hosts, then its ports. -/
def Endpoint.references (endpoint : Endpoint) : List Reference :=
  endpoint.hosts.toList.map .host ++ endpoint.ports.leaves.map .port

/-- The references of an intent, in the order in which they are resolved. -/
def references (intent : Intent) : List Reference :=
  intent.source.references ++ intent.destination.references ++ intent.redirect.references
    ++ intent.masquerade.toList.map .host

variable {services : Services} {answers : Answers}

theorem error?_hosts (hosts : Hosts) :
    error? (hosts.outcome answers) =
      (hosts.toList.map Reference.host).findSome? (Reference.error? services answers) := by
  unfold Hosts.outcome
  rw [error?_bind_of_none fun lists => rfl, error?_mapM, List.findSome?_map]
  rfl

theorem error?_ports (ports : Ports) :
    error? (ports.outcome services) =
      (ports.leaves.map Reference.port).findSome? (Reference.error? services answers) := by
  rw [Ports.outcome, error?_mapM, List.findSome?_map]
  rfl

/-- The first reference that cannot be resolved says why there are no alternatives. -/
theorem error?_alternatives (intent : Intent) :
    error? (intent.alternatives services answers) =
      intent.references.findSome? (Reference.error? services answers) := by
  simp only [references, Endpoint.references, List.findSome?_append, ← error?_hosts,
    ← error?_ports, Option.or_assoc]
  unfold alternatives
  apply error?_bind
  intro sourceHosts _
  apply error?_bind
  intro sourcePorts _
  apply error?_bind
  intro destinationHosts _
  apply error?_bind
  intro destinationPorts _
  apply error?_bind
  intro redirectHosts _
  apply error?_bind
  intro redirectPorts _
  exact error?_bind_of_none fun masquerades => rfl

end Intent

/-! ## Errors that end the program's work -/

/-- An outcome is an error that is not reported, and so ends the program's work. -/
def EndsWork {α : Type} (outcome : Except BuildError α) : Prop :=
  ∃ error, error? outcome = some error ∧ error.isReported = false

theorem not_endsWork_pure {α : Type} (value : α) :
    ¬ EndsWork (pure value : Except BuildError α) := by
  rintro ⟨error, ⟨⟩, -⟩

/-- No port can be read from a value, and it names no service: it is neither a number nor a text, or
it is a text of digits that are not all decimal or too many. -/
def Value.IsUnreadable : Value → Prop
  | .text content =>
      content.toList ≠ [] ∧ (∀ character ∈ content.toList, Text.isDigit character = true) ∧
        ((∃ character ∈ content.toList, Text.isDecimal character = false) ∨
          Integer.digitLimit < content.toList.length)
  | .float _ | .list _ | .object _ => True
  | .null | .bool _ | .int _ => False

theorem isPortRange_of_isDigit {content : String}
    (digits : ∀ character ∈ content.toList, Text.isDigit character = true) :
    isPortRange content = false := by
  rw [Bool.eq_false_iff]
  intro range
  exact absurd (digits ':' (isPortRange_colon range)) (by decide)

/-- Digits are looked up as a number, and only as a number. -/
theorem endsWork_portOfText_of_isDigit {services : Services} {content : String}
    (nonempty : content.toList ≠ [])
    (digits : ∀ character ∈ content.toList, Text.isDigit character = true) :
    EndsWork (Factory.portOfText services content) ↔
      ¬ ∃ number, Integer.read content = .ok number := by
  have isNumber : (!content.isEmpty && content.toList.all Text.isDigit) = true := by
    simpa [← String.toList_eq_nil_iff] using And.intro nonempty digits
  rw [Factory.portOfText, isPortRange_of_isDigit digits, if_neg Bool.false_ne_true, if_pos isNumber]
  cases Integer.read content with
  | ok number => simp [EndsWork, error?]
  | error fault => simp [EndsWork, BuildError.isReported]

/-- A text that is not made of digits is an unknown service at worst. -/
theorem not_endsWork_portOfText {services : Services} {content : String}
    (noDigits : ¬ (content.toList ≠ [] ∧
      ∀ character ∈ content.toList, Text.isDigit character = true)) :
    ¬ EndsWork (Factory.portOfText services content) := by
  have noNumber : ¬ (!content.isEmpty && content.toList.all Text.isDigit) = true := by
    simpa [← String.toList_eq_nil_iff] using noDigits
  rintro ⟨error, failed, unreported⟩
  rw [error?_eq_some_iff, Factory.portOfText, if_neg noNumber] at failed
  split at failed
  · contradiction
  · split at failed
    · contradiction
    · cases failed
      contradiction

theorem endsWork_portOfText_iff (services : Services) {content : String} :
    EndsWork (Factory.portOfText services content) ↔ (Value.text content).IsUnreadable := by
  by_cases digits : content.toList ≠ [] ∧
      ∀ character ∈ content.toList, Text.isDigit character = true
  · rw [endsWork_portOfText_of_isDigit digits.1 digits.2,
      Integer.read_of_isDigit digits.1 digits.2, not_and_or]
    constructor
    · exact fun noNumber => ⟨digits.1, digits.2, by simpa using noNumber⟩
    · exact fun unreadable => by simpa using unreadable.2.2
  · constructor
    · exact fun ends => absurd ends (not_endsWork_portOfText digits)
    · exact fun unreadable => absurd ⟨unreadable.1, unreadable.2.1⟩ digits

/-- The port of a leaf ends the work exactly when the leaf is unreadable. -/
theorem endsWork_portOfLeaf_iff {services : Services} {leaf : Value} :
    EndsWork (Factory.portOfLeaf services leaf) ↔ leaf.IsUnreadable := by
  cases leaf with
  | null | int | bool =>
      constructor
      · intro ends
        exact absurd ends (not_endsWork_pure _)
      · intro unreadable
        exact False.elim unreadable
  | float number => exact ⟨fun _ => trivial, fun _ => ⟨_, rfl, rfl⟩⟩
  | list items => exact ⟨fun _ => trivial, fun _ => ⟨_, rfl, rfl⟩⟩
  | object members => exact ⟨fun _ => trivial, fun _ => ⟨_, rfl, rfl⟩⟩
  | text content =>
      rw [← endsWork_portOfText_iff services, Factory.portOfLeaf]
      cases Factory.portOfText services content with
      | ok port => exact iff_of_false (not_endsWork_pure _) (not_endsWork_pure _)
      | error error => rfl

/-- Where no name ends the work, only an unreadable port does. -/
theorem Reference.endsWork_iff (services : Services) {answers : Answers}
    (answered : ∀ name, ¬ EndsWork (answers name)) {reference : Reference} :
    (∃ error, reference.error? services answers = some error ∧ error.isReported = false) ↔
      ∃ leaf, reference = .port leaf ∧ leaf.IsUnreadable := by
  cases reference with
  | port leaf =>
      constructor
      · exact fun ends => ⟨leaf, rfl, endsWork_portOfLeaf_iff.mp ends⟩
      · rintro ⟨_, ⟨⟩, unreadable⟩
        exact endsWork_portOfLeaf_iff.mpr unreadable
  | host host =>
      constructor
      · rintro ⟨error, failed, unreported⟩
        match host with
        | none => contradiction
        | some (.address address) => contradiction
        | some (.named name) =>
            refine absurd ⟨error, ?_, unreported⟩ (answered name)
            rw [← failed]
            exact (error?_bind_of_none fun addresses => rfl).symm
      · rintro ⟨leaf, ⟨⟩, -⟩

theorem endsWork_bind_iff {α β : Type} {outcome : Except BuildError α}
    {next : α → Except BuildError β} (afterwards : ∀ value, ¬ EndsWork (next value)) :
    EndsWork (outcome >>= next) ↔ EndsWork outcome := by
  cases outcome with
  | error error => exact Iff.rfl
  | ok value => exact ⟨fun ends => absurd ends (afterwards value), nofun⟩

theorem not_endsWork_batch (reached : List Verdict × Option Schema.Invalid) :
    ¬ EndsWork (Verdict.batch reached) := by
  obtain ⟨verdicts, invalid⟩ := reached
  rintro ⟨error, failed, unreported⟩
  cases invalid with
  | none => contradiction
  | some invalid =>
      cases failed
      contradiction

/-- The first reference of an intent that cannot be resolved is an unreadable port. -/
def Intent.IsStuck (services : Services) (answers : Answers) (intent : Intent) : Prop :=
  intent.isEmpty = false ∧
    ∃ front leaf back, intent.references = front ++ .port leaf :: back ∧
      (∀ reference ∈ front, reference.error? services answers = none) ∧ leaf.IsUnreadable

/-- A build ends the work exactly when its intent is stuck. -/
theorem Factory.endsWork_outcome_iff {factory : Factory} {intent : Intent}
    {restriction : Option Family} {answers : Answers}
    (answered : ∀ name, ¬ EndsWork (answers name)) :
    EndsWork (factory.outcome intent restriction answers) ↔
      intent.IsStuck factory.services answers := by
  unfold Factory.outcome Intent.IsStuck
  by_cases empty : intent.isEmpty = true
  · rw [if_pos empty, empty]
    exact ⟨nofun, nofun⟩
  · have nonempty : intent.isEmpty = false := by simpa using empty
    rw [if_neg empty, endsWork_bind_iff fun alternatives => not_endsWork_batch _, EndsWork,
      Intent.error?_alternatives]
    simp only [List.findSome?_eq_some_iff]
    constructor
    · rintro ⟨error, ⟨front, reference, back, split, failed, resolved⟩, unreported⟩
      obtain ⟨leaf, rfl, unreadable⟩ :=
        (Reference.endsWork_iff _ answered).mp ⟨error, failed, unreported⟩
      exact ⟨nonempty, front, leaf, back, split, resolved, unreadable⟩
    · rintro ⟨-, front, leaf, back, split, resolved, unreadable⟩
      obtain ⟨error, failed, unreported⟩ :=
        (Reference.endsWork_iff factory.services answered).mpr ⟨leaf, rfl, unreadable⟩
      exact ⟨error, ⟨front, .port leaf, back, split, failed, resolved⟩, unreported⟩

end Firewall
