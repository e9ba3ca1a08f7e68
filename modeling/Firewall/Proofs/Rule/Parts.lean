import Firewall.Rule.Reader

/-!
# Parts of a rule

A rule is read from its parts exactly when every part is valid, and then it consists of their values
(`ofParts_eq_ok_iff`, `fields_eq_valid_iff`).
-/

namespace Firewall

open Schema

namespace Schema.Checked

variable {α β : Type}

theorem map_eq_valid_iff {function : α → β} {checked : Checked α} {result : β} :
    function <$> checked = .valid result ↔
      ∃ value, checked = .valid value ∧ function value = result := by
  cases checked <;> simp

theorem seqLeft_eq_valid_iff {checked : Checked α} {other : Checked β} {result : α} :
    (checked <* other) = .valid result ↔
      checked = .valid result ∧ ∃ value, other = .valid value := by
  cases checked <;> cases other <;> simp [SeqLeft.seqLeft, apply]

theorem under_eq_valid_iff {step : Step} {checked : Checked α} {result : α} :
    checked.under step = .valid result ↔ checked = .valid result := by
  cases checked with
  | valid value => rfl
  | invalid issues => exact ⟨nofun, nofun⟩

end Schema.Checked

namespace Rule

/-- The parts make up some fields exactly when each part is the field of its name. -/
theorem fields_eq_valid_iff {parts : Parts} {fields : Fields} :
    parts.fields = .valid fields ↔
      parts.action = .valid fields.action ∧ parts.returns = .valid fields.returns ∧
      parts.direction = .valid fields.direction ∧ parts.family = fields.family ∧
      parts.protocol = .valid fields.protocol ∧ parts.interface = .valid fields.interface ∧
      parts.inbound = .valid fields.inbound ∧ parts.outbound = .valid fields.outbound ∧
      parts.source = .valid fields.source ∧ parts.destination = .valid fields.destination ∧
      parts.masquerade = .valid fields.masquerade ∧ parts.redirect = .valid fields.redirect ∧
      ∃ value, parts.others = .valid value := by
  constructor
  · simp only [Parts.fields, Checked.seqLeft_eq_valid_iff, Checked.seq_eq_valid_iff,
      Checked.map_eq_valid_iff]
    -- The fields are taken apart from the last one to the first, as they were put together.
    rintro ⟨⟨_, _, ⟨_, _, ⟨_, _, ⟨_, _, ⟨_, _, ⟨_, _, ⟨_, _, ⟨_, _, ⟨_, _, ⟨_, _, ⟨_, _, ⟨_,
      action, rfl⟩, returns, rfl⟩, direction, rfl⟩, family, rfl⟩, protocol, rfl⟩, interface, rfl⟩,
      inbound, rfl⟩, outbound, rfl⟩, source, rfl⟩, destination, rfl⟩, masquerade, rfl⟩,
      redirect, rfl⟩, others⟩
    cases family
    exact ⟨action, returns, direction, rfl, protocol, interface, inbound, outbound, source,
      destination, masquerade, redirect, others⟩
  · rintro ⟨action, returns, direction, family, protocol, interface, inbound, outbound, source,
      destination, masquerade, redirect, value, others⟩
    simp only [Parts.fields, action, returns, direction, family, protocol, interface, inbound,
      outbound, source, destination, masquerade, redirect, others]
    rfl

theorem ofFields_eq_valid_iff {fields : Fields} {rule : Rule} :
    ofFields fields = .valid rule ↔ fields = rule.toFields := by
  constructor
  · intro valid
    rw [ofFields] at valid
    split at valid
    · split at valid
      · cases valid
        rfl
      · contradiction
    · contradiction
  · rintro rfl
    rw [ofFields, dif_pos rule.targeted, dif_pos rule.redirected]

/-- A rule is read from its parts exactly when they make up its fields. -/
theorem ofParts_eq_ok_iff {parts : Parts} {rule : Rule} :
    ofParts parts = .ok rule ↔ parts.fields = .valid rule.toFields := by
  unfold ofParts
  cases parts.fields with
  | invalid issues => exact ⟨nofun, nofun⟩
  | valid fields =>
      dsimp only [Checked.further]
      rw [Checked.valid.injEq, ← ofFields_eq_valid_iff]
      cases ofFields fields with
      | invalid issues => exact ⟨nofun, nofun⟩
      | valid found => simp [Checked.toExcept]

theorem ofParts_ne_conflict (parts : Parts) (conflict : FamilyConflict) :
    ofParts parts ≠ .error (.conflict conflict) := by
  unfold ofParts
  generalize (parts.fields.further ofFields).toExcept "Rule" = read
  cases read with
  | ok rule => exact nofun
  | error invalid => exact nofun

end Rule

end Firewall
