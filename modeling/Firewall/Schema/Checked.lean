import Firewall.Schema.Issue

/-!
# Checked values

The outcome of reading a part of a document: a value, or the issues found.  Parts are put together
as an applicative functor, and the issues of all parts are kept, in the order of the parts.
-/

namespace Firewall.Schema

/-- A value, or what is wrong with it. -/
inductive Checked (α : Type) where
  | valid (value : α)
  | invalid (issues : List Issue)

namespace Checked

variable {α β : Type}

def issue (kind : IssueKind) : Checked α := .invalid [⟨kind, []⟩]

def issues : Checked α → List Issue
  | .valid _ => []
  | .invalid issues => issues

/-- Applies a checked function to a checked value, and keeps the issues of both. -/
def apply : Checked (α → β) → Checked α → Checked β
  | .valid function, .valid value => .valid (function value)
  | .invalid issues, checked => .invalid (issues ++ checked.issues)
  | .valid _, .invalid issues => .invalid issues

instance : Applicative Checked where
  pure := .valid
  seq function value := apply function (value ())

def under (step : Step) : Checked α → Checked α
  | .valid value => .valid value
  | .invalid issues => .invalid (issues.map fun issue => { issue with path := step :: issue.path })

/-- The second outcome if the first is not valid; if neither is, the issues of both. -/
def orElse (first second : Checked α) : Checked α :=
  match first, second with
  | .valid value, _ => .valid value
  | .invalid _, .valid value => .valid value
  | .invalid issues, .invalid others => .invalid (issues ++ others)

/-- Checks a value further, once it is valid. -/
def further (checked : Checked α) (check : α → Checked β) : Checked β :=
  match checked with
  | .valid value => check value
  | .invalid issues => .invalid issues

/-- The value, or the issues as those of a model. -/
def toExcept (model : String) : Checked α → Except Invalid α
  | .valid value => .ok value
  | .invalid issues => .error ⟨model, issues⟩

/-- All values of a list, each issue under the index of its item. -/
def items (read : α → Checked β) (position : Nat) : List α → Checked (List β)
  | [] => .valid []
  | item :: rest =>
      List.cons <$> (read item).under (.index position) <*> items read (position + 1) rest

@[simp] theorem seq_valid_valid (function : α → β) (value : α) :
    (valid function <*> valid value : Checked β) = valid (function value) := rfl

@[simp] theorem map_valid (function : α → β) (value : α) :
    (function <$> valid value : Checked β) = valid (function value) := rfl

@[simp] theorem map_invalid (function : α → β) (issues : List Issue) :
    (function <$> (invalid issues : Checked α)) = invalid issues := rfl

theorem seq_eq_valid_iff {function : Checked (α → β)} {argument : Checked α} {result : β} :
    (function <*> argument) = valid result ↔
      ∃ make value, function = valid make ∧ argument = valid value ∧ make value = result := by
  constructor
  · intro equal
    cases function <;> cases argument <;> simp_all [Seq.seq, apply]
  · rintro ⟨make, value, rfl, rfl, rfl⟩
    rfl

end Checked

end Firewall.Schema
