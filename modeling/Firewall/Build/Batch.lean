import Firewall.Build.Combination
import Firewall.Event

/-!
# Batches

Each combination of an intent gets a verdict: its rule is kept, or it is dropped because it mixes
two families, or its rule is outside the family asked for.  A batch holds the rules that are kept
and counts the others.
-/

namespace Firewall

/-- What becomes of a combination. -/
inductive Verdict where
  | kept (rule : Rule)
  | dropped (conflict : FamilyConflict)
  | filtered (family restriction : Family)

/-- The rules built from an intent, and how many combinations gave none. -/
structure Batch where
  kept : List Rule
  dropped : Nat
  filtered : Nat

namespace Batch

/-- The batch without anything. -/
def empty : Batch := ⟨[], 0, 0⟩

/-- The number of combinations that were tried. -/
def attempts (batch : Batch) : Nat :=
  batch.kept.length + batch.dropped + batch.filtered

end Batch

namespace Verdict

/-- The verdict on a rule under a restriction. -/
def onRule (restriction : Option Family) (rule : Rule) : Verdict :=
  match rule.family, restriction with
  | some family, some required =>
      if family = required then .kept rule else .filtered family required
  | _, _ => .kept rule

/-- The verdict on a combination; there is none if its rule is not valid. -/
def onCombination (intent : Intent) (restriction : Option Family) (combination : Combination) :
    Except Schema.Invalid Verdict :=
  match combination.rule intent with
  | .ok rule => .ok (onRule restriction rule)
  | .error (.conflict conflict) => .ok (.dropped conflict)
  | .error (.invalid invalid) => .error invalid

def rule? : Verdict → Option Rule
  | .kept rule => some rule
  | _ => none

def isDropped : Verdict → Bool
  | .dropped _ => true
  | _ => false

def isFiltered : Verdict → Bool
  | .filtered .. => true
  | _ => false

/-- The event of a verdict. -/
def event? : Verdict → Option Event
  | .kept _ => none
  | .dropped conflict => some (.dropped conflict)
  | .filtered family required => some (.filtered family required)

end Verdict

/-- The batch of some verdicts. -/
def Batch.ofVerdicts (verdicts : List Verdict) : Batch where
  kept := verdicts.filterMap Verdict.rule?
  dropped := verdicts.countP Verdict.isDropped
  filtered := verdicts.countP Verdict.isFiltered

/-- The verdicts on combinations up to the first that is not valid, and why it is not. -/
def Verdict.onAll (intent : Intent) (restriction : Option Family) :
    List Combination → List Verdict × Option Schema.Invalid
  | [] => ([], none)
  | combination :: rest =>
      match onCombination intent restriction combination with
      | .error invalid => ([], some invalid)
      | .ok verdict =>
          let (verdicts, invalid) := onAll intent restriction rest
          (verdict :: verdicts, invalid)

end Firewall
