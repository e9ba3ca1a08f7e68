import Firewall.Build.Factory

/-!
# Sessions

A session is a sequence of steps on one factory.  A scope holds builds to one choice of family.  It
can be entered once, and is closed for good when it is left; no scope can be taken from another.  A
step that runs a body with a scope closes that scope when the body ends, in whatever way.
-/

namespace Firewall

/-- How far a scope is in its life. -/
inductive Phase where
  | new
  | active
  | closed
  deriving DecidableEq, Repr

/-- A choice of family for builds. -/
structure Scope where
  choice : FamilyChoice
  phase : Phase
  deriving DecidableEq, Repr

/-- Why a step fails. -/
inductive SessionError where
  | build (error : BuildError)
  /-- A scope is restricted already. -/
  | alreadyScoped
  | scopeClosed (choice : FamilyChoice)
  /-- No scope goes by this name. -/
  | noScope (name : String)

def SessionError.message : SessionError → String
  | .build error => error.message
  | .alreadyScoped => "Address family already scoped"
  | .scopeClosed choice => "Address family scope " ++ choice.name ++ " is closed"
  | .noScope name => Text.quote name

/-- A step.  It works on the factory, or on the scope that goes by a name. -/
inductive Step where
  /-- Builds an intent under a restriction. -/
  | build (on : Option String) (intent restriction : Value)
  /-- Takes a scope and gives it a name. -/
  | take (on : Option String) (family : Value) (name : String)
  | enter (on : String)
  | leave (on : String)
  /-- Takes a scope, enters it, gives it a name, runs some steps and leaves it.  A step that is
  marked ends the body when it fails. -/
  | within (on : Option String) (family : Value) (name : String) (body : List (Step × Bool))
  deriving Inhabited

/-- What a step gives. -/
inductive Outcome where
  | batch (batch : Batch)
  | taken (choice : FamilyChoice)
  | entered
  | left
  | body (outcomes : List Outcome)
  | failed (error : SessionError)

def Outcome.error? : Outcome → Option SessionError
  | .failed error => some error
  | _ => none

/-- The outcome of something that may fail. -/
def Outcome.ofExcept {α : Type} (outcome : α → Outcome) : Except SessionError α → Outcome
  | .ok value => outcome value
  | .error error => .failed error

/-- A session: all scopes ever taken, the scopes that the names stand for, and the history. -/
structure Session where
  scopes : List Scope
  names : Table String Nat
  history : History

namespace Session

/-- The session before its first step. -/
def start : Session := ⟨[], Table.empty, .empty⟩

/-- The number of the scope with a name, and the scope. -/
def find (session : Session) (name : String) : Except SessionError (Nat × Scope) :=
  match session.names.get? name with
  | none => .error (.noScope name)
  | some number =>
      match session.scopes[number]? with
      | some scope => .ok (number, scope)
      | none => .error (.noScope name)

/-- Changes the phase of a scope. -/
def setPhase (session : Session) (number : Nat) (phase : Phase) : Session :=
  { session with scopes := session.scopes.modify number fun scope => { scope with phase } }

/-- Adds a scope, under a name. -/
def add (session : Session) (name : String) (scope : Scope) : Session :=
  { session with
    scopes := session.scopes ++ [scope]
    names := session.names.put name session.scopes.length }

/-- The restriction under which a scope builds, if it builds at all. -/
def restrictionOf (scope : Scope) (restriction : Value) : Except SessionError (Option Family) :=
  match restriction with
  | .null =>
      if scope.phase = .closed then .error (.scopeClosed scope.choice)
      else .ok scope.choice.restriction
  | _ => .error .alreadyScoped

/-- The build of a step. -/
def batchOf (factory : Factory) (session : Session) (intent : Value)
    (restriction : Except BuildError (Option Family)) : Outcome × Session :=
  let (result, history) := (factory.buildDocument intent restriction).after session.history
  (match result with
    | .ok batch => .batch batch
    | .error error => .failed (.build error),
    { session with history })

/-- Builds an intent on the factory or on a scope. -/
def build (factory : Factory) (session : Session) (on : Option String)
    (intent restriction : Value) : Outcome × Session :=
  match on with
  | none => batchOf factory session intent (FamilyChoice.readRestriction restriction)
  | some name =>
      match session.find name with
      | .error error => (.failed error, session)
      | .ok (_, scope) =>
          match restrictionOf scope restriction with
          | .error error => (.failed error, session)
          | .ok restriction => batchOf factory session intent (.ok restriction)

/-- The choice of family for a new scope; only the factory gives one. -/
def choose (session : Session) (on : Option String) (family : Value) :
    Except SessionError FamilyChoice :=
  match on with
  | some name => do
      discard (session.find name)
      throw .alreadyScoped
  | none => (FamilyChoice.read family).mapError .build

/-- Enters a scope for the first time. -/
def enter (session : Session) (name : String) : Outcome × Session :=
  match session.find name with
  | .error error => (.failed error, session)
  | .ok (number, scope) =>
      if scope.phase = .new then (.entered, session.setPhase number .active)
      else (.failed .alreadyScoped, session)

def leave (session : Session) (name : String) : Outcome × Session :=
  match session.find name with
  | .error error => (.failed error, session)
  | .ok (number, _) => (.left, session.setPhase number .closed)

mutual

/-- Runs a step. -/
def run (factory : Factory) (session : Session) : Step → Outcome × Session
  | .build on intent restriction => session.build factory on intent restriction
  | .take on family name =>
      match session.choose on family with
      | .error error => (.failed error, session)
      | .ok choice => (.taken choice, session.add name ⟨choice, .new⟩)
  | .enter on => session.enter on
  | .leave on => session.leave on
  | .within on family name body =>
      match session.choose on family with
      | .error error => (.failed error, session)
      | .ok choice =>
          let number := session.scopes.length
          let (result, session) := runBody factory (session.add name ⟨choice, .active⟩) body
          (Outcome.ofExcept .body result, session.setPhase number .closed)

/-- Runs the steps of a body up to a marked one that fails. -/
def runBody (factory : Factory) (session : Session) :
    List (Step × Bool) → Except SessionError (List Outcome) × Session
  | [] => (.ok [], session)
  | (step, marked) :: rest =>
      let (outcome, session) := run factory session step
      match marked, outcome.error? with
      | true, some error => (.error error, session)
      | _, _ =>
          let (outcomes, session) := runBody factory session rest
          (outcomes.map (outcome :: ·), session)

end

def runAll (factory : Factory) (session : Session) : List Step → List Outcome × Session
  | [] => ([], session)
  | step :: rest =>
      let (outcome, session) := session.run factory step
      let (outcomes, session) := session.runAll factory rest
      (outcome :: outcomes, session)

end Session

end Firewall
