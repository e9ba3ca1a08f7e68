import Firewall.Event
import Firewall.Table

/-!
# What has happened so far

Work on intents leaves two things behind, also when it fails: the names that are known from earlier
answers of the system, and the events.  `Recorded` is such work.
-/

namespace Firewall

/-- The known names, and the events in order. -/
structure History where
  known : Table String (List Address)
  events : List Event

/-- Nothing has happened. -/
def History.empty : History := ⟨Table.empty, []⟩

/-- Work that may fail and leaves its history either way. -/
abbrev Recorded (ε α : Type) := ExceptT ε (StateM History) α

namespace Recorded

variable {ε α : Type}

/-- Adds events to the history. -/
def note (events : List Event) : Recorded ε Unit :=
  modifyThe History fun history => { history with events := history.events ++ events }

/-- Work that does nothing but succeed or fail. -/
def ofExcept : Except ε α → Recorded ε α
  | .ok value => pure value
  | .error error => throw error

/-- The outcome of some work and its history. -/
def after (work : Recorded ε α) (history : History) : Except ε α × History :=
  Id.run (StateT.run (ExceptT.run work) history)

end Recorded

def lookups (events : List Event) : List String :=
  events.filterMap fun
    | .resolving name => some name
    | _ => none

end Firewall
