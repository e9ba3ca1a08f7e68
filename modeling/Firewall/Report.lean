import Firewall.Distinct
import Firewall.Text.CodePoint

/-!
# Reports

A report collects what went wrong for which host: errors, and warnings, which are no failures.  Its
summary groups the entries by host, the hosts in ascending order.  The cause of an entry may be of
any type that can be written as a text.
-/

namespace Firewall

/-- How bad an entry of a report is. -/
inductive Severity where
  | warning
  | error
  deriving DecidableEq, Repr

namespace Severity

/-- The word for a severity. -/
def word : Severity → String
  | .warning => "warning"
  | .error => "error"

/-- The severity that a word names. -/
def ofWord? (text : String) : Option Severity :=
  [Severity.warning, .error].find? fun severity => severity.word == text

/-- The label of a severity in a summary. -/
def label : Severity → String
  | .warning => "WARNING"
  | .error => "ERROR"

end Severity

/-- An entry of a report. -/
structure Entry (ε : Type) where
  host : String
  message : String
  cause : Option ε
  severity : Severity

namespace Entry

variable {ε : Type} [ToString ε]

/-- The message with its cause. -/
def description (entry : Entry ε) : String :=
  match entry.cause with
  | some cause => entry.message ++ ": " ++ toString cause
  | none => entry.message

def text (entry : Entry ε) : String :=
  "[" ++ entry.host ++ "] " ++ entry.description

end Entry

/-- A report: entries in the order they were added. -/
structure Report (ε : Type) where
  entries : List (Entry ε)

/-- A line of a summary. -/
inductive SummaryLine where
  /-- Nothing was reported. -/
  | allClear
  /-- A rule across the page. -/
  | divider
  | title
  | heading (host : String) (entries : Nat)
  | entry (severity : Severity) (description : String)
  | closing (errors warnings : Nat)
  | closingWarnings (warnings : Nat)
  | notWritten
  deriving DecidableEq, Repr

def SummaryLine.text : SummaryLine → String
  | .allClear => "Compilation completed with no errors"
  | .divider => String.ofList (List.replicate 80 '=')
  | .title => "COMPILATION ERROR SUMMARY"
  | .heading host entries => "Host: " ++ host ++ " (" ++ toString entries ++ " issues)"
  | .entry severity description => "  [" ++ severity.label ++ "] " ++ description
  | .closing errors warnings =>
      "Compilation completed with " ++ toString errors ++ " error(s) and " ++ toString warnings
        ++ " warning(s)"
  | .closingWarnings warnings =>
      "Compilation completed with " ++ toString warnings ++ " warning(s)"
  | .notWritten => "Rulesets of failed hosts were not written."

namespace Report

variable {ε : Type}

def empty : Report ε := ⟨[]⟩

/-- The report with one more entry. -/
def add (report : Report ε) (entry : Entry ε) : Report ε :=
  ⟨report.entries ++ [entry]⟩

@[simp] theorem entries_empty : (empty : Report ε).entries = [] := rfl

@[simp] theorem entries_add (report : Report ε) (entry : Entry ε) :
    (report.add entry).entries = report.entries ++ [entry] := rfl

def count (report : Report ε) (severity : Severity) : Nat :=
  report.entries.countP (·.severity == severity)

def has (report : Report ε) (severity : Severity) : Bool :=
  report.entries.any (·.severity == severity)

/-- The hosts with an error, in the order of their first errors. -/
def failedHosts (report : Report ε) : List String :=
  distinct ((report.entries.filter (·.severity == .error)).map Entry.host)

/-- The hosts with an entry, in ascending order. -/
def hosts (report : Report ε) : List String :=
  (distinct (report.entries.map Entry.host)).mergeSort Text.isInOrder

/-- The entries of a host. -/
def entriesOf (report : Report ε) (host : String) : List (Entry ε) :=
  report.entries.filter (·.host == host)

/-- The lines for one host: its heading and its entries. -/
def hostLines (report : Report ε) [ToString ε] (host : String) : List SummaryLine :=
  .heading host (report.entriesOf host).length
    :: (report.entriesOf host).map fun entry => .entry entry.severity entry.description

/-- The summary of a report. -/
def summary (report : Report ε) [ToString ε] : List SummaryLine :=
  if report.entries.isEmpty then [.allClear]
  else
    [.divider, .title, .divider] ++ report.hosts.flatMap report.hostLines ++ [.divider]
      ++ (if 0 < report.count .error then
            [.closing (report.count .error) (report.count .warning), .notWritten]
          else [.closingWarnings (report.count .warning)])

end Report

end Firewall
