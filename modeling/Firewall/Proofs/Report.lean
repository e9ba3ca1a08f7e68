import Firewall.Proofs.Grouping
import Firewall.Report

/-!
# What a report recounts

A report is a list of entries, and everything it is asked for is counted out of that list anew: how
many errors and warnings there are, which hosts failed, and the summary.  The answers agree with
each other and with the entries (`Report.ofEntries_recounts`).  The summary is made of one section
for each host, and the sections together hold every entry once (`Report.IsSectioned`).  What is
printed of a section are the texts `Section.texts`.
-/

namespace Firewall

namespace Text

/-- The code points of a text do not come behind those of another in the order of a dictionary. -/
def IsUpTo (first second : String) : Prop :=
  ¬ List.Lex (· < ·) (codePoints second) (codePoints first)

theorem isInOrder_iff {first second : String} :
    isInOrder first second = true ↔ IsUpTo first second := by
  rw [isInOrder, Bool.not_eq_true']
  exact List.lex_eq_false_iff_ge

theorem IsUpTo.trans {first second third : String} (firstUp : IsUpTo first second)
    (secondUp : IsUpTo second third) : IsUpTo first third :=
  @List.le_trans Nat _ _ _ _ (codePoints first) (codePoints second) (codePoints third)
    firstUp secondUp

theorem isUpTo_total (first second : String) : IsUpTo first second ∨ IsUpTo second first :=
  @List.le_total Nat _ _ (codePoints first) (codePoints second)

end Text

namespace Report

variable {ε : Type}

/-- The report to which some entries are added, one after the other. -/
def ofEntries (entries : List (Entry ε)) : Report ε := entries.foldl add empty

@[simp] theorem entries_ofEntries (entries : List (Entry ε)) :
    (ofEntries entries).entries = entries := by
  have added (report : Report ε) :
      (entries.foldl add report).entries = report.entries ++ entries := by
    induction entries generalizing report with
    | nil => exact (List.append_nil _).symm
    | cons entry rest ih => rw [List.foldl_cons, ih, entries_add, List.append_assoc]; rfl
  exact added empty

/-! ## Counts -/

theorem count_add_count (report : Report ε) :
    report.count .error + report.count .warning = report.entries.length := by
  rw [count, count, List.length_eq_countP_add_countP (·.severity == .error)]
  congr 1
  apply List.countP_congr
  intro entry _
  cases entry.severity <;> decide

theorem has_iff_count (report : Report ε) (severity : Severity) :
    report.has severity = true ↔ 0 < report.count severity := by
  rw [has, count, List.any_eq_true, List.countP_pos_iff]

/-! ## Hosts that failed -/

theorem mem_failedHosts_iff {report : Report ε} {host : String} :
    host ∈ report.failedHosts ↔
      ∃ entry ∈ report.entries, entry.severity = .error ∧ entry.host = host := by
  simp [failedHosts, and_assoc]

theorem has_error_iff (report : Report ε) :
    report.has .error = true ↔ report.failedHosts ≠ [] := by
  rw [has, List.any_eq_true]
  constructor
  · rintro ⟨entry, member, isError⟩
    exact List.ne_nil_of_mem (mem_failedHosts_iff.mpr ⟨entry, member, beq_iff_eq.mp isError, rfl⟩)
  · intro nonempty
    obtain ⟨host, failed⟩ := List.exists_mem_of_ne_nil _ nonempty
    obtain ⟨entry, member, isError, -⟩ := mem_failedHosts_iff.mp failed
    exact ⟨entry, member, beq_iff_eq.mpr isError⟩

/-- A host comes behind those that failed before its first error. -/
theorem failedHosts_split {front back : List (Entry ε)} {entry : Entry ε}
    (isError : entry.severity = .error)
    (first : ∀ earlier ∈ front, earlier.severity = .error → earlier.host ≠ entry.host) :
    ∃ later, (ofEntries (front ++ entry :: back)).failedHosts =
      (ofEntries front).failedHosts ++ entry.host :: later := by
  have fresh : entry.host ∉ (front.filter (·.severity == .error)).map Entry.host := by
    intro member
    obtain ⟨earlier, inFront, same⟩ := List.mem_map.mp member
    obtain ⟨inFront, alsoError⟩ := List.mem_filter.mp inFront
    exact first earlier inFront (beq_iff_eq.mp alsoError) same
  have counts : (entry.severity == Severity.error) = true := beq_iff_eq.mpr isError
  simp only [failedHosts, entries_ofEntries, List.filter_append, List.filter_cons, counts, if_true,
    List.map_append, List.map_cons, distinct_append, distinct]
  rw [if_pos (by simpa using fresh)]
  exact ⟨_, rfl⟩

/-! ## The summary -/

/-- A section of a summary. -/
structure Section (ε : Type) where
  host : String
  entries : List (Entry ε)

/-- What is said of the cause of an entry, behind its message. -/
def causeText [ToString ε] (entry : Entry ε) : String :=
  entry.cause.elim "" fun cause => ": " ++ toString cause

/-- The lines of a section: a heading with the number of its entries, and the entries below it. -/
def Section.lines [ToString ε] (part : Section ε) : List SummaryLine :=
  .heading part.host part.entries.length
    :: part.entries.map fun entry => .entry entry.severity (entry.message ++ causeText entry)

/-- What is printed of a section. -/
def Section.texts [ToString ε] (part : Section ε) : List String :=
  ("Host: " ++ part.host ++ " (" ++ toString part.entries.length ++ " issues)")
    :: part.entries.map fun entry =>
      "  [" ++ (if entry.severity = .error then "ERROR" else "WARNING") ++ "] " ++ entry.message
        ++ causeText entry

/-- What is printed across the page. -/
def divider : String := String.ofList (List.replicate 80 '=')

/-- What is printed at the end of a summary. -/
def closingTexts (errors warnings : Nat) : List String :=
  if errors = 0 then ["Compilation completed with " ++ toString warnings ++ " warning(s)"]
  else
    ["Compilation completed with " ++ toString errors ++ " error(s) and " ++ toString warnings
      ++ " warning(s)", "Rulesets of failed hosts were not written."]

/-- Sections hold some entries: every entry is in one place, under its own host. -/
structure IsSectioned (entries : List (Entry ε)) (parts : List (Section ε)) : Prop where
  once : (parts.flatMap Section.entries).Perm entries
  own : ∀ part ∈ parts, part.entries ≠ [] ∧ ∀ entry ∈ part.entries, entry.host = part.host
  inOrder : ∀ part ∈ parts, part.entries.Sublist entries
  nodup : (parts.map Section.host).Nodup
  ascending : (parts.map Section.host).Pairwise Text.IsUpTo

def sections (report : Report ε) : List (Section ε) :=
  report.hosts.map fun host => ⟨host, report.entriesOf host⟩

theorem mem_hosts_iff {report : Report ε} {host : String} :
    host ∈ report.hosts ↔ ∃ entry ∈ report.entries, entry.host = host := by
  simp [hosts]

theorem nodup_hosts (report : Report ε) : report.hosts.Nodup :=
  (List.mergeSort_perm _ _).nodup_iff.mpr (nodup_distinct _)

theorem ascending_hosts (report : Report ε) : report.hosts.Pairwise Text.IsUpTo := by
  have sorted : report.hosts.Pairwise fun first second => Text.isInOrder first second = true := by
    apply List.pairwise_mergeSort
    · intro first second third
      simp only [Text.isInOrder_iff]
      exact Text.IsUpTo.trans
    · intro first second
      simp only [Bool.or_eq_true, Text.isInOrder_iff]
      exact Text.isUpTo_total first second
  exact sorted.imp Text.isInOrder_iff.mp

theorem isSectioned_sections (report : Report ε) : IsSectioned report.entries report.sections where
  once := by
    have grouped : (groupBy Entry.host report.hosts report.entries).Perm _ :=
      groupBy_perm report.nodup_hosts report.entries
    have all : report.entries.filter (fun entry => entry.host ∈ report.hosts) = report.entries := by
      rw [List.filter_eq_self]
      intro entry member
      simpa using mem_hosts_iff.mpr ⟨entry, member, rfl⟩
    rw [all] at grouped
    rw [sections, List.flatMap_map]
    exact grouped
  own := by
    intro part isPart
    obtain ⟨host, isHost, rfl⟩ := List.mem_map.mp isPart
    obtain ⟨entry, member, same⟩ := mem_hosts_iff.mp isHost
    constructor
    · have isThere : entry ∈ report.entriesOf host := by simp [entriesOf, member, same]
      exact List.ne_nil_of_mem isThere
    · intro other inPart
      simpa using (List.mem_filter.mp inPart).2
  inOrder := by
    intro part isPart
    obtain ⟨host, -, rfl⟩ := List.mem_map.mp isPart
    exact List.filter_sublist
  nodup := by
    rw [sections, List.map_map]
    simpa [Function.comp_def] using report.nodup_hosts
  ascending := by
    rw [sections, List.map_map]
    simpa [Function.comp_def] using report.ascending_hosts

theorem description_eq [ToString ε] (entry : Entry ε) :
    entry.description = entry.message ++ causeText entry := by
  rw [Entry.description, causeText]
  cases entry.cause with
  | none => exact String.append_empty.symm
  | some cause => exact String.append_assoc

theorem hostLines_eq [ToString ε] (report : Report ε) (host : String) :
    report.hostLines host = Section.lines ⟨host, report.entriesOf host⟩ := by
  rw [hostLines, Section.lines]
  simp only [description_eq]

theorem flatMap_hostLines [ToString ε] (report : Report ε) :
    report.hosts.flatMap report.hostLines = report.sections.flatMap Section.lines := by
  rw [sections, List.flatMap_map]
  exact List.flatMap_congr fun host _ => report.hostLines_eq host

theorem label_eq (severity : Severity) :
    severity.label = if severity = .error then "ERROR" else "WARNING" := by
  cases severity <;> rfl

theorem text_entry (severity : Severity) (message cause : String) :
    SummaryLine.text (.entry severity (message ++ cause)) =
      "  [" ++ (if severity = .error then "ERROR" else "WARNING") ++ "] " ++ message ++ cause := by
  rw [← label_eq, String.append_assoc]
  rfl

theorem map_text_lines [ToString ε] (part : Section ε) :
    part.lines.map SummaryLine.text = part.texts := by
  rw [Section.lines, Section.texts, List.map_cons, List.map_map]
  congr 1
  apply List.map_congr_left
  intro entry _
  exact text_entry entry.severity entry.message (causeText entry)

theorem summary_eq [ToString ε] {report : Report ε} (nonempty : report.entries ≠ []) :
    report.summary = [.divider, .title, .divider] ++ report.sections.flatMap Section.lines
      ++ [.divider]
      ++ (if report.count .error = 0 then [.closingWarnings (report.count .warning)]
        else [.closing (report.count .error) (report.count .warning), .notWritten]) := by
  have isThere : report.entries.isEmpty = false := by simpa using nonempty
  rw [Report.summary, isThere, if_neg Bool.false_ne_true, flatMap_hostLines]
  by_cases none : report.count .error = 0
  · rw [if_pos none, if_neg (by omega)]
  · rw [if_neg none, if_pos (by omega)]

theorem map_text_closing (errors warnings : Nat) :
    (if errors = 0 then [SummaryLine.closingWarnings warnings]
      else [.closing errors warnings, .notWritten]).map SummaryLine.text =
      closingTexts errors warnings := by
  rw [closingTexts]
  split <;> rfl

/-! ## Everything together -/

/-- What a report says of the entries that were added to it. -/
structure Recounts [ToString ε] (entries : List (Entry ε)) (report : Report ε) : Prop where
  counted : ∀ severity,
    report.count severity = (entries.filter fun entry => entry.severity = severity).length
  total : report.count .error + report.count .warning = entries.length
  has : ∀ severity, report.has severity = true ↔ 0 < report.count severity
  fails : report.has .error = true ↔ report.failedHosts ≠ []
  failed : ∀ host, host ∈ report.failedHosts ↔
    ∃ entry ∈ entries, entry.severity = .error ∧ entry.host = host
  nodup : report.failedHosts.Nodup
  /-- At its first error, a host comes behind those that failed before. -/
  inOrder : ∀ front entry back, entries = front ++ entry :: back → entry.severity = .error →
    (∀ earlier ∈ front, earlier.severity = .error → earlier.host ≠ entry.host) →
    ∃ later, report.failedHosts = (ofEntries front).failedHosts ++ entry.host :: later
  summary : entries ≠ [] → ∃ parts, IsSectioned entries parts ∧
    report.summary = [.divider, .title, .divider] ++ parts.flatMap Section.lines ++ [.divider]
      ++ (if report.count .error = 0 then [.closingWarnings (report.count .warning)]
        else [.closing (report.count .error) (report.count .warning), .notWritten]) ∧
    report.summary.map SummaryLine.text =
      [divider, "COMPILATION ERROR SUMMARY", divider] ++ parts.flatMap Section.texts ++ [divider]
        ++ closingTexts (report.count .error) (report.count .warning)

/-- Whatever entries are added to a report, it recounts them. -/
theorem ofEntries_recounts [ToString ε] (entries : List (Entry ε)) :
    Recounts entries (ofEntries entries) where
  counted := by
    intro severity
    rw [count, entries_ofEntries, List.countP_eq_length_filter]
    rfl
  total := by rw [count_add_count, entries_ofEntries]
  has := has_iff_count _
  fails := has_error_iff _
  failed := by
    intro host
    rw [mem_failedHosts_iff, entries_ofEntries]
  nodup := nodup_distinct _
  inOrder := by
    rintro front entry back rfl isError first
    exact failedHosts_split isError first
  summary := by
    intro nonempty
    have parts := isSectioned_sections (ofEntries entries)
    rw [entries_ofEntries] at parts
    have isFull : (ofEntries entries).entries ≠ [] := by rwa [entries_ofEntries]
    have lines := summary_eq isFull
    refine ⟨_, parts, lines, ?_⟩
    rw [lines]
    simp only [List.map_append, List.map_flatMap, map_text_lines]
    rw [map_text_closing]
    rfl

end Report

end Firewall
