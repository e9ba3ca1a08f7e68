import Firewall.Netfilter.Ruleset
import Firewall.Proofs.Grouping

/-!
# Where rules are placed

Whether a rule translates addresses decides on its table, and its chain is found in another way.
The two agree: the rules that translate are in the first or the last chain, which the nat table
declares, and all others are in one of the three chains of the filter table (`isNat_iff_chain`).
So no rule is lost between the tables, none is written twice, and the rules of a chain keep their
order.
-/

namespace Firewall

/-! ## Tables and chains -/

/-- A rule translates addresses exactly when it is in the first or the last chain. -/
theorem isNat_iff_chain (rule : Rule) :
    rule.isNat = true ↔ rule.chain = .prerouting ∨ rule.chain = .postrouting := by
  unfold Rule.Fields.isNat Rule.chain
  by_cases redirects : rule.redirect.host.isSome = true
  · simp [redirects]
  · by_cases masquerades : rule.masquerade.isSome = true
    · simp [redirects, masquerades]
    · cases rule.direction <;> simp [redirects, masquerades]

theorem chain_mem_filter_iff (rule : Rule) : rule.chain ∈ Chain.filter ↔ ¬ rule.isNat = true := by
  rw [isNat_iff_chain]
  cases rule.chain <;> decide

/-- The rules of the nat table as they are written. -/
def natPlaced (rules : List Rule) : List Rule :=
  rules.filter (·.chain = .prerouting) ++ rules.filter (·.chain = .postrouting)

/-- The rules of a chain of the filter table as they are written. -/
def chainPlaced (rules : List Rule) (chain : Chain) : List Rule :=
  rules.filter fun rule => ¬ rule.isNat = true ∧ rule.chain = chain

/-- The rules of the filter table as they are written. -/
def filterPlaced (rules : List Rule) : List Rule :=
  [.input, .forward, .output].flatMap (chainPlaced rules)

/-- The nat table, written only if some rule translates addresses. -/
def natSection (rules : List Rule) : List String :=
  if ∃ rule ∈ rules, rule.redirect.host.isSome ∨ rule.masquerade.isSome then
    ["*nat", ":PREROUTING ACCEPT [0:0]", ":INPUT ACCEPT [0:0]", ":OUTPUT ACCEPT [0:0]",
      ":POSTROUTING ACCEPT [0:0]"]
      ++ (natPlaced rules).map Rule.line ++ ["COMMIT"]
  else []

/-- A chain of the filter table: the replies first, if there is any rule. -/
def chainSection (rules : List Rule) (chain : Chain) : List String :=
  if chainPlaced rules chain = [] then []
  else
    ("-A " ++ chain.name ++ " -m state --state ESTABLISHED,RELATED -j ACCEPT")
      :: (chainPlaced rules chain).map Rule.line

def filterSection (rules : List Rule) (policy : String) : List String :=
  let word := if policy = "block" then "DROP" else "ACCEPT"
  ["*filter", ":INPUT " ++ word ++ " [0:0]", ":FORWARD " ++ word ++ " [0:0]",
    ":OUTPUT " ++ word ++ " [0:0]"]
    ++ [.input, .forward, .output].flatMap (chainSection rules) ++ ["COMMIT"]

/-- Two lists of rules are those of the two tables: together they are all rules, each as often as
it was given, every rule is in its table under a chain that the table declares, and the rules of a
chain are in the order in which they were given. -/
structure Placement (rules nat filter : List Rule) : Prop where
  complete : (nat ++ filter).Perm rules
  natDeclared : ∀ rule ∈ nat, rule.isNat = true ∧ rule.chain ∈ Chain.nat
  filterDeclared : ∀ rule ∈ filter, ¬ rule.isNat = true ∧ rule.chain ∈ Chain.filter
  natOrder : ∀ chain, nat.filter (·.chain = chain) =
    rules.filter fun rule => rule.isNat = true ∧ rule.chain = chain
  filterOrder : ∀ chain, filter.filter (·.chain = chain) =
    rules.filter fun rule => ¬ rule.isNat = true ∧ rule.chain = chain

theorem natPlaced_eq_groupBy (rules : List Rule) :
    natPlaced rules = groupBy Rule.chain [.prerouting, .postrouting] rules := by
  simp [natPlaced, groupBy]

theorem filterPlaced_eq_groupBy (rules : List Rule) :
    filterPlaced rules =
      groupBy Rule.chain Chain.filter (rules.filter fun rule => ¬ rule.isNat = true) := by
  unfold filterPlaced groupBy Chain.filter
  apply List.flatMap_congr
  intro chain _
  rw [chainPlaced, List.filter_filter]
  apply List.filter_congr
  intro rule _
  simp [Bool.and_comm]

theorem filter_chain_mem_nat (rules : List Rule) :
    rules.filter (fun rule => rule.chain ∈ [Chain.prerouting, .postrouting]) =
      rules.filter fun rule => rule.isNat = true := by
  apply List.filter_congr
  intro rule _
  simp [isNat_iff_chain]

theorem filter_chain_mem_filter (rules : List Rule) :
    (rules.filter fun rule => ¬ rule.isNat = true).filter
        (fun rule => rule.chain ∈ Chain.filter) =
      rules.filter fun rule => ¬ rule.isNat = true := by
  rw [List.filter_eq_self]
  intro rule member
  have other := (List.mem_filter.mp member).2
  exact decide_eq_true ((chain_mem_filter_iff rule).mpr (of_decide_eq_true other))

theorem natPlaced_perm (rules : List Rule) :
    (natPlaced rules).Perm (rules.filter fun rule => rule.isNat = true) := by
  rw [natPlaced_eq_groupBy, ← filter_chain_mem_nat]
  exact groupBy_perm (by decide) rules

theorem filterPlaced_perm (rules : List Rule) :
    (filterPlaced rules).Perm (rules.filter fun rule => ¬ rule.isNat = true) := by
  rw [filterPlaced_eq_groupBy]
  conv_rhs => rw [← filter_chain_mem_filter]
  exact groupBy_perm (by decide) _

/-- The rules as they are written are the rules that were given, each in its place. -/
theorem placement (rules : List Rule) :
    Placement rules (natPlaced rules) (filterPlaced rules) := by
  constructor
  case complete =>
    have both := List.filter_append_perm (fun rule : Rule => decide (rule.isNat = true)) rules
    have others : rules.filter (fun rule => !decide (rule.isNat = true)) =
        rules.filter fun rule => ¬ rule.isNat = true := by
      apply List.filter_congr
      intro rule _
      simp
    rw [others] at both
    exact ((natPlaced_perm rules).append (filterPlaced_perm rules)).trans both
  case natDeclared =>
    intro rule member
    have isNat := (List.mem_filter.mp ((natPlaced_perm rules).mem_iff.mp member)).2
    refine ⟨of_decide_eq_true isNat, ?_⟩
    cases (isNat_iff_chain rule).mp (of_decide_eq_true isNat) with
    | inl first => rw [first]; decide
    | inr last => rw [last]; decide
  case filterDeclared =>
    intro rule member
    have other := (List.mem_filter.mp ((filterPlaced_perm rules).mem_iff.mp member)).2
    exact ⟨of_decide_eq_true other, (chain_mem_filter_iff rule).mpr (of_decide_eq_true other)⟩
  case natOrder =>
    intro chain
    rw [natPlaced_eq_groupBy, filter_groupBy (by decide), filter_chain_mem_nat, List.filter_filter]
    apply List.filter_congr
    intro rule _
    simp [Bool.and_comm]
  case filterOrder =>
    intro chain
    rw [filterPlaced_eq_groupBy, filter_groupBy (by decide), filter_chain_mem_filter,
      List.filter_filter]
    apply List.filter_congr
    intro rule _
    simp [Bool.and_comm]

/-! ## The written text -/

/-- The two tests for whether there is a nat table say the same. -/
theorem natRules_isEmpty_iff (rules : List Rule) :
    (natRules rules).isEmpty = true ↔
      ¬ ∃ rule ∈ rules, rule.redirect.host.isSome ∨ rule.masquerade.isSome := by
  rw [List.isEmpty_iff, natRules, List.filter_eq_nil_iff]
  simp [Rule.Fields.isNat]

theorem rulesOf_natRules (rules : List Rule) (chain : Chain) :
    rulesOf chain (natRules rules) =
      if chain = .prerouting ∨ chain = .postrouting then rules.filter (·.chain = chain)
      else [] := by
  unfold rulesOf natRules
  rw [List.filter_filter]
  split
  case isTrue isNat =>
    apply List.filter_congr
    intro rule _
    by_cases same : rule.chain = chain
    · simp [same, (isNat_iff_chain rule).mpr (same ▸ isNat)]
    · simp [same]
  case isFalse other =>
    rw [List.filter_eq_nil_iff]
    intro rule _ both
    have same : rule.chain = chain := by simpa using (Bool.and_eq_true_iff.mp both).1
    exact other (same ▸ (isNat_iff_chain rule).mp (Bool.and_eq_true_iff.mp both).2)

theorem rulesOf_filterRules (rules : List Rule) (chain : Chain) :
    rulesOf chain (filterRules rules) = chainPlaced rules chain := by
  unfold rulesOf filterRules chainPlaced
  rw [List.filter_filter]
  apply List.filter_congr
  intro rule _
  cases rule.isNat <;> simp [beq_eq_decide]

theorem filterChain_filterRules (rules : List Rule) (chain : Chain) :
    filterChain (filterRules rules) chain = chainSection rules chain := by
  rw [filterChain, rulesOf_filterRules, chainSection]
  cases chainPlaced rules chain with
  | nil => rfl
  | cons first rest => rfl

theorem natSection_eq (rules : List Rule) :
    (if (natRules rules).isEmpty then [] else natTable (natRules rules)) = natSection rules := by
  unfold natSection
  by_cases empty : (natRules rules).isEmpty = true
  · rw [if_pos empty, if_neg ((natRules_isEmpty_iff rules).mp empty)]
  · have some := not_not.mp (mt (natRules_isEmpty_iff rules).mpr empty)
    rw [if_neg empty, if_pos some]
    simp [natTable, Chain.nat, declaration, Chain.name, rulesOf_natRules, natPlaced]

theorem filterTable_filterRules (rules : List Rule) (policy : String) :
    filterTable (filterRules rules) (.ofPolicy policy) = filterSection rules policy := by
  have word : policyWord (.ofPolicy policy) = if policy = "block" then "DROP" else "ACCEPT" := by
    by_cases blocks : policy = "block" <;>
      simp [Action.ofPolicy, Action.name, policyWord, blocks]
  have chains : filterChain (filterRules rules) = chainSection rules :=
    funext (filterChain_filterRules rules)
  rw [filterTable, word, chains]
  rfl

theorem natSection_eq_nil_iff (rules : List Rule) :
    natSection rules = [] ↔ natPlaced rules = [] := by
  have empty : natPlaced rules = [] ↔ (natRules rules).isEmpty = true := by
    rw [List.isEmpty_iff, ← List.perm_nil, (natPlaced_perm rules).congr_left, List.perm_nil]
    simp [natRules]
  rw [empty, natRules_isEmpty_iff, natSection]
  split
  case isTrue some => simp [some]
  case isFalse none => simp [none]

/-! ## Lines -/

/-- What a line of a ruleset can be. -/
inductive IsLineOf (rules : List Rule) (time : ClockTime) : String → Prop where
  | header : IsLineOf rules time (headerLine time)
  /-- The start or the end of a table. -/
  | border {word : String} :
      word ∈ ["*nat", "*filter", "COMMIT"] → IsLineOf rules time word
  | declaration {policy : String} (chain : Chain) :
      policy ∈ ["ACCEPT", "DROP"] → IsLineOf rules time (declaration policy chain)
  | replies (chain : Chain) : IsLineOf rules time (repliesLine chain)
  | rule {rule : Rule} : rule ∈ rules → IsLineOf rules time rule.line

theorem isLineOf_natTable {rules : List Rule} {time : ClockTime} {line : String}
    (member : line ∈ natTable (natRules rules)) : IsLineOf rules time line := by
  simp only [natTable, List.mem_append, List.mem_cons, List.mem_map, List.mem_flatMap,
    List.not_mem_nil, or_false] at member
  rcases member with ((rfl | ⟨chain, -, rfl⟩) | ⟨chain, -, rule, inChain, rfl⟩) | rfl
  · exact .border (by decide)
  · exact .declaration chain (by decide)
  · exact .rule (List.mem_of_mem_filter (List.mem_of_mem_filter inChain))
  · exact .border (by decide)

theorem isLineOf_filterTable {rules : List Rule} {default : Action} {time : ClockTime}
    {line : String} (member : line ∈ filterTable (filterRules rules) default) :
    IsLineOf rules time line := by
  simp only [filterTable, List.mem_append, List.mem_cons, List.mem_map, List.mem_flatMap,
    List.not_mem_nil, or_false] at member
  rcases member with ((rfl | ⟨chain, -, rfl⟩) | ⟨chain, -, inChain⟩) | rfl
  · exact .border (by decide)
  · exact .declaration chain (by cases default <;> decide)
  · rw [filterChain_filterRules, chainSection] at inChain
    split at inChain
    · contradiction
    · rcases List.mem_cons.mp inChain with rfl | isLine
      · exact .replies chain
      · obtain ⟨rule, inRules, rfl⟩ := List.mem_map.mp isLine
        exact .rule (List.mem_of_mem_filter inRules)
  · exact .border (by decide)

/-- A ruleset has no lines but those of its rules and its frame. -/
theorem isLineOf_of_mem {rules : List Rule} {default : Action} {time : ClockTime} {line : String}
    (member : line ∈ rulesetLines rules default time) : IsLineOf rules time line := by
  simp only [rulesetLines, List.mem_append, List.mem_cons] at member
  rcases member with (rfl | inNat) | inFilter
  · exact .header
  · split at inNat
    · contradiction
    · exact isLineOf_natTable inNat
  · exact isLineOf_filterTable inFilter

theorem line_mem_rulesetLines {rules : List Rule} {rule : Rule} (member : rule ∈ rules)
    (default : Action) (time : ClockTime) :
    rule.line ∈ rulesetLines rules default time := by
  have placed : rule ∈ natPlaced rules ++ filterPlaced rules :=
    (placement rules).complete.mem_iff.mpr member
  rw [rulesetLines, natSection_eq, ← Action.ofPolicy_name default, filterTable_filterRules]
  rcases List.mem_append.mp placed with inNat | inFilter
  · have written : natSection rules ≠ [] := by
      rw [Ne, natSection_eq_nil_iff]
      exact List.ne_nil_of_mem inNat
    have isLine : rule.line ∈ natSection rules := by
      rw [natSection] at written ⊢
      split at written
      case isTrue some =>
        rw [if_pos some]
        exact List.mem_append_left _ (List.mem_append_right _ (List.mem_map_of_mem inNat))
      case isFalse => contradiction
    exact List.mem_append_left _ (List.mem_cons_of_mem _ isLine)
  · obtain ⟨chain, isChain, inChain⟩ := List.mem_flatMap.mp inFilter
    have isLine : rule.line ∈ chainSection rules chain := by
      rw [chainSection, if_neg (List.ne_nil_of_mem inChain)]
      exact List.mem_cons_of_mem _ (List.mem_map_of_mem inChain)
    apply List.mem_append_right
    apply List.mem_append_left
    apply List.mem_append_right
    exact List.mem_flatMap.mpr ⟨chain, isChain, isLine⟩

/-- The text of a ruleset is its two tables, and the tables hold the rules that were given. -/
theorem ruleset_eq_sections (rules : List Rule) (policy : String) (time : ClockTime) :
    ruleset rules (.ofPolicy policy) time =
        String.intercalate "\n"
          (("# Generated by melt v1.0.0 on " ++ time.text) ::
            natSection rules ++ filterSection rules policy) ++ "\n" ∧
      (natSection rules = [] ↔ natPlaced rules = []) ∧
      Placement rules (natPlaced rules) (filterPlaced rules) := by
  refine ⟨?_, natSection_eq_nil_iff rules, placement rules⟩
  have start : "# Generated by " ++ Program.name ++ " v" ++ Program.version ++ " on " =
      "# Generated by melt v1.0.0 on " := by decide
  unfold ruleset rulesetLines headerLine
  rw [start, natSection_eq, filterTable_filterRules]

end Firewall
