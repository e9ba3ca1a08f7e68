import Firewall.Proofs.Netfilter.Content
import Firewall.Proofs.Netfilter.Words

/-!
# No rule line is ambiguous

The words of a rule have no spaces in them, as long as its protocol and its interfaces have none.
So the words are found again in the line, and reading them gives back what the rule says
(`RuleLine.ofText?_line`).
-/

namespace Firewall

open Text

/-! ## Optional words -/

/-- An option with its value, if there is one. -/
def optionWords (option : String) (value : Option String) : List String :=
  value.toList.flatMap fun value => [option, value]

/-- The options of a rule behind its interfaces, each with its value, and the target. -/
def clauseWords (clauses : List (String × Option String)) (target : List String) : List String :=
  clauses.flatMap (fun (option, value) => optionWords option value) ++ "-j" :: target

theorem clauseWords_cons (option : String) (value : Option String)
    (clauses : List (String × Option String)) (target : List String) :
    clauseWords ((option, value) :: clauses) target =
      optionWords option value ++ clauseWords clauses target := by
  simp [clauseWords]

theorem head?_clauseWords (clauses : List (String × Option String)) (target : List String) :
    ∃ first rest, clauseWords clauses target = first :: rest ∧
      first ∈ "-j" :: clauses.map Prod.fst := by
  induction clauses with
  | nil => exact ⟨"-j", target, rfl, List.mem_cons_self⟩
  | cons clause clauses ih =>
      obtain ⟨option, value⟩ := clause
      rw [clauseWords_cons]
      cases value with
      | none =>
          obtain ⟨first, rest, words, isOption⟩ := ih
          refine ⟨first, rest, words, ?_⟩
          rw [List.map_cons, List.mem_cons, List.mem_cons]
          exact (List.mem_cons.mp isOption).imp_right .inr
      | some value =>
          exact ⟨option, value :: clauseWords clauses target, rfl, by simp⟩

theorem takeOption_of_head {option first : String} (other : first ≠ option) (rest : List String) :
    takeOption option (first :: rest) = (none, first :: rest) := by
  cases rest with
  | nil => rfl
  | cons value rest => exact if_neg other

/-- An option is read where it was written, and only there. -/
theorem takeOption_optionWords {option : String} {rest : List String}
    (behind : rest.head? ≠ some option) (value : Option String) :
    takeOption option (optionWords option value ++ rest) = (value, rest) := by
  cases value with
  | some value => exact if_pos rfl
  | none =>
      cases rest with
      | nil => rfl
      | cons first rest =>
          exact takeOption_of_head (fun same => behind (congrArg some same)) rest

theorem head?_clauseWords_ne {option : String} {clauses : List (String × Option String)}
    (fresh : option ∉ "-j" :: clauses.map Prod.fst) (target : List String) :
    (clauseWords clauses target).head? ≠ some option := by
  obtain ⟨first, rest, words, isOption⟩ := head?_clauseWords clauses target
  rw [words, List.head?_cons]
  intro same
  exact fresh (Option.some.inj same ▸ isOption)

/-- An option of a rule is read in front of other ones. -/
theorem takeOption_clauseWords {option : String} {clauses : List (String × Option String)}
    (fresh : option ∉ "-j" :: clauses.map Prod.fst) (value : Option String)
    (target : List String) :
    takeOption option (clauseWords ((option, value) :: clauses) target) =
      (value, clauseWords clauses target) := by
  rw [clauseWords_cons]
  exact takeOption_optionWords (head?_clauseWords_ne fresh target) value

/-! ## Ends of a connection -/

theorem readValue?_host (host : Option Address) :
    readValue? (Address.parse? ·.toList) (host.map Address.text) =
      some (host.map Address.withoutZone) := by
  cases host with
  | none => rfl
  | some host => simp [readValue?, Address.parse?_text]

theorem readValue?_port (port : Option Port) :
    readValue? Port.ofText? (port.map Port.text) = some port := by
  cases port with
  | none => rfl
  | some port => simp [readValue?, Port.ofText?_text]

/-- An end of a connection is read back, except for a zone. -/
theorem takeEndpoint?_clauseWords {hostOption portOption : String}
    {clauses : List (String × Option String)}
    (hostFresh : hostOption ∉ "-j" :: portOption :: clauses.map Prod.fst)
    (portFresh : portOption ∉ "-j" :: clauses.map Prod.fst) (endpoint : Rule.Endpoint)
    (target : List String) :
    takeEndpoint? hostOption portOption
        (clauseWords ((hostOption, endpoint.host.map Address.text) ::
          (portOption, endpoint.port.map Port.text) :: clauses) target) =
      some (endpoint.withoutZone, clauseWords clauses target) := by
  rw [takeEndpoint?, takeOption_clauseWords hostFresh]
  dsimp only
  rw [takeOption_clauseWords portFresh]
  dsimp only
  rw [readValue?_host, readValue?_port]
  rfl

/-! ## Targets -/

theorem hostAndPort?_text (host : Address) (port : Port) :
    hostAndPort? host.text.toList port.text.toList =
      some (.destination host.withoutZone (some port)) := by
  rw [hostAndPort?, Address.parse?_text, String.ofList_toList, Port.ofText?_text]

/-- Behind no bracket, points and a colon say whether there is a port. -/
theorem destination?_of_notMem {text : List Char} (noBracket : '[' ∉ text) :
    destination? text =
      if '.' ∈ text ∧ ':' ∈ text then
        hostAndPort? (before ':' text) ((text.dropWhile (· ≠ ':')).drop 1)
      else (Address.parse? text).map (.destination · none) := by
  rw [destination?]
  rintro rest rfl
  exact noBracket List.mem_cons_self

theorem bracket_notMem_text (host : Address) :
    '[' ∉ host.text.toList ∧ ']' ∉ host.text.toList :=
  ⟨Address.notMem_text (by decide) (by decide), Address.notMem_text (by decide) (by decide)⟩

theorem destination?_destinationText (host : Address) (port : Option Port) :
    destination? (destinationText host port).toList =
      some (.destination host.withoutZone port) := by
  obtain ⟨noOpening, noClosing⟩ := bracket_notMem_text host
  cases port with
  | none =>
      have noPort : ¬ ('.' ∈ host.text.toList ∧ ':' ∈ host.text.toList) := by
        rintro ⟨point, colon⟩
        cases host with
        | v4 value length => exact (Address.text_v4 value length).2 colon
        | v6 value zone length => exact Address.text_v6 value zone length point
      rw [destinationText, destination?_of_notMem noOpening, if_neg noPort, Address.parse?_text]
      rfl
  | some port =>
      cases host with
      | v4 value length =>
          obtain ⟨point, noColon⟩ := Address.text_v4 value length
          have noBracket : '[' ∉ port.text.toList :=
            Port.notMem_text (by decide) (by decide) (by decide)
          have whole : (destinationText (.v4 value length) (some port)).toList =
              (Address.v4 value length).text.toList ++ ':' :: port.text.toList := by
            simp [destinationText, Address.family]
          have absent : '[' ∉ (Address.v4 value length).text.toList ++ ':' :: port.text.toList := by
            simp [noOpening, noBracket]
          have hasPort : '.' ∈ (Address.v4 value length).text.toList ++ ':' :: port.text.toList ∧
              ':' ∈ (Address.v4 value length).text.toList ++ ':' :: port.text.toList := by
            simp [point]
          rw [whole, destination?_of_notMem absent, if_pos hasPort, before_append_cons noColon,
            dropWhile_append_cons noColon]
          exact hostAndPort?_text _ port
      | v6 value zone length =>
          have whole : (destinationText (.v6 value zone length) (some port)).toList =
              '[' :: ((Address.v6 value zone length).text.toList ++
                ']' :: ':' :: port.text.toList) := by
            simp [destinationText, Address.family]
          rw [whole, destination?, before_append_cons noClosing, dropWhile_append_cons noClosing]
          exact hostAndPort?_text _ port

theorem target?_words (target : Target) : target? target.words = some target.withoutZone := by
  cases target with
  | redirect port =>
      cases port with
      | none => rfl
      | some port => simp [Target.words, target?, Port.ofText?_text, Target.withoutZone]
  | destination host port =>
      simp [Target.words, target?, destination?_destinationText, Target.withoutZone]
  | _ => rfl

/-! ## Interfaces -/

theorem Chain.ofName?_name (chain : Chain) : ofName? chain.name = some chain := by
  cases chain <;> rfl

theorem takeInterfaces_through (inbound outbound : Option String) {rest : List String}
    (noInbound : rest.head? ≠ some "-i") (noOutbound : rest.head? ≠ some "-o") :
    takeInterfaces .forward ((InterfaceMatch.through inbound outbound).words ++ rest) =
      (.through inbound outbound, rest) := by
  have words : (InterfaceMatch.through inbound outbound).words =
      optionWords "-i" inbound ++ optionWords "-o" outbound := rfl
  have behind : (optionWords "-o" outbound ++ rest).head? ≠ some "-i" := by
    cases outbound with
    | none => exact noInbound
    | some name => simp [optionWords]
  rw [words, List.append_assoc]
  unfold takeInterfaces
  rw [if_pos rfl, takeOption_optionWords behind]
  dsimp only
  rw [takeOption_optionWords noOutbound]

theorem takeInterfaces_words {chain : Chain} (other : chain ≠ .forward)
    {interfaces : InterfaceMatch}
    (single : ∀ inbound outbound, interfaces ≠ .through inbound outbound)
    {rest : List String} (noInbound : rest.head? ≠ some "-i") (noOutbound : rest.head? ≠ some "-o")
    (noNegation : rest.head? ≠ some "!") :
    takeInterfaces chain (interfaces.words ++ rest) = (interfaces, rest) := by
  unfold takeInterfaces
  rw [if_neg other]
  cases interfaces with
  | any =>
      cases rest with
      | nil => rfl
      | cons first rest =>
          cases rest with
          | nil => rfl
          | cons second rest =>
              have notInbound : first ≠ "-i" := fun same => noInbound (congrArg some same)
              have notOutbound : first ≠ "-o" := fun same => noOutbound (congrArg some same)
              have notNegated : first ≠ "!" := fun same => noNegation (congrArg some same)
              simp [InterfaceMatch.words, notInbound, notOutbound, notNegated]
  | allBut name => simp [InterfaceMatch.words, InterfaceSide.option]
  | one side name => cases side <;> simp [InterfaceMatch.words, InterfaceSide.option]
  | through inbound outbound => exact absurd rfl (single inbound outbound)

namespace Rule

theorem interfaces_ne_through {rule : Rule} (other : rule.chain ≠ .forward)
    (inbound outbound : Option String) : rule.interfaces ≠ .through inbound outbound := by
  rw [Rule.interfaces, if_neg (not_forwarded_of_chain other)]
  intro through
  cases named : present rule.interface with
  | none =>
      rw [named] at through
      cases through
  | some name =>
      rw [named] at through
      dsimp only at through
      split at through
      · cases through
      · cases through

theorem takeInterfaces_interfaces (rule : Rule) {rest : List String}
    (noInbound : rest.head? ≠ some "-i") (noOutbound : rest.head? ≠ some "-o")
    (noNegation : rest.head? ≠ some "!") :
    takeInterfaces rule.chain (rule.interfaces.words ++ rest) = (rule.interfaces, rest) := by
  by_cases forward : rule.chain = .forward
  · rw [interfaces_of_forward forward, forward]
    exact takeInterfaces_through _ _ noInbound noOutbound
  · exact takeInterfaces_words forward (interfaces_ne_through forward) noInbound noOutbound
      noNegation

/-! ## Words -/

/-- The options of a rule behind its interfaces. -/
def clauses (rule : Rule) : List (String × Option String) :=
  [("-p", present rule.protocol),
    ("-s", rule.source.host.map Address.text), ("--sport", rule.source.port.map Port.text),
    ("-d", rule.destination.host.map Address.text),
    ("--dport", rule.destination.port.map Port.text)]

theorem words_eq_clauseWords (rule : Rule) :
    rule.words = "-A" :: rule.chain.name ::
      (rule.interfaces.words ++ clauseWords rule.clauses rule.target.words) := by
  simp [Rule.words, clauses, clauseWords, optionWords, endpointWords, Option.toList_map,
    List.flatMap_map]

/-- The words of a rule are read as what the rule says. -/
theorem ruleLine?_words (rule : Rule) : ruleLine? rule.words = some rule.ruleLine := by
  have behind : ∀ option, option ∉ ["-j", "-p", "-s", "--sport", "-d", "--dport"] →
      (clauseWords rule.clauses rule.target.words).head? ≠ some option :=
    fun option fresh => head?_clauseWords_ne fresh rule.target.words
  have interfaces := takeInterfaces_interfaces rule
    (behind "-i" (by decide)) (behind "-o" (by decide)) (behind "!" (by decide))
  have target : clauseWords [] rule.target.words = "-j" :: rule.target.words := rfl
  rw [ruleLine_eq, words_eq_clauseWords, ruleLine?, Chain.ofName?_name]
  simp only [Option.bind_eq_bind, Option.bind_some, interfaces]
  rw [clauses, takeOption_clauseWords (by simp)]
  dsimp only
  rw [takeEndpoint?_clauseWords (by simp) (by simp)]
  simp only [Option.bind_some]
  rw [takeEndpoint?_clauseWords (by simp) (by simp)]
  simp only [Option.bind_some, target, target?_words]
  rfl

/-! ## Spaces -/

theorem space_notMem_words {rule : Rule} (plain : rule.HasPlainWords) {word : String}
    (member : word ∈ rule.words) : ' ' ∉ word.toList := by
  intro space
  have foreign : isOwnChar ' ' = false := by decide
  obtain ⟨text, written, inText⟩ := (foreign_mem_words_iff foreign).mp ⟨word, member, space⟩
  rw [writtenTexts, List.mem_filterMap] at written
  obtain ⟨field, isWritten, isPresent⟩ := written
  have isField : field ∈ [rule.protocol, rule.interface, rule.inbound, rule.outbound] := by
    split at isWritten
    case isTrue =>
      have among : [rule.inbound, rule.outbound, rule.protocol] ⊆
          [rule.protocol, rule.interface, rule.inbound, rule.outbound] := by simp
      exact among isWritten
    case isFalse =>
      have among : [rule.interface, rule.protocol] ⊆
          [rule.protocol, rule.interface, rule.inbound, rule.outbound] := by simp
      exact among isWritten
  exact plain field isField text (eq_some_of_present isPresent) inText

/-! ## Lines -/

/-- The words of a rule are found again in its line. -/
theorem fields_line {rule : Rule} (plain : rule.HasPlainWords) :
    (Text.fields ' ' rule.line.toList).map String.ofList = rule.words := by
  have nonempty : rule.words.map String.toList ≠ [] := by
    simp [words_eq_clauseWords]
  have absent : ∀ piece ∈ rule.words.map String.toList, ' ' ∉ piece := by
    intro piece isPiece
    obtain ⟨word, isWord, rfl⟩ := List.mem_map.mp isPiece
    exact space_notMem_words plain isWord
  have separator : " ".toList = [' '] := rfl
  rw [Rule.line, String.toList_intercalate, separator, fields_joined nonempty absent]
  simp

/-- A line says what its rule says. -/
theorem ofText?_line {rule : Rule} (plain : rule.HasPlainWords) :
    RuleLine.ofText? rule.line = some rule.ruleLine := by
  rw [RuleLine.ofText?, fields_line plain, ruleLine?_words]

theorem endpointWords_withoutZone (hostOption portOption : String) (endpoint : Endpoint) :
    endpointWords hostOption portOption endpoint.withoutZone =
      endpointWords hostOption portOption endpoint := by
  cases host : endpoint.host <;>
    simp [endpointWords, Endpoint.withoutZone, host, Address.text_withoutZone]

theorem words_withoutZone (target : Target) : target.withoutZone.words = target.words := by
  cases target with
  | destination host port =>
      have text := Address.text_withoutZone host
      cases host <;> cases port <;>
        simp_all [Target.withoutZone, Target.words, destinationText, Address.withoutZone,
          Address.family]
  | _ => rfl

/-- The line has nothing in it that it does not say. -/
theorem line_eq_of_ruleLine_eq {first second : Rule} (same : first.ruleLine = second.ruleLine) :
    first.line = second.line := by
  rw [ruleLine_eq, ruleLine_eq] at same
  have chain : first.chain = second.chain := congrArg RuleLine.chain same
  have interfaces : first.interfaces = second.interfaces := congrArg RuleLine.interfaces same
  have protocol : present first.protocol = present second.protocol :=
    congrArg RuleLine.protocol same
  have source : first.source.withoutZone = second.source.withoutZone :=
    congrArg RuleLine.source same
  have destination : first.destination.withoutZone = second.destination.withoutZone :=
    congrArg RuleLine.destination same
  have target : first.target.withoutZone = second.target.withoutZone :=
    congrArg RuleLine.target same
  have words : first.words = second.words := by
    rw [Rule.words, Rule.words, chain, interfaces, protocol,
      ← endpointWords_withoutZone _ _ first.source, source, endpointWords_withoutZone,
      ← endpointWords_withoutZone _ _ first.destination, destination, endpointWords_withoutZone,
      ← words_withoutZone first.target, target, words_withoutZone]
  rw [Rule.line, Rule.line, words]

end Rule

/-- A rule line is read back field by field, so two lines are the same exactly when their rules
agree on all that is written of them. -/
theorem line_eq_line_iff_agrees {first second : Rule} (firstPlain : first.HasPlainWords)
    (secondPlain : second.HasPlainWords) :
    RuleLine.ofText? first.line = some first.ruleLine ∧
      (first.line = second.line ↔ first.Agrees second) := by
  refine ⟨Rule.ofText?_line firstPlain, ?_⟩
  rw [← Rule.ruleLine_eq_iff_agrees]
  constructor
  case mp =>
    intro same
    have read := Rule.ofText?_line firstPlain
    rw [same, Rule.ofText?_line secondPlain] at read
    exact (Option.some.inj read).symm
  case mpr => exact Rule.line_eq_of_ruleLine_eq

/-- A rule that passes a port on to a link-local address with a zone. -/
def zonedRule : Rule where
  action := none
  returns := false
  direction := .incoming
  family := some .inet6
  protocol := some "tcp"
  interface := some "eth0"
  inbound := none
  outbound := none
  source := .unspecified
  destination := ⟨none, some (.number 80)⟩
  masquerade := none
  redirect :=
    ⟨some (.v6 0xfe800000000000000000000000000001 (some ⟨"eth1", by decide⟩) (.last 128)),
      some (.number 80)⟩
  targeted := rfl
  redirected := rfl

/-- The same rule without the zone, and without the port that the packet has anyway. -/
def unzonedRule : Rule where
  toFields := { zonedRule.toFields with
    redirect := ⟨some (.v6 0xfe800000000000000000000000000001 none (.last 128)), none⟩ }
  targeted := rfl
  redirected := rfl

/-- The same rule for another protocol. -/
def datagramRule : Rule where
  toFields := { zonedRule.toFields with protocol := some "udp" }
  targeted := rfl
  redirected := rfl

/-- Rules that agree on what is written have one line, and those that do not have two. -/
theorem line_zonedRule_eq_line_unzonedRule :
    (zonedRule.HasPlainWords ∧ unzonedRule.HasPlainWords ∧ datagramRule.HasPlainWords) ∧
      (zonedRule ≠ unzonedRule ∧ zonedRule.line = unzonedRule.line) ∧
      zonedRule.line ≠ datagramRule.line := by
  have zonedPlain : zonedRule.HasPlainWords := by
    unfold Rule.HasPlainWords
    decide
  have unzonedPlain : unzonedRule.HasPlainWords := by
    unfold Rule.HasPlainWords
    decide
  have datagramPlain : datagramRule.HasPlainWords := by
    unfold Rule.HasPlainWords
    decide
  refine ⟨⟨zonedPlain, unzonedPlain, datagramPlain⟩, ⟨by decide, ?_⟩, ?_⟩
  · apply (line_eq_line_iff_agrees zonedPlain unzonedPlain).2.mpr
    constructor <;> decide
  · intro same
    have agrees := (line_eq_line_iff_agrees zonedPlain datagramPlain).2.mp same
    exact absurd agrees.protocol (by decide)

end Firewall
