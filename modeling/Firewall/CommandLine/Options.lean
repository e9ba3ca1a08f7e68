import Firewall.Program
import Firewall.Text.Digit
import Firewall.Text.Line
import Firewall.Text.Quoted

/-!
# Options of the command line

The words of the command line are first told apart: words that are options, plain words, and the
divider after which every word is plain.  Then they are read from left to right.  The front of a
long option is as good as the whole if no other option starts with it; short options without a
value may share a word.
-/

namespace Firewall.CommandLine

/-- The options. -/
inductive Switch where
  | help
  | host
  | outputDirectory
  | services
  | verbose
  | version
  deriving DecidableEq, Repr

namespace Switch

/-- The options, in the order of the usage text. -/
def all : List Switch := [.help, .host, .outputDirectory, .services, .verbose, .version]

def names : Switch → List String
  | .help => ["-h", "--help"]
  | .host => ["-H", "--host"]
  | .outputDirectory => ["-o", "--output-dir"]
  | .services => ["--services"]
  | .verbose => ["-v", "--verbose"]
  | .version => ["--version"]

def takesValue : Switch → Bool
  | .host | .outputDirectory | .services => true
  | .help | .verbose | .version => false

/-- All names with their options. -/
def named : List (String × Switch) :=
  all.flatMap fun switch => switch.names.map (·, switch)

def ofName? (name : String) : Option Switch :=
  (named.find? fun entry => entry.1 == name).map Prod.snd

end Switch

/-- Why the command line is refused. -/
inductive UsageError where
  | ambiguous (word : String) (names : List String)
  | valueMissing (switch : Switch)
  | valueIgnored (switch : Switch) (value : String)
  | policyMissing
  | unrecognized (words : List String)
  deriving DecidableEq, Repr

def UsageError.message : UsageError → String
  | .ambiguous word names =>
      "ambiguous option: " ++ word ++ " could match " ++ String.intercalate ", " names
  | .valueMissing switch =>
      "argument " ++ String.intercalate "/" switch.names ++ ": expected one argument"
  | .valueIgnored switch value =>
      "argument " ++ String.intercalate "/" switch.names ++ ": ignored explicit argument "
        ++ Text.quote value
  | .policyMissing => "the following arguments are required: policy"
  | .unrecognized words => "unrecognized arguments: " ++ String.intercalate " " words

/-! ## Words -/

/-- A word of the command line. -/
inductive Word where
  | plain (text : String)
  | divider
  /-- An option, and what else is in its word. -/
  | option (switch : Switch) (short : Bool) (attached : Option (List Char))
  /-- A word that looks like an option and is none. -/
  | unknown (text : String)
  deriving DecidableEq, Repr

/-- Digits behind a minus, perhaps with a point among them: such a word is plain. -/
def isNegativeNumber (text : List Char) : Bool :=
  let body := if text.getLast? = some '\n' then text.dropLast else text
  match body with
  | '-' :: digits =>
      match Text.fields '.' digits with
      | [whole] => !whole.isEmpty && whole.all Text.isDecimal
      | [whole, fraction] =>
          whole.all Text.isDecimal && !fraction.isEmpty && fraction.all Text.isDecimal
      | _ => false
  | _ => false

/-- A text cut at its first equals sign. -/
def splitSign (text : List Char) : List Char × Option (List Char) :=
  match text.dropWhile (· ≠ '=') with
  | [] => (text, none)
  | _ :: value => (Text.before '=' text, some value)

/-- The options that a word may mean, with their names. -/
def candidates (text : List Char) : List (String × Word) :=
  match text with
  | '-' :: '-' :: _ =>
      let (front, attached) := splitSign text
      (Switch.named.filter fun entry => front.isPrefixOf entry.1.toList).map fun (name, switch) =>
        (name, .option switch false attached)
  | _ =>
      (Switch.named.filter fun entry => entry.1.toList == text.take 2).map fun (name, switch) =>
        (name, .option switch true (some (text.drop 2)))

def isShort (name : String) : Bool := name.length == 2

/-- Tells what a word in front of the divider is. -/
def Word.read (text : String) : Except UsageError Word :=
  let characters := text.toList
  let (name, attached) := splitSign characters
  if characters.head? ≠ some '-' then .ok (.plain text)
  else
    match Switch.ofName? text with
    | some switch => .ok (.option switch (isShort text) none)
    | none =>
        if characters.length = 1 then .ok (.plain text)
        else
          match attached, Switch.ofName? (String.ofList name) with
          | some attached, some switch =>
              .ok (.option switch (isShort (String.ofList name)) (some attached))
          | _, _ =>
              match candidates characters with
              | [(_, word)] => .ok word
              | [] =>
                  if isNegativeNumber characters || characters.contains ' ' then .ok (.plain text)
                  else .ok (.unknown text)
              | several => .error (.ambiguous text (several.map Prod.fst))

/-- Tells what the words are.  Every word behind the divider is plain. -/
def Word.readAll : List String → Except UsageError (List Word)
  | [] => .ok []
  | text :: rest =>
      if text = "--" then .ok (.divider :: rest.map .plain)
      else do return (← Word.read text) :: (← readAll rest)

/-! ## Reading -/

/-- What an option is given. -/
inductive Argument where
  | text (content : String)
  /-- The option takes no value, or a divider stands in its place. -/
  | missing
  deriving DecidableEq, Repr

def Argument.text? : Argument → Option String
  | .text content => some content
  | .missing => none

/-- The texts of some values, up to the first that has none. -/
def Argument.texts : List Argument → List String
  | .text content :: rest => content :: texts rest
  | _ => []

/-- The value that stands in the word of its option.  A divider is no value. -/
def Argument.ofAttached (value : List Char) : Argument :=
  if value = ['-', '-'] then .missing else .text (String.ofList value)

/-- What an option says: which one, and its value. -/
structure Setting where
  switch : Switch
  value : Argument
  deriving DecidableEq, Repr

/-- What one word with options says, and the words behind it. -/
structure Reading where
  settings : List Setting
  rest : List Word

/-- A reading with one more setting in front. -/
def Reading.behind (switch : Switch) (reading : Reading) : Reading :=
  { reading with settings := ⟨switch, .missing⟩ :: reading.settings }

/-- An option whose value, if it takes one, is the next word. -/
def readDetached (switch : Switch) (rest : List Word) : Except UsageError Reading :=
  if !switch.takesValue then .ok ⟨[⟨switch, .missing⟩], rest⟩
  else
    match rest with
    | .plain text :: rest => .ok ⟨[⟨switch, .text text⟩], rest⟩
    | _ => .error (.valueMissing switch)

/-- An option with something behind it in the same word: its value, or more short options. -/
def readAttached (switch : Switch) (short : Bool) (rest : List Word) (value : List Char) :
    Except UsageError Reading :=
  if switch.takesValue then .ok ⟨[⟨switch, .ofAttached value⟩], rest⟩
  else
    match short, value with
    | true, letter :: others =>
        match Switch.ofName? (String.ofList ['-', letter]) with
        | none => .error (.valueIgnored switch (String.ofList value))
        | some next =>
            let reading :=
              if others.isEmpty then readDetached next rest else readAttached next true rest others
            reading.map (Reading.behind switch)
    | _, _ => .error (.valueIgnored switch (String.ofList value))
termination_by value.length

/-- The options of a run. -/
structure Options where
  policy : String
  hosts : Option (List Argument)
  outputDirectory : Option Argument
  services : Argument
  verbose : Bool
  deriving DecidableEq, Repr

/-- What is asked for. -/
inductive Request where
  | run (options : Options)
  | help
  | version
  deriving DecidableEq, Repr

/-- What is known after some words. -/
structure Progress where
  policy : Option String
  options : Options
  unrecognized : List String

/-- The services file that is read unless another is named. -/
def defaultServices : String := "/etc/services"

/-- Nothing is known. -/
def Progress.start : Progress := ⟨none, ⟨"", none, none, .text defaultServices, false⟩, []⟩

/-- Applies a setting; two of them end the reading. -/
def Progress.apply (progress : Progress) (setting : Setting) : Except Request Progress :=
  let options := progress.options
  match setting.switch with
  | .help => .error .help
  | .version => .error .version
  | .host =>
      let hosts := some (options.hosts.getD [] ++ [setting.value])
      .ok { progress with options := { options with hosts } }
  | .outputDirectory =>
      .ok { progress with options := { options with outputDirectory := some setting.value } }
  | .services => .ok { progress with options := { options with services := setting.value } }
  | .verbose => .ok { progress with options := { options with verbose := true } }

/-- The request of a command line that has been read to its end. -/
def Progress.finish (progress : Progress) : Except UsageError Request :=
  match progress.policy with
  | none => .error .policyMissing
  | some policy =>
      if progress.unrecognized.isEmpty then .ok (.run { progress.options with policy })
      else .error (.unrecognized progress.unrecognized)

/-- A word that nothing takes. -/
def Progress.refuse (progress : Progress) (texts : List String) : Progress :=
  { progress with unrecognized := progress.unrecognized ++ texts }

theorem length_rest_readDetached {switch : Switch} {rest : List Word} {reading : Reading}
    (read : readDetached switch rest = .ok reading) : reading.rest.length ≤ rest.length := by
  unfold readDetached at read
  split at read
  · simp only [Except.ok.injEq] at read
    simp [← read]
  · split at read
    · simp only [Except.ok.injEq] at read
      simp [← read]
    · simp at read

/-- A setting in front changes nothing behind. -/
theorem exists_of_map_behind {switch : Switch} {inner : Except UsageError Reading}
    {reading : Reading} (read : inner.map (Reading.behind switch) = .ok reading) :
    ∃ found, inner = .ok found ∧ reading.rest = found.rest := by
  cases inner with
  | error => simp [Except.map] at read
  | ok found =>
      simp only [Except.map, Except.ok.injEq] at read
      exact ⟨found, rfl, by simp [← read, Reading.behind]⟩

theorem length_rest_readAttached {switch : Switch} {short : Bool} {rest : List Word}
    {value : List Char} {reading : Reading}
    (read : readAttached switch short rest value = .ok reading) :
    reading.rest.length ≤ rest.length := by
  fun_induction readAttached switch short rest value generalizing reading with
  | case1 =>
      simp only [Except.ok.injEq] at read
      simp [← read]
  | case2 => simp at read
  | case3 =>
      rename_i others next _ inner ih
      obtain ⟨found, innerRead, same⟩ := exists_of_map_behind read
      rw [same]
      by_cases isLast : others.isEmpty
      · exact length_rest_readDetached (by simpa [inner, isLast] using innerRead)
      · exact ih (by simpa [inner, isLast] using innerRead)
  | case4 => simp at read

/-- Reads the options of one word. -/
def readOption (switch : Switch) (short : Bool) (attached : Option (List Char))
    (rest : List Word) : Except UsageError Reading :=
  match attached with
  | none => readDetached switch rest
  | some value => readAttached switch short rest value

theorem length_rest_readOption {switch : Switch} {short : Bool} {attached : Option (List Char)}
    {rest : List Word} {reading : Reading}
    (read : readOption switch short attached rest = .ok reading) :
    reading.rest.length ≤ rest.length := by
  cases attached with
  | none => exact length_rest_readDetached read
  | some value => exact length_rest_readAttached read

/-- The words without a divider in front. -/
def dropDivider : List Word → List Word
  | .divider :: rest => rest
  | words => words

theorem length_dropDivider_le (words : List Word) : (dropDivider words).length ≤ words.length := by
  unfold dropDivider
  split <;> simp

/-- Reads the words that are left.  The divider is no word of its own next to the policy. -/
def readWords (progress : Progress) : List Word → Except UsageError Request
  | [] => progress.finish
  | .plain text :: rest =>
      if progress.policy.isNone then
        have := length_dropDivider_le rest
        readWords { progress with policy := some text } (dropDivider rest)
      else readWords (progress.refuse [text]) rest
  | .divider :: rest =>
      if progress.policy.isNone && !rest.isEmpty then readWords progress rest
      else readWords (progress.refuse ["--"]) rest
  | .unknown text :: rest => readWords (progress.refuse [text]) rest
  | .option switch short attached :: rest =>
      match read : readOption switch short attached rest with
      | .error error => .error error
      | .ok reading =>
          have := length_rest_readOption read
          match reading.settings.foldlM Progress.apply progress with
          | .error request => .ok request
          | .ok progress => readWords progress reading.rest
termination_by words => words.length
decreasing_by
  all_goals simp only [List.length_cons]
  all_goals omega

/-- Reads a command line. -/
def readArguments (arguments : List String) : Except UsageError Request := do
  readWords .start (← Word.readAll arguments)

/-! ## Texts -/

/-- How the program is called. -/
def usage : String :=
  "usage: " ++ Program.name ++ " [-h] [-H HOSTS] [-o OUTPUT_DIR] [--services SERVICES] [-v]\n"
    ++ "            [--version]\n"
    ++ "            policy\n"

/-- What is written when the command line is refused. -/
def UsageError.text (error : UsageError) : String :=
  usage ++ Program.name ++ ": error: " ++ error.message ++ "\n"

/-- What is written when the version is asked for. -/
def versionText : String := Program.name ++ " " ++ Program.version ++ "\n"

/-- What is written when help is asked for. -/
def helpText : String :=
  usage ++ String.join [
    "\n",
    "Compile firewall policy into iptables-restore rulesets\n",
    "\n",
    "positional arguments:\n",
    "  policy                Path to the JSON policy file\n",
    "\n",
    "options:\n",
    "  -h, --help            show this help message and exit\n",
    "  -H HOSTS, --host HOSTS\n",
    "                        Compile only this host (may be repeated)\n",
    "  -o OUTPUT_DIR, --output-dir OUTPUT_DIR\n",
    "                        Write <host>.rules files here instead of printing to\n",
    "                        stdout\n",
    "  --services SERVICES   Services database (default: /etc/services)\n",
    "  -v, --verbose         Enable verbose (debug) logging\n",
    "  --version             show program's version number and exit\n"]

end Firewall.CommandLine
