/-!
The command line: the commands, the arguments that each of them takes, and what is wrong with a line
that names none. Arguments are read from left to right. An option is settled when what follows its
value is read, so of two mistakes the one that is met first counts.
-/
namespace PriceHistory

/-- A command, with its arguments. -/
inductive Command where
  | history (symbol : String) (range date : Option String)
  | symbols
  | last (symbols : List String)
  | stats (symbol : String)
  deriving DecidableEq

namespace Command

/-- What a line may begin with. -/
inductive Topic where
  | history
  | symbols
  | last
  | stats
  | help
  deriving DecidableEq

/-- The word for a topic. -/
def Topic.word : Topic → String
  | history => "history"
  | symbols => "symbols"
  | last => "last"
  | stats => "stats"
  | help => "help"

/-- The topic that a word names. Its case counts. -/
def Topic.ofWord? (word : String) : Option Topic :=
  [history, symbols, last, stats, help].find? fun topic => topic.word == word

/-- Why a line names no command. -/
inductive UsageFault where
  /-- Help is asked for, about a topic or about all. -/
  | help (topic : Option Topic)
  /-- The line is empty. -/
  | nothing
  | unknownCommand
  | unknownArgument
  /-- An option is given twice. -/
  | repeatedOption
  /-- An option lacks its value. -/
  | missingValue
  /-- A value is given where none is taken. -/
  | unwantedValue
  | missingArgument
  deriving DecidableEq

/-- The exit code for a line without a command. Asking for help is no mistake. -/
def UsageFault.exitCode : UsageFault → Nat
  | help _ => 0
  | _ => 2

/-- The options that take a value. -/
inductive Flag where
  | range
  | date
  deriving DecidableEq

/-- The word for an option. -/
def Flag.word : Flag → String
  | range => "range"
  | date => "date"

/-- An argument by its looks. -/
inductive Argument where
  /-- Two dashes by themselves: all that follows is plain. -/
  | separator
  /-- Two dashes and a word, perhaps with a value after an equals sign. -/
  | long (word : String) (value : Option String)
  /-- One dash and a letter. -/
  | short (letter : Char)
  | plain (text : String)
  deriving DecidableEq

/-- The looks of an argument. A dash by itself is plain. -/
def Argument.of (text : String) : Argument :=
  match text.toList with
  | ['-', '-'] => separator
  | '-' :: '-' :: rest =>
    let word := rest.takeWhile (· ≠ '=')
    long (String.ofList word) (match rest.drop word.length with
      | _ :: value => some (String.ofList value)
      | [] => none)
  | '-' :: letter :: _ => short letter
  | _ => plain text

/-- The arguments that a topic takes: some options, and plain ones up to a limit if there is one. -/
structure Form where
  topic : Topic
  flags : List Flag
  limit : Option Nat

/-- The arguments of a topic. -/
def Form.of : Topic → Form
  | .history => ⟨.history, [.range, .date], some 1⟩
  | .symbols => ⟨.symbols, [], some 0⟩
  | .last => ⟨.last, [], none⟩
  | .stats => ⟨.stats, [], some 1⟩
  | .help => ⟨.help, [], some 0⟩

/-- The arguments read so far. The last option may still be open, with its value or without. -/
structure Reading where
  plain : List String
  values : List (Flag × String)
  unsettled : Option (Flag × Option String)

namespace Reading

/-- Nothing read yet. -/
def start : Reading := ⟨[], [], none⟩

/-- Gives an option its value. -/
def assign (flag : Flag) (value : String) (r : Reading) : Except UsageFault Reading :=
  if (r.values.lookup flag).isSome then .error .repeatedOption
  else .ok { r with values := (flag, value) :: r.values }

/-- Settles the option that is still open. -/
def settle (r : Reading) : Except UsageFault Reading :=
  match r.unsettled with
  | none => .ok r
  | some (_, none) => .error .missingValue
  | some (flag, some value) => { r with unsettled := none }.assign flag value

/-- Takes a plain argument, if there is room for one more. -/
def takePlain (form : Form) (text : String) (r : Reading) : Except UsageFault Reading :=
  if form.limit.all (r.plain.length < ·) then
    r.settle.map fun r => { r with plain := r.plain ++ [text] }
  else .error .unknownArgument

/-- Takes an option, with the value after its equals sign. -/
def takeFlag (form : Form) (word : String) (value : Option String) (r : Reading) :
    Except UsageFault Reading :=
  match form.flags.find? fun flag => flag.word == word with
  | none => .error .unknownArgument
  | some flag => do
    let r ← r.settle
    match value with
    | some value => r.assign flag value
    | none => return { r with unsettled := some (flag, none) }

/-- Asks for help, where nothing was wrong before. -/
def askHelp (form : Form) (r : Reading) : Except UsageFault Reading :=
  r.settle.bind fun _ => .error (.help form.topic)

/-- Takes an argument before a separator. -/
def take (form : Form) (argument : Argument) (r : Reading) : Except UsageFault Reading :=
  match argument with
  | .separator => .ok r
  | .long "help" none | .short 'h' => r.askHelp form
  | .long "help" (some _) => .error .unwantedValue
  | .long word value => r.takeFlag form word value
  | .short _ => .error .unknownArgument
  | .plain text =>
    match r.unsettled with
    | some (flag, none) => .ok { r with unsettled := some (flag, some text) }
    | _ => r.takePlain form text

/-- Takes all arguments. Behind a separator they are plain, whatever their looks. -/
def takeAll (form : Form) (r : Reading) : List String → Except UsageFault Reading
  | [] => r.settle
  | text :: rest =>
    match Argument.of text with
    | .separator => (rest.foldlM (fun r text => takePlain form text r) r).bind settle
    | argument => (r.take form argument).bind fun r => takeAll form r rest

end Reading

/-- The command of a topic and its arguments. -/
def ofReading? (topic : Topic) (r : Reading) : Except UsageFault Command :=
  match topic, r.plain with
  | .history, symbol :: _ => .ok (.history symbol (r.values.lookup .range) (r.values.lookup .date))
  | .symbols, _ => .ok .symbols
  | .last, asked => .ok (.last asked)
  | .stats, symbol :: _ => .ok (.stats symbol)
  | .history, [] | .stats, [] => .error .missingArgument
  | .help, _ => .error (.help none)

/-- What the words after `help` ask for. -/
def helpOn : List String → UsageFault
  | [] => .help none
  | [word] =>
    match Topic.ofWord? word with
    | some topic => .help topic
    | none => .unknownCommand
  | _ => .unknownCommand

/-- Reads a line that starts with no topic. -/
def strayFault (text : String) (rest : List String) : UsageFault :=
  match Argument.of text with
  | .separator =>
    match rest with
    | [] => .nothing
    | word :: _ => if (Topic.ofWord? word).isSome then .unknownArgument else .unknownCommand
  | .long "help" none | .short 'h' => .help none
  | .long "help" (some _) => .unwantedValue
  | .long _ _ | .short _ => .unknownArgument
  | .plain _ => .unknownCommand

/-- Reads a line. -/
def ofArguments? : List String → Except UsageFault Command
  | [] => .error .nothing
  | text :: rest =>
    match Topic.ofWord? text with
    | some .help => .error (helpOn rest)
    | some topic => (Reading.start.takeAll (.of topic) rest).bind (ofReading? topic)
    | none => .error (strayFault text rest)

end Command

end PriceHistory
