import Predictor.Text.Numeral

/-!
The words after the name of the program: first one of three commands, then its flags and operands in
any order. After two hyphens every word is an operand. A flag takes its value from behind an equals
sign or from the next word, and may be given once. The fault met first is the one that is reported.
-/

namespace Predictor.CommandLine

inductive Command
  | submit (owner : String) (requestId : Option String) (resources : List String)
  | inspect (id : String)
  | list (status owner : Option String) (limit : Int64)
  deriving DecidableEq, Repr

/-- A flag with a value. -/
structure Flag where
  name : String
  placeholder : String
  /-- Whether the value is a whole number of 64 bits. -/
  isNumber : Bool
  deriving DecidableEq, Repr

def Flag.text (flag : Flag) : String := "--" ++ flag.name ++ " <" ++ flag.placeholder ++ ">"

/-! ## Faults -/

inductive UsageFault
  /-- There is no command. -/
  | noCommand
  | unknownCommand (word : String)
  /-- A command stands after two hyphens. -/
  | shieldedCommand (word : String)
  | unexpected (word : String)
  | unneededValue (value flag : String)
  | noValue (flag : Flag)
  | repeated (flag : Flag)
  | malformed (value : String) (flag : Flag) (fault : Text.NumeralFault)
  /-- A flag or an operand is missing. -/
  | incomplete
  deriving DecidableEq, Repr

/-- The first line of what is said of a fault; without a command, what the program is for. -/
def UsageFault.message : UsageFault → String
  | .noCommand => "Image classification prediction engine"
  | .unknownCommand word => "error: unrecognized subcommand '" ++ word ++ "'"
  | .shieldedCommand word =>
    "error: subcommand '" ++ word ++ "' exists; to use it, remove the '--' before it"
  | .unexpected word => "error: unexpected argument '" ++ word ++ "' found"
  | .unneededValue value flag =>
    "error: unexpected value '" ++ value ++ "' for '" ++ flag ++ "' found; no more were expected"
  | .noValue flag =>
    "error: a value is required for '" ++ flag.text ++ "' but none was supplied"
  | .repeated flag => "error: the argument '" ++ flag.text ++ "' cannot be used multiple times"
  | .malformed value flag fault =>
    "error: invalid value '" ++ value ++ "' for '" ++ flag.text ++ "': " ++ fault.message
  | .incomplete => "error: the following required arguments were not provided:"

/-- What keeps words from being a command. -/
inductive Stop
  /-- The words ask for help. -/
  | help
  | fault (fault : UsageFault)
  deriving DecidableEq, Repr

/-! ## Words -/

inductive Word
  /-- Two hyphens alone. -/
  | shield
  | long (name : String) (value : Option String)
  | short (letter : Char)
  | plain
  deriving DecidableEq, Repr

def Word.ofText (text : String) : Word :=
  match text.toList with
  | ['-', '-'] => .shield
  | '-' :: '-' :: rest =>
    let value := match rest.dropWhile (· != '=') with
      | _ :: value => some (String.ofList value)
      | [] => none
    .long (String.ofList (rest.takeWhile (· != '='))) value
  | '-' :: letter :: _ => .short letter
  | _ => .plain

/-- How many operands a command takes. -/
inductive Operands
  | none
  | one
  | many
  deriving DecidableEq, Repr

structure Grammar where
  flags : List Flag
  operands : Operands
  deriving DecidableEq, Repr

/-- What was read of the words of a command. -/
structure Gathered where
  values : List (Flag × String)
  /-- A flag whose value is yet to be checked, or to come. -/
  pending : Option (Flag × Option String)
  operands : List String
  /-- Whether two hyphens were met. -/
  shielded : Bool
  deriving DecidableEq, Repr

namespace Gathered

def start : Gathered := ⟨[], none, [], false⟩

def value? (g : Gathered) (name : String) : Option String :=
  (g.values.find? fun entry => entry.1.name == name).map Prod.snd

/-- Limits of numbers of 64 bits with a sign. -/
def number (value : String) : Except Text.NumeralFault Int :=
  Text.integer 0x8000000000000000 0x7FFFFFFFFFFFFFFF value.toList

/-- Checks the flag that is pending. -/
def settle (g : Gathered) : Except UsageFault Gathered :=
  match g.pending with
  | none => .ok g
  | some (flag, none) => .error (.noValue flag)
  | some (flag, some value) =>
    if (g.value? flag.name).isSome then .error (.repeated flag)
    else
      let g := { g with values := g.values ++ [(flag, value)], pending := none }
      match flag.isNumber, number value with
      | true, .error fault => .error (.malformed value flag fault)
      | _, _ => .ok g

/-- A word that is no flag and no value of one. -/
def addOperand (grammar : Grammar) (g : Gathered) (word : String) : Except UsageFault Gathered :=
  let isFull := match grammar.operands with
    | .none => true
    | .one => !g.operands.isEmpty
    | .many => false
  if isFull then .error (.unexpected word)
  else g.settle.map fun g => { g with operands := g.operands ++ [word] }

def add (grammar : Grammar) (g : Gathered) (text : String) : Except Stop Gathered :=
  if g.shielded then (g.addOperand grammar text).mapError .fault
  else match Word.ofText text with
    | .shield => .ok { g with shielded := true }
    | .long "help" none | .short 'h' =>
      match g.settle with
      | .ok _ => .error .help
      | .error fault => .error (.fault fault)
    | .long "help" (some value) => .error (.fault (.unneededValue value "--help"))
    | .long name value =>
      match grammar.flags.find? (·.name == name) with
      | none => .error (.fault (.unexpected ("--" ++ name)))
      | some flag => (do
          let g ← g.settle
          let g := { g with pending := some (flag, value) }
          if value.isSome then g.settle else .ok g).mapError .fault
    | .short letter => .error (.fault (.unexpected ("-" ++ String.singleton letter)))
    | .plain =>
      match g.pending with
      | some (flag, none) => .ok { g with pending := some (flag, some text) }
      | _ => (g.addOperand grammar text).mapError .fault

def ofWords (grammar : Grammar) (words : List String) : Except Stop Gathered := do
  let g ← words.foldlM (add grammar) start
  g.settle.mapError .fault

end Gathered

/-! ## Commands -/

namespace Command

def submitGrammar : Grammar :=
  ⟨[⟨"owner", "OWNER", false⟩, ⟨"request-id", "REQUEST_ID", false⟩], .many⟩

def inspectGrammar : Grammar := ⟨[], .one⟩

def listGrammar : Grammar :=
  ⟨[⟨"status", "STATUS", false⟩, ⟨"owner", "OWNER", false⟩, ⟨"limit", "LIMIT", true⟩], .none⟩

/-- How many predictions a list shows unless it is told. -/
def defaultLimit : Int64 := 20

/-- How the words after the name of a command are read. -/
def reader? (name : String) : Option (List String → Except Stop Command) :=
  match name with
  | "submit" => some fun words => do
    let g ← Gathered.ofWords submitGrammar words
    match g.value? "owner", g.operands with
    | some owner, _ :: _ => .ok (.submit owner (g.value? "request-id") g.operands)
    | _, _ => .error (.fault .incomplete)
  | "show" => some fun words => do
    let g ← Gathered.ofWords inspectGrammar words
    match g.operands with
    | id :: _ => .ok (.inspect id)
    | [] => .error (.fault .incomplete)
  | "list" => some fun words => do
    let g ← Gathered.ofWords listGrammar words
    let limit := (g.value? "limit").bind fun value => (Gathered.number value).toOption
    .ok (.list (g.value? "status") (g.value? "owner") ((limit.map Int64.ofInt).getD defaultLimit))
  | _ => none

def isCommand (word : String) : Bool := (reader? word).isSome || word == "help"

/-- A first word that is two hyphens: no command can follow. -/
def ofShielded : List String → Stop
  | [] => .fault .noCommand
  | word :: _ => .fault (if isCommand word then .shieldedCommand word else .unknownCommand word)

/-- What follows a call for help. -/
def ofHelp : List String → Stop
  | [] => .help
  | word :: _ => if isCommand word then .help else .fault (.unknownCommand word)

def ofWords : List String → Except Stop Command
  | [] => .error (.fault .noCommand)
  | word :: rest =>
    match Word.ofText word with
    | .shield => .error (ofShielded rest)
    | .long "help" none | .short 'h' => .error .help
    | .long "help" (some value) => .error (.fault (.unneededValue value "--help"))
    | .long name _ => .error (.fault (.unexpected ("--" ++ name)))
    | .short letter => .error (.fault (.unexpected ("-" ++ String.singleton letter)))
    | .plain =>
      match reader? word with
      | some read => read rest
      | none => .error (if word = "help" then ofHelp rest else .fault (.unknownCommand word))

end Command

end Predictor.CommandLine
