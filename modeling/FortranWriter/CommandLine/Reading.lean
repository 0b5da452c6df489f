import FortranWriter.CommandLine.Misuse
import FortranWriter.CommandLine.Similarity
import FortranWriter.CommandLine.Usage
/-! Reading the arguments of a command from left to right. What is read last waits until the next
argument is seen: only then is its value looked at. -/
namespace FortranWriter.CommandLine

inductive Stop where
  | help
  | version
  | misuse (misuse : Misuse)
deriving Repr

structure Taker where
  name : Text
  shown : Text
  read : ValueReader

/-- What waits for its value, or to have its value looked at. -/
structure Waiting where
  taker : Taker
  value : Option Text

/-- What is known after some of the arguments. -/
structure Reading where
  choices : Choices := {}
  /-- The names of the arguments that were seen, in order. -/
  used : List Text := []
  waiting : Option Waiting := none
  /-- Whether two dashes were seen: all that follows is no option. -/
  trailing : Bool := false
  /-- Whether there is an operand. -/
  filled : Bool := false

inductive Shape where
  | dashes
  | long (name : Text) (value : Option Text)
  | letters (letters : Text)
  | plain
deriving DecidableEq, Repr

/-- A single dash is plain, and two dashes are a form of their own. -/
def Shape.of : Text → Shape
  | ['-', '-'] => dashes
  | '-' :: '-' :: rest =>
    match rest.dropWhile (· != '=') with
    | [] => long rest none
    | _ :: value => long (rest.takeWhile (· != '=')) (some value)
  | '-' :: c :: rest => letters (c :: rest)
  | _ => plain

namespace Reading

/-- Two options of one name are one too many. The name counts as used even if
the value is refused. -/
def accept (reading : Reading) (taker : Taker) (value : Text) : Reading × Option Cause :=
  if reading.used.contains taker.name then
    ({ reading with used := reading.used.erase taker.name }, some (.repeated taker.shown))
  else
    let reading := { reading with used := reading.used ++ [taker.name] }
    match taker.read value with
    | .ok choose => ({ reading with choices := choose reading.choices }, none)
    | .error .missing => (reading, some (.missingValue taker.shown))
    | .error (.invalid why) => (reading, some (.invalidValue value taker.shown why))

def settle (reading : Reading) : Reading × Option Cause :=
  match reading.waiting with
  | none => (reading, none)
  | some waiting =>
    let reading := { reading with waiting := none }
    match waiting.value with
    | none => (reading, some (.missingValue waiting.taker.shown))
    | some value => reading.accept waiting.taker value

end Reading

section
variable (command : Command) (leads : List Command)

def plainUsage : Text :=
  usage command (!leads.isEmpty) []

/-- Repeated options and missing operands come with the usage, refused values do not. -/
def misuseFrom (cause : Cause) : Stop :=
  match cause with
  | .repeated _ => .misuse { cause, usage := some (plainUsage command leads) }
  | _ => .misuse { cause }

def checked (outcome : Reading × Option Cause) : Except Stop Reading :=
  match outcome with
  | (reading, none) => .ok reading
  | (_, some cause) => .error (misuseFrom command leads cause)

/-- An option whose value, if there is one, was given with it. -/
def takeSwitch (switch : Switch) (value : Option Text) (reading : Reading) :
    Except Stop Reading := do
  let reading ← checked command leads reading.settle
  match switch.effect with
  | .showHelp => .error .help
  | .showVersion => .error .version
  | .turnOn choose =>
    checked command leads (reading.accept ⟨switch.name, switch.shown, fun _ => .ok choose⟩ [])
  | .value read =>
    let taker := ⟨switch.name, switch.shown, read⟩
    match value with
    | some value => checked command leads (reading.accept taker value)
    | none => .ok { reading with waiting := some ⟨taker, none⟩ }

/-- A hint that a text may be a value, where the command takes one. -/
def valueHint (given : Text) : Option Hint :=
  command.operand.map fun _ => .asValue given

/-- Options by their letters: the first that takes a value has the rest for it, an equals sign in
front of it being left out. -/
def takeLetters : Text → Reading → Except Stop Reading
  | [], reading => .ok reading
  | c :: rest, reading =>
    match command.switchLettered? c with
    | none =>
      let given := ['-', c]
      .error (.misuse ⟨.unexpected given, valueHint command given,
        some (plainUsage command leads)⟩)
    | some switch =>
      if switch.takesValue then
        let value := match rest with
          | [] => none
          | '=' :: value => some value
          | value => some value
        takeSwitch command leads switch value reading
      else do takeLetters rest (← takeSwitch command leads switch none reading)

/-- The command that comes first among the arguments, of those with an option of such a name. -/
def optionElsewhere? (name : Text) (remaining : List Text) : Option Hint :=
  remaining.findSome? fun argument =>
    (leads.find? fun command => command.name = argument).bind fun command =>
      (Similarity.similar name (command.switches.map Switch.name)).getLast?.map fun option =>
        .optionOf command.name ("--".toList ++ option)

/-- An option that the command does not have. A similar one counts as used. -/
def unknownOption (name : Text) (remaining : List Text) (reading : Reading) : Stop :=
  let given := "--".toList ++ name
  let used := reading.settle.1.used
  match (Similarity.similar name (command.switches.map Switch.name)).getLast? with
  | some option =>
    .misuse ⟨.unexpected given, some (.similarOption ("--".toList ++ option)),
      some (usage command (!leads.isEmpty) (used ++ [option]))⟩
  | none =>
    .misuse ⟨.unexpected given, optionElsewhere? leads name remaining <|> valueHint command given,
      some (usage command (!leads.isEmpty) used)⟩

def takeLong (name : Text) (value : Option Text) (remaining : List Text) (reading : Reading) :
    Except Stop Reading :=
  match command.switchNamed? name, value with
  | none, _ => .error (unknownOption command leads name remaining reading)
  | some switch, some given =>
    if switch.takesValue then takeSwitch command leads switch value reading
    else
      .error (.misuse ⟨.needlessValue given switch.shown, none,
        some (usage command (!leads.isEmpty) (reading.used ++ [name]))⟩)
  | some switch, none => takeSwitch command leads switch none reading

def unexpected (argument : Text) (reading : Reading) : Stop :=
  let usage := some (plainUsage command leads)
  if leads.isEmpty then .misuse ⟨.unexpected argument, none, usage⟩
  else if reading.trailing && leads.any fun command => command.name = argument then
    .misuse ⟨.unexpected argument, some (.withoutDashes argument), usage⟩
  else
    match Similarity.similar argument (leads.map Command.name) with
    | [] => .misuse ⟨.unknownCommand argument, none, usage⟩
    | names => .misuse ⟨.unknownCommand argument, some (.similarCommands names), usage⟩

def takeOperand (argument : Text) (reading : Reading) : Except Stop Reading :=
  match command.operand, reading.filled with
  | some operand, false => do
    let reading ← checked command leads reading.settle
    let taker := ⟨operand.name, operand.shown, operand.read⟩
    return { reading with waiting := some ⟨taker, some argument⟩, filled := true }
  | _, _ => .error (unexpected command leads argument reading)

/-- The value of an option that waits for one, or else an operand. -/
def takePlain (argument : Text) (reading : Reading) : Except Stop Reading :=
  match reading.waiting with
  | some ⟨taker, none⟩ => .ok { reading with waiting := some ⟨taker, some argument⟩ }
  | _ => takeOperand command leads argument reading

/-- Nothing is left to be read: the operand has to be there. -/
def finish (reading : Reading) : Except Stop Reading := do
  let reading ← checked command leads reading.settle
  match command.operand, reading.filled with
  | some operand, false =>
    .error (.misuse ⟨.missing operand.shown, none,
      some (usage command (!leads.isEmpty) (reading.used ++ [operand.name]))⟩)
  | _, _ => .ok reading

/-- Whether an argument is the next command. The value of an option is not, nor is what follows two
dashes. -/
def next? (argument : Text) (reading : Reading) : Option Command :=
  match reading.trailing, reading.waiting with
  | false, none => leads.find? fun command => command.name = argument
  | _, _ => none

/-- What the arguments of a command choose, and the next command with the arguments behind it. -/
def readArguments : List Text → Reading → Except Stop (Reading × Option (Command × List Text))
  | [], reading => do return (← finish command leads reading, none)
  | argument :: rest, reading =>
    match next? leads argument reading with
    | some next => do return (← finish command leads reading, some (next, rest))
    | none =>
      if reading.trailing then do
        readArguments rest (← takeOperand command leads argument reading)
      else
        match Shape.of argument with
        | .dashes => readArguments rest { reading with trailing := true }
        | .long name value => do
          readArguments rest (← takeLong command leads name value rest reading)
        | .letters letters => do readArguments rest (← takeLetters command leads letters reading)
        | .plain => do readArguments rest (← takePlain command leads argument reading)

end
end FortranWriter.CommandLine
