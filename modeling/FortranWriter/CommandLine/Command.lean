import FortranWriter.Emission
import FortranWriter.Text.Numeral
/-! Commands: the options and the operand that each of them takes, and what is chosen by them. -/
namespace FortranWriter.CommandLine

structure Choices where
  verbose : Bool := false
  filename : Option Text := none
  output : Option Text := none
  form : Option SourceForm := none
  lineEnding : Option LineEnding := none
  encoding : Option Encoding := none
  maxLineLength : Option Nat := none
  coloured : Bool := false
deriving DecidableEq, Repr, Inhabited

inductive ValueFault where
  | missing
  | invalid (why : Text)
deriving DecidableEq, Repr

/-- How a value changes what is chosen. -/
abbrev ValueReader := Text → Except ValueFault (Choices → Choices)

inductive Effect where
  | turnOn (choose : Choices → Choices)
  | value (read : ValueReader)
  | showHelp
  | showVersion

/-- An option, with a letter or without. Options are explained in the order of their ranks. -/
structure Switch where
  letter : Option Char := none
  name : Text
  effect : Effect
  help : Text
  rank : Nat

namespace Switch

def takesValue (switch : Switch) : Bool :=
  match switch.effect with
  | .value _ => true
  | _ => false

/-- An option by its name behind two dashes, shown in some way, and its name again in place of a
value. -/
def shownBy (face : Text → Text) (switch : Switch) : Text :=
  face ("--".toList ++ switch.name) ++
    if switch.takesValue then " <".toList ++ switch.name ++ ['>'] else []

def shown : Switch → Text :=
  shownBy id

end Switch

/-- The only argument that is not an option. It has to be given. -/
structure Operand where
  name : Text
  read : ValueReader
  help : Text

def Operand.shown (operand : Operand) : Text :=
  '<' :: operand.name ++ ['>']

/-- A command by the words that call it. -/
structure Command where
  words : List Text
  about : Text
  switches : List Switch
  operand : Option Operand := none

namespace Command

def name (command : Command) : Text :=
  command.words.getLast?.getD []

def switchNamed? (command : Command) (name : Text) : Option Switch :=
  command.switches.find? fun switch => switch.name = name

def switchLettered? (command : Command) (letter : Char) : Option Switch :=
  command.switches.find? fun switch => switch.letter = some letter

end Command
end FortranWriter.CommandLine
