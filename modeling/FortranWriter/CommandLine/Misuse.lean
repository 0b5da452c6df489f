import FortranWriter.Terminal
/-! How a command line may be wrong, and what is said of it. -/
namespace FortranWriter.CommandLine

inductive Hint where
  | similarOption (option : Text)
  | optionOf (command option : Text)
  | asValue (given : Text)
  | similarCommands (names : List Text)
  | withoutDashes (command : Text)
deriving DecidableEq, Repr

inductive Cause where
  | unexpected (given : Text)
  | unknownCommand (given : Text)
  | needlessValue (value option : Text)
  | missingValue (argument : Text)
  | invalidValue (value argument why : Text)
  | repeated (option : Text)
  | missing (operand : Text)
deriving DecidableEq, Repr

/-- A cause, with a hint and the usage of the command where they help. -/
structure Misuse where
  cause : Cause
  hint : Option Hint := none
  usage : Option Text := none
deriving DecidableEq, Repr

open Terminal in
structure Faces where
  mark : Text → Text := boldRed
  usage : Text → Text := boldUnderlined
  literal : Text → Text := bold
  valid : Text → Text := green
  invalid : Text → Text := yellow

def faces : Faces := {}

/-- A text between apostrophes, shown in some way. -/
def inMarks (face : Text → Text) (t : Text) : Text :=
  '\'' :: face t ++ ['\'']

def Hint.message : Hint → Text
  | similarOption option =>
    "a similar argument exists: ".toList ++ inMarks faces.valid option
  | optionOf command option => inMarks faces.valid (command ++ ' ' :: option) ++ " exists".toList
  | asValue given =>
    "to pass ".toList ++ inMarks faces.invalid given ++ " as a value, use ".toList ++
      inMarks faces.valid ("-- ".toList ++ given)
  | similarCommands [name] =>
    "a similar subcommand exists: ".toList ++ inMarks faces.valid name
  | similarCommands names =>
    "some similar subcommands exist: ".toList ++
      Text.joinWith ", ".toList (names.map (inMarks faces.valid))
  | withoutDashes command =>
    "subcommand ".toList ++ inMarks faces.valid command ++
      " exists; to use it, remove the ".toList ++ inMarks faces.invalid "--".toList ++
      " before it".toList

def Cause.message : Cause → Text
  | unexpected given =>
    "unexpected argument ".toList ++ inMarks faces.invalid given ++ " found".toList
  | unknownCommand given => "unrecognized subcommand ".toList ++ inMarks faces.invalid given
  | needlessValue value option =>
    "unexpected value ".toList ++ inMarks faces.invalid value ++ " for ".toList ++
      inMarks faces.literal option ++ " found; no more were expected".toList
  | missingValue argument =>
    "a value is required for ".toList ++ inMarks faces.invalid argument ++
      " but none was supplied".toList
  | invalidValue value argument why =>
    "invalid value ".toList ++ inMarks faces.invalid value ++ " for ".toList ++
      inMarks faces.literal argument ++ ": ".toList ++ why
  | repeated option =>
    "the argument ".toList ++ inMarks faces.invalid option ++
      " cannot be used multiple times".toList
  | missing operand =>
    "the following required arguments were not provided:\n  ".toList ++ faces.valid operand

/-- What is wrong, what may have been meant, how it is done, and where to learn more. -/
def Misuse.message (misuse : Misuse) : Text :=
  faces.mark "error:".toList ++ ' ' :: misuse.cause.message ++
    (misuse.hint.toList.map fun hint =>
      "\n\n  ".toList ++ faces.valid "tip:".toList ++ ' ' :: hint.message).flatten ++
    (misuse.usage.toList.map fun usage =>
      "\n\n".toList ++ faces.usage "Usage:".toList ++ ' ' :: usage).flatten ++
    "\n\nFor more information, try ".toList ++ inMarks faces.literal "--help".toList ++
    ".\n".toList

end FortranWriter.CommandLine
