import FortranWriter.CommandLine.Program
import FortranWriter.CommandLine.Reading
import FortranWriter.Listing
/-! What a command line asks for. -/
namespace FortranWriter.CommandLine

inductive Action where
  | introduce
  | check (filename : Text)
  | generate (filename : Text) (choices : Choices)
deriving DecidableEq, Repr

/-- Something to do, or an answer to be given at once: on what is asked for, or on what is wrong. -/
inductive Request where
  | act (verbose : Bool) (action : Action)
  | answer (text : Text)
  | refuse (text : Text)
deriving DecidableEq, Repr

def answerTo (command : Command) (leads : List Command) (width : Nat) : Stop → Request
  | .help => .answer (help command leads width)
  | .version =>
    .answer (Text.joinWith ['-'] command.words ++ " v".toList ++ version ++ ['\n'])
  | .misuse misuse => .refuse misuse.message

def actionOf (command : Command) (choices : Choices) : Action :=
  match choices.filename with
  | some filename =>
    if command.name = check.name then .check filename else .generate filename choices
  | none => .introduce

/-- The request that arguments make. Explanations are laid out for the given width. -/
def request (width : Nat) (arguments : List Text) : Request :=
  match readArguments root commands arguments {} with
  | .error stop => answerTo root commands width stop
  | .ok (reading, none) => .act reading.choices.verbose .introduce
  | .ok (reading, some (command, rest)) =>
    match readArguments command [] rest {} with
    | .error stop => answerTo command [] width stop
    | .ok (inner, _) =>
      .act (reading.choices.verbose || inner.choices.verbose) (actionOf command inner.choices)

end FortranWriter.CommandLine
