import FortranWriter.CommandLine.Request
import FortranWriter.Delivery
import FortranWriter.Generation
import FortranWriter.Report
import FortranWriter.Terminal.Plain
import FortranWriter.Text.Escaped
/-! What is done for a request, and the code that the program ends with. -/
namespace FortranWriter

/-- What the surroundings of a run ask for: which records to log, whether colours are not wanted or
wanted in any case, and the width for explanations. -/
structure Surroundings where
  filter : Option Text := none
  withoutColours : Option Text := none
  withColours : Option Text := none
  columns : Option Text := none

namespace Surroundings

/-- Records are in colours unless any text asks for none. -/
def coloured (surroundings : Surroundings) : Bool :=
  surroundings.withoutColours.all List.isEmpty

/-- Answers are in colours only if that is asked for by a text other than a zero. -/
def answersColoured (surroundings : Surroundings) : Bool :=
  surroundings.coloured && surroundings.withColours.any (· != ['0'])

def shown (surroundings : Surroundings) (answer : Text) : Text :=
  if surroundings.answersColoured then answer else Terminal.plain answer

/-- A hundred columns where no other number is given. -/
def width (surroundings : Surroundings) : Nat :=
  match surroundings.columns.map (Numeral.read (Nat.pow 2 64)) with
  | some (.ok n) => n
  | _ => 100

end Surroundings

/-- How a run ends: with success, with an error that was shown, or with a
command line that is wrong. -/
inductive Ending where
  | done
  | failed
  | misused
deriving DecidableEq, Repr

def Ending.code : Ending → Nat
  | done => 0
  | failed => 1
  | misused => 2

def Emission.record (emission : Emission) : Text :=
  "Emission \x7b style: ".toList ++ form ++ ", line_ending: ".toList ++ ending ++
    ", encoding: ".toList ++ encoding ++ ", max_line_length: ".toList ++
    optional (emission.maxLineLength.map Decimal.ofNat) ++ ", banner: ".toList ++
    optional (emission.banner.map Escaped.quote) ++ " \x7d".toList
where
  form := match emission.form with
    | .fixed => "Fixed".toList
    | .free => "Free".toList
  ending := match emission.lineEnding with
    | .native => "Native".toList
    | .lf => "Lf".toList
    | .crlf => "CrLf".toList
  encoding := match emission.encoding with
    | .utf8 => "Utf8".toList
    | .latin1 => "Latin1".toList
    | .ascii => "Ascii".toList
  optional : Option Text → Text
    | some t => "Some(".toList ++ t ++ [')']
    | none => "None".toList

section
variable {m : Type → Type} [Monad m] [Host m]

def fail (words : Text) : m Ending := do
  Host.complain (words ++ ['\n'])
  return .failed

/-- Reads the descriptor in a file and goes on with it. -/
def withDescriptor (filename : Text)
    (report : Descriptor.ParsingFault → Text → Text → Text) (go : Descriptor → m Ending) :
    m Ending := do
  match ← load filename with
  | .error fault => fail (Report.loading fault.unread filename)
  | .ok source =>
    match Descriptor.parse source with
    | .error fault => fail (report fault filename source)
    | .ok descriptor =>
      let count := descriptor.statements.length
      Host.detail "macrofor::parsing" ("Found ".toList ++ Decimal.ofNat count ++
        " statement".toList ++ if count = 1 then [] else ['s'])
      go descriptor

def failGeneration (failure : Failure) (filename : Text) : m Ending :=
  fail (Report.generation failure.complaint failure.path? filename)

def runCheck (filename : Text) : m Ending := do
  Host.inform "macrofor" ("Checking file: ".toList ++ filename)
  withDescriptor filename Report.parsingFaultInFull fun descriptor =>
    match descriptor.fragments with
    | .error refusal => failGeneration (.refused refusal) filename
    | .ok _ => return .done

def printedBytes (fragments : List Fragment) (emission : Emission) (coloured : Bool) :
    Except Refusal ByteArray :=
  if coloured then highlightedBytes fragments emission else sourceBytes fragments emission

def deliver (filename : Text) (fragments : List Fragment) (emission : Emission)
    (choices : CommandLine.Choices) : m Ending := do
  match choices.output with
  | some path =>
    match ← emit path fragments emission with
    | .error failure => failGeneration failure filename
    | .ok _ => return .done
  | none =>
    match printedBytes fragments emission choices.coloured with
    | .error refusal => failGeneration (.refused refusal) filename
    | .ok content =>
      Host.print content
      return .done

def runGenerate (filename : Text) (choices : CommandLine.Choices) : m Ending := do
  Host.inform "macrofor" ("Generating from file: ".toList ++ filename)
  withDescriptor filename Report.parsingFault fun descriptor =>
    match descriptor.fragments with
    | .error refusal => failGeneration (.refused refusal) filename
    | .ok fragments => do
      let emission := descriptor.emission filename choices
      Host.detailValue "macrofor" "emission" emission.record
      deliver filename fragments emission choices

/-- What is printed if nothing is asked for. -/
def introduction : Text :=
  "usage: macrofor [COMMAND] ...\nTry '--help' for more information.\n".toList

def printText (t : Text) : m Unit :=
  Host.print (Text.bytes t)

def runAction (action : CommandLine.Action) : m Ending :=
  match action with
  | .introduce => do
    printText introduction
    return .done
  | .check filename => runCheck filename
  | .generate filename choices => runGenerate filename choices

def run (surroundings : Surroundings) (arguments : List Text) : m Ending :=
  match CommandLine.request surroundings.width arguments with
  | .answer t => do
    printText (surroundings.shown t)
    return .done
  | .refuse t => do
    Host.complain (surroundings.shown t)
    return .misused
  | .act verbose action => do
    Host.startLog ⟨Log.Filter.choose verbose surroundings.filter, surroundings.coloured⟩
    runAction action

end
end FortranWriter
