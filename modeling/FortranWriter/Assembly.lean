import FortranWriter.Construct
import FortranWriter.Statement
/-! Assembly turns descriptions of statements into fragments. Labels are taken in the order in which
constructs appear, an outer loop before the loops in it; bodies are assembled before the opener
around them is checked. -/
namespace FortranWriter.Assembly

/-- A transfer without a format list may name the label of one. -/
def optionalLabel : Option Text → Except Refusal (Option Label)
  | none => .ok none
  | some given => some <$> Label.parse given

/-- A transfer with a format list gets a label of its own, so it must not name another. -/
def transfer (direction : Wording.Transfer) (unit : Text) (label : Option Text)
    (operands : List Text) : Option (List Text) → Composing Fragment
  | none => do
    return .line (← Wording.transfer direction unit (← optionalLabel label) operands)
  | some formats =>
    match label with
    | some given => throw (.labelConflict given)
    | none => Construct.formatted direction unit formats operands

mutual

def statement : Statement → Composing Fragment
  | .call name arguments => return .line (← Wording.call name arguments)
  | .assign destination expression => return .line (← Wording.assign destination expression)
  | .declare category names => return .line (← Wording.declare category names)
  | .common name names => return .line (← Wording.common name names)
  | .parameter assignments => return .line (← Wording.parameter assignments)
  | .implicitNone => return .line Wording.implicitNone
  | .comment text => return .line (← Wording.comment text)
  | .continueAt label => return .line (Wording.continueAt (← Label.parse label))
  | .goto label => return .line (Wording.goto (← Label.parse label))
  | .ifGoto condition label => do
    let label ← Label.parse label
    return .line (← Wording.ifGoto condition label)
  | .returnLine => return .line Wording.returnLine
  | .stop => return .line Wording.stop
  | .verbatim text => return Fragment.ofText text
  | .ifThen condition body none => do
    let body ← statements body
    Construct.ifThen condition body
  | .ifThen condition body (some otherwise) => do
    let body ← statements body
    let otherwise ← statements otherwise
    Construct.ifThenElse condition body otherwise
  | .doLoop index start finish step body => do
    let label ← takeLabel
    let body ← statements body
    Construct.labelledLoop label index start finish step body
  | .program name body => do
    let body ← statements body
    Construct.program name body
  | .subroutine name parameters body => do
    let body ← statements body
    Construct.subroutine name parameters body
  | .function category name parameters body => do
    let body ← statements body
    Construct.function category name parameters body
  | .openFile unit file status body => do
    let body ← statements body
    Construct.openFile unit file status body
  | .closeFile unit => return .line (← Wording.closeFile unit)
  | .transfer direction unit label formats operands =>
    transfer direction unit label operands formats
  | .format label descriptors => do
    let label ← Label.parse label
    return .line (← Wording.format label descriptors)

def statements : List Statement → Composing (List Fragment)
  | [] => return []
  | first :: rest => do
    let first ← statement first
    let rest ← statements rest
    return first :: rest

end

end FortranWriter.Assembly
