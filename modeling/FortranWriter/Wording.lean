import FortranWriter.Argument
import FortranWriter.Bound
import FortranWriter.Label
/-! The wording of single statements. Each takes one line; indentation, the place of labels and
continuation are settled when the lines are laid out. Names, conditions and expressions are taken
as they are. -/
namespace FortranWriter.Wording
open Argument (required requiredList optionalList)

inductive Transfer where
  | read
  | write
deriving DecidableEq, Repr

def Transfer.keyword : Transfer → Text
  | read => "read".toList
  | write => "write".toList

def defaultStatus : Text :=
  "unknown".toList

/-- `call name(a, b)` -/
def call (name : Text) (arguments : List Text) : Except Refusal Text := do
  let name ← required "subroutine name".toList name
  let arguments ← optionalList "argument".toList arguments
  return "call ".toList ++ name ++ "(".toList ++ arguments ++ ")".toList

/-- `destination = expression` -/
def assign (destination expression : Text) : Except Refusal Text := do
  let destination ← required "assignment destination".toList destination
  let expression ← required "expression".toList expression
  return destination ++ " = ".toList ++ expression

/-- `category a, b`, or for a typing rule over letters the compact `implicit real*8(a-h,o-z)`. -/
def declare (category : Text) (names : List Text) : Except Refusal Text := do
  let category ← required "type".toList category
  let list ← requiredList "identifier".toList names
  if Text.lowerAscii (Text.trim category) = "implicit none".toList then
    .error .namesUnderImplicitNone
  else if "implicit ".toList.isPrefixOf category then
    return category ++ "(".toList ++ Text.joinWith [','] (names.map Text.trim) ++ ")".toList
  else
    return category ++ " ".toList ++ list

/-- `common /name/ a, b` -/
def common (name : Text) (names : List Text) : Except Refusal Text := do
  let name ← required "common block name".toList name
  let list ← requiredList "variable".toList names
  return "common /".toList ++ name ++ "/ ".toList ++ list

/-- `parameter (n = 10, m = 5)` -/
def parameter (assignments : List Text) : Except Refusal Text := do
  let list ← requiredList "parameter assignment".toList assignments
  return "parameter (".toList ++ list ++ ")".toList

def implicitNone : Text :=
  "implicit none".toList

/-- Comments are worded as in free form, which fixed form changes when it lays them out. -/
def comment (content : Text) : Except Refusal Text := do
  let content ← Argument.singleLine "comment".toList content
  return if content.isEmpty then "!".toList else "! ".toList ++ content

/-- `100 continue` -/
def continueAt (label : Label) : Text :=
  label.text ++ " continue".toList

/-- `goto 100` -/
def goto (label : Label) : Text :=
  "goto ".toList ++ label.text

/-- `if (condition) goto 100` -/
def ifGoto (condition : Text) (label : Label) : Except Refusal Text := do
  let condition ← required "condition".toList condition
  return "if (".toList ++ condition ++ ") goto ".toList ++ label.text

/-- `if (condition) then` -/
def ifThen (condition : Text) : Except Refusal Text := do
  let condition ← required "condition".toList condition
  return "if (".toList ++ condition ++ ") then".toList

def otherwise : Text :=
  "else".toList

def endIf : Text :=
  "end if".toList

/-- The separator and the text of a step that is given, nothing otherwise. -/
def stepClause : Option Bound → Except Refusal Text
  | none => return []
  | some step => return ", ".toList ++ (← step.render)

/-- The label of a loop header or a transfer behind what leads up to it,
nothing if there is none. -/
def labelClause (lead trail : Text) : Option Label → Text
  | none => []
  | some label => lead ++ label.text ++ trail

/-- `do 100 i = 1, 10, 2`, without the label for a loop closed by `end do` and without the step if
none is given. -/
def doHeader (label : Option Label) (index : Text) (start finish : Bound) (step : Option Bound) :
    Except Refusal Text := do
  let index ← required "loop index".toList index
  let start ← start.render
  let finish ← finish.render
  let step ← stepClause step
  return "do ".toList ++ labelClause [] [' '] label ++ index ++ " = ".toList ++ start ++
    ", ".toList ++ finish ++ step

def endDo : Text :=
  "end do".toList

def returnLine : Text :=
  "return".toList

def stop : Text :=
  "stop".toList

/-- Closes programs, subroutines and functions. -/
def finish : Text :=
  "end".toList

/-- `program name` -/
def program (name : Text) : Except Refusal Text := do
  let name ← required "program name".toList name
  return "program ".toList ++ name

/-- `subroutine name(a, b)` -/
def subroutine (name : Text) (parameters : List Text) : Except Refusal Text := do
  let name ← required "subroutine name".toList name
  let parameters ← optionalList "parameter".toList parameters
  return "subroutine ".toList ++ name ++ "(".toList ++ parameters ++ ")".toList

/-- `category function name(a, b)` -/
def function (category name : Text) (parameters : List Text) : Except Refusal Text := do
  let category ← required "function type".toList category
  let name ← required "function name".toList name
  let parameters ← optionalList "parameter".toList parameters
  return category ++ " function ".toList ++ name ++ "(".toList ++ parameters ++ ")".toList

/-- `open(unit=10, file='data.txt', status='old')`, file name and status as literals. -/
def openFile (unit file : Text) (status : Option Text) : Except Refusal Text := do
  let unit ← required "unit".toList unit
  let file ← required "file name".toList file
  let status ← match status with
    | some status => required "status".toList status
    | none => pure defaultStatus
  return "open(unit=".toList ++ unit ++ ", file=".toList ++ Literal.quote file ++
    ", status=".toList ++ Literal.quote status ++ ")".toList

/-- `close(unit=10)` -/
def closeFile (unit : Text) : Except Refusal Text := do
  let unit ← required "unit".toList unit
  return "close(unit=".toList ++ unit ++ ")".toList

/-- `read(5, 100) i, x`, or `read(5) i, x` without a format label. -/
def transfer (direction : Transfer) (unit : Text) (label : Option Label) (operands : List Text) :
    Except Refusal Text := do
  let unit ← required "unit".toList unit
  let operands ← optionalList "variable".toList operands
  return direction.keyword ++ "(".toList ++ unit ++ labelClause ", ".toList [] label ++
    ")".toList ++ (if operands.isEmpty then [] else ' ' :: operands)

/-- `100 format(I3, F8.3)` -/
def format (label : Label) (descriptors : List Text) : Except Refusal Text := do
  let descriptors ← requiredList "format descriptor".toList descriptors
  return label.text ++ " format(".toList ++ descriptors ++ ")".toList

end FortranWriter.Wording
