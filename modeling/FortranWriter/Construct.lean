import FortranWriter.Fragment
import FortranWriter.Label.Supply
import FortranWriter.Wording
/-! Constructs: a body between a matching opener and closer. Each adds one level of indentation to
every line of its bodies. -/
namespace FortranWriter

/-- What may be refused on the way and takes labels from a supply. Labels that were taken before a
refusal stay taken. -/
abbrev Composing := ExceptT Refusal (StateM LabelSupply)

/-- Takes the next label; a supply that has none is left as it is. -/
def takeLabel : Composing Label := fun supply =>
  match supply.take with
  | .ok (label, rest) => (.ok label, rest)
  | .error refusal => (.error refusal, supply)

namespace Construct
open Argument (required requiredList optionalList)
open Wording (Transfer)

def enclose (opener : Text) (body : List Fragment) (closer : Text) : Fragment :=
  .block [.line opener, .body body, .line closer]

/-- `if (condition) then` … `end if` -/
def ifThen (condition : Text) (body : List Fragment) : Except Refusal Fragment := do
  let opener ← Wording.ifThen condition
  return enclose opener body Wording.endIf

/-- `if (condition) then` … `else` … `end if` -/
def ifThenElse (condition : Text) (body otherwise : List Fragment) : Except Refusal Fragment := do
  let opener ← Wording.ifThen condition
  return .block [.line opener, .body body, .line Wording.otherwise, .body otherwise,
    .line Wording.endIf]

/-- A loop closed by the `continue` that carries its label. -/
def labelledLoop (label : Label) (index : Text) (start finish : Bound) (step : Option Bound)
    (body : List Fragment) : Except Refusal Fragment := do
  let opener ← Wording.doHeader (some label) index start finish step
  return enclose opener body (Wording.continueAt label)

/-- A loop whose label comes from the supply. The header is checked before a label is spent. -/
def doLoop (index : Text) (start finish : Bound) (step : Option Bound) (body : List Fragment) :
    Composing Fragment := do
  let _ ← Wording.doHeader none index start finish step
  let label ← takeLabel
  labelledLoop label index start finish step body

/-- `program name` … `end` -/
def program (name : Text) (body : List Fragment) : Except Refusal Fragment := do
  let opener ← Wording.program name
  return enclose opener body Wording.finish

/-- `subroutine name(a, b)` … `end` -/
def subroutine (name : Text) (parameters : List Text) (body : List Fragment) :
    Except Refusal Fragment := do
  let opener ← Wording.subroutine name parameters
  return enclose opener body Wording.finish

/-- `category function name(a, b)` … `end` -/
def function (category name : Text) (parameters : List Text) (body : List Fragment) :
    Except Refusal Fragment := do
  let opener ← Wording.function category name parameters
  return enclose opener body Wording.finish

/-- `open(unit=10, …)` … `close(unit=10)`, both ends naming the same unit. -/
def openFile (unit file : Text) (status : Option Text) (body : List Fragment) :
    Except Refusal Fragment := do
  let opener ← Wording.openFile unit file status
  let closer ← Wording.closeFile unit
  return enclose opener body closer

/-- A transfer that refers to a label from the supply, and the `format` line with that label. Every
field is checked before a label is spent. -/
def formatted (direction : Transfer) (unit : Text) (descriptors operands : List Text) :
    Composing Fragment := do
  let _ ← required "unit".toList unit
  let _ ← requiredList "format descriptor".toList descriptors
  let _ ← optionalList "variable".toList operands
  let label ← takeLabel
  let statement ← Wording.transfer direction unit (some label) operands
  let format ← Wording.format label descriptors
  return .block [.line statement, .line format]

end Construct
end FortranWriter
