import FortranWriter.Bound
import FortranWriter.Wording
/-! Descriptions of statements as a tree. Labels in it are still texts. -/
namespace FortranWriter

/-- A statement, or a construct with the statements in its bodies. -/
inductive Statement where
  | call (name : Text) (arguments : List Text)
  | assign (destination expression : Text)
  | declare (category : Text) (names : List Text)
  | common (name : Text) (names : List Text)
  | parameter (assignments : List Text)
  | implicitNone
  | comment (text : Text)
  | continueAt (label : Text)
  | goto (label : Text)
  | ifGoto (condition label : Text)
  | returnLine
  | stop
  /-- Lines passed through untouched. -/
  | verbatim (text : Text)
  | ifThen (condition : Text) (body : List Statement) (otherwise : Option (List Statement))
  | doLoop (index : Text) (start finish : Bound) (step : Option Bound) (body : List Statement)
  | program (name : Text) (body : List Statement)
  | subroutine (name : Text) (parameters : List Text) (body : List Statement)
  | function (category name : Text) (parameters : List Text) (body : List Statement)
  | openFile (unit file : Text) (status : Option Text) (body : List Statement)
  | closeFile (unit : Text)
  | transfer (direction : Wording.Transfer) (unit : Text) (label : Option Text)
      (formats : Option (List Text)) (operands : List Text)
  | format (label : Text) (descriptors : List Text)
deriving Repr, Inhabited

end FortranWriter
