import FortranWriter.Encoding
/-! What the output looks like as a whole: source form, line ending,
encoding, line limit, banner. -/
namespace FortranWriter

/-- Fixed form has labels in columns 1 to 5, a continuation marker in column 6 and statements from
column 7; free form has no such columns. -/
inductive SourceForm where
  | fixed
  | free
deriving DecidableEq, Repr, Inhabited

namespace SourceForm

def name : SourceForm → Text
  | fixed => "fixed".toList
  | free => "free".toList

def ofName? (name : Text) : Option SourceForm :=
  match String.ofList name with
  | "fixed" | "f77" => some fixed
  | "free" | "f90" => some free
  | _ => none

def unknownName (name : Text) : Text :=
  "unknown source form '".toList ++ name ++ "'".toList

/-- The columns of a line where nothing else is asked for. -/
def lineLength : SourceForm → Nat
  | fixed => 72
  | free => 132

end SourceForm

/-- What ends each line. The native ending is a line feed. -/
inductive LineEnding where
  | native
  | lf
  | crlf
deriving DecidableEq, Repr, Inhabited

namespace LineEnding

def name : LineEnding → Text
  | native => "native".toList
  | lf => "lf".toList
  | crlf => "crlf".toList

def ofName? (name : Text) : Option LineEnding :=
  match String.ofList name with
  | "native" => some native
  | "lf" | "unix" => some lf
  | "crlf" | "windows" => some crlf
  | _ => none

def unknownName (name : Text) : Text :=
  "unknown line ending '".toList ++ name ++ "'".toList

def text : LineEnding → Text
  | native | lf => ['\n']
  | crlf => ['\r', '\n']

end LineEnding

/-- How fragments are laid out and written. A banner names what the code was generated from. -/
structure Emission where
  form : SourceForm := .free
  lineEnding : LineEnding := .native
  encoding : Encoding := .utf8
  maxLineLength : Option Nat := none
  banner : Option Text := none
deriving DecidableEq, Repr, Inhabited

namespace Emission

def limit (emission : Emission) : Nat :=
  emission.maxLineLength.getD emission.form.lineLength

end Emission
end FortranWriter
