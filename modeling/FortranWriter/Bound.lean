import FortranWriter.Refusal
/-! Loop bounds and steps. -/
namespace FortranWriter

/-- A bound or step: an integer, or an expression given as text. -/
inductive Bound where
  | integer (n : Int)
  | expression (t : Text)
deriving DecidableEq, Repr

namespace Bound

/-- What may follow the first character of a numeric token. -/
def isTokenRest (c : Char) : Bool :=
  c.isAlphanum || c == '_' || c == '.'

/-- A single token that begins, after a sign at most, like a number does. -/
def isNumeric (t : Text) : Bool :=
  match Decimal.dropSign t with
  | [] => false
  | c :: rest => (c.isDigit || c == '.') && rest.all isTokenRest

def isInteger (t : Text) : Bool :=
  Decimal.isDigits (Decimal.dropSign t)

/-- A text is taken without the blanks around it. It has to be a single line, and if it is one
numeric token, an integer; any other expression is not looked into. -/
def render : Bound → Except Refusal Text
  | integer n => .ok (Decimal.ofInt n)
  | expression given =>
    let t := given.trim
    if t.isEmpty then .error .emptyBound
    else if !t.isSingleLine then .error .multiLineBound
    else if isNumeric t && !isInteger t then .error (.malformedBound t)
    else .ok t

end Bound
end FortranWriter
