import FortranWriter.Text.Basic
/-! Whole numbers below a limit, as they are given in text. -/
namespace FortranWriter.Numeral

inductive Fault where
  | empty
  | digit
  | tooLarge
deriving DecidableEq, Repr

def Fault.message : Fault → Text
  | empty => "cannot parse integer from empty string".toList
  | digit => "invalid digit found in string".toList
  | tooLarge => "number too large to fit in target type".toList

/-- The number that the digits behind those read so far lead to. The first character that is no
digit or makes the number too large is at fault. -/
def readFrom (limit number : Nat) : Text → Except Fault Nat
  | [] => .ok number
  | c :: rest =>
    if c.isDigit then
      let next := 10 * number + (c.toNat - '0'.toNat)
      if next < limit then readFrom limit next rest else .error .tooLarge
    else .error .digit

/-- Digits, with a plus sign in front or not. -/
def read (limit : Nat) : Text → Except Fault Nat
  | [] => .error .empty
  | ['+'] => .error .digit
  | '+' :: rest => readFrom limit 0 rest
  | t => readFrom limit 0 t

end FortranWriter.Numeral
