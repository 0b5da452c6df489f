import FortranWriter.Refusal
/-! Statement labels: the numbers from 1 to 99999. -/
namespace FortranWriter

/-- A label pairs a loop with its closing `continue`, or a transfer with its `format` line. -/
structure Label where
  number : Nat
  one_le : 1 ≤ number
  le_maximum : number ≤ maximumLabel
deriving DecidableEq, Repr

namespace Label

def ofNat (number : Nat) : Except Refusal Label :=
  if h : 1 ≤ number ∧ number ≤ maximumLabel then .ok ⟨number, h.1, h.2⟩
  else .error (.labelRange number)

def isToken (t : Text) : Bool :=
  Decimal.isDigits t && t.length ≤ 5

/-- Reads one to five digits, not all of them zero. -/
def parse (t : Text) : Except Refusal Label :=
  if isToken t then ofNat (Decimal.toNat t) else .error (.labelShape t)

/-- A label is written without zeros in front. -/
def text (label : Label) : Text :=
  Decimal.ofNat label.number

end Label
end FortranWriter
