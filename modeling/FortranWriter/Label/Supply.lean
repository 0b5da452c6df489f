import FortranWriter.Label
/-! The supply that labels are taken from, one after the other. -/
namespace FortranWriter

/-- The number of the next label and the distance to the one after it. One supply goes through
all that is written together, so that no two constructs share a label. -/
structure LabelSupply where
  next : Nat
  step : Nat
deriving DecidableEq, Repr

namespace LabelSupply

/-- The supply counts in words of 32 bits and stays at the greatest once it gets there. -/
def ceiling : Nat := Nat.pow 2 32 - 1

def standard : LabelSupply :=
  ⟨100, 100⟩

/-- A supply starts at a label, and its labels increase. -/
def starting (first step : Nat) : Except Refusal LabelSupply := do
  let _ ← Label.ofNat first
  if step = 0 then .error .labelStep else .ok ⟨first, step⟩

/-- The supply that has one label only and gives it every time. -/
def single (label : Label) : LabelSupply :=
  ⟨label.number, 0⟩

/-- The next label and the supply after it; past the greatest label there is none. -/
def take (supply : LabelSupply) : Except Refusal (Label × LabelSupply) :=
  if supply.next > maximumLabel then .error .labelsExhausted
  else do
    let label ← Label.ofNat supply.next
    return (label, { supply with next := min (supply.next + supply.step) ceiling })

instance : Inhabited LabelSupply := ⟨standard⟩

end LabelSupply
end FortranWriter
