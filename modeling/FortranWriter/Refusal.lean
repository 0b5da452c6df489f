import FortranWriter.Text.Decimal
import FortranWriter.Encoding
/-! The reasons for which an argument, a label or a character is refused. -/
namespace FortranWriter

structure Complaint where
  problem : Text
  details : Text
deriving DecidableEq, Repr

/-- The greatest statement label: labels have at most five digits. -/
def maximumLabel : Nat := 99999

inductive Refusal where
  | empty (what : Text)
  | multiLine (what : Text)
  | emptyList (what : Text)
  | emptyBound
  | multiLineBound
  | malformedBound (given : Text)
  | labelShape (given : Text)
  | labelRange (number : Nat)
  | labelStep
  | labelsExhausted
  | labelConflict (given : Text)
  | namesUnderImplicitNone
  | unrepresentable (c : Char) (encoding : Encoding)
deriving DecidableEq, Repr

namespace Refusal

def complaint : Refusal → Complaint
  | empty what =>
    ⟨"Empty ".toList ++ what, "the ".toList ++ what ++ " must not be empty".toList⟩
  | multiLine what =>
    ⟨"Multi-line ".toList ++ what, "the ".toList ++ what ++ " must fit on a single line".toList⟩
  | emptyList what =>
    ⟨"Empty ".toList ++ what ++ " list".toList,
      "at least one ".toList ++ what ++ " is required".toList⟩
  | emptyBound =>
    ⟨"Empty loop bound".toList, "a loop bound or step must not be empty".toList⟩
  | multiLineBound =>
    ⟨"Multi-line loop bound".toList, "a loop bound or step must fit on a single line".toList⟩
  | malformedBound given =>
    ⟨"Malformed numeric bound".toList, '\'' :: given ++ "' is not an integer".toList⟩
  | labelShape given =>
    ⟨"Invalid label".toList, '\'' :: given ++ "' is not a label of one to five digits".toList⟩
  | labelRange number =>
    ⟨"Label out of range".toList,
      Decimal.ofNat number ++ " is not between 1 and ".toList ++ Decimal.ofNat maximumLabel⟩
  | labelStep =>
    ⟨"Invalid label step".toList,
      "labels must increase; use Labels::single() for a fixed label".toList⟩
  | labelsExhausted =>
    ⟨"Labels exhausted".toList,
      "no label above ".toList ++ Decimal.ofNat maximumLabel ++ " is available".toList⟩
  | labelConflict given =>
    ⟨"Conflicting format label".toList,
      "label ".toList ++ given ++
        " given together with a format list, which allocates its own".toList⟩
  | namesUnderImplicitNone =>
    ⟨"Invalid declaration".toList,
      "implicit none takes no identifiers; use implicit_none() instead".toList⟩
  | unrepresentable c encoding =>
    ⟨"Unrepresentable character".toList,
      '\'' :: c :: "' cannot be written as ".toList ++ encoding.name⟩

end Refusal
end FortranWriter
