import FortranWriter.Text.Escaped
import FortranWriter.Toml.Node
/-! How a TOML document may fail to describe statements. -/
namespace FortranWriter.Descriptor
open Toml (Node Scalar)

/-- What a table may be found to contain where a choice is made by its only key. -/
inductive ChoiceFault where
  | noEntry
  | severalEntries
  | fullArray
  | fullTable
  | notATable (kind : Text)
  | notAName
deriving DecidableEq, Repr

inductive Misfit where
  | missingField (name : Text)
  | unknownField (name : Text) (known : List Text)
  | unknownVariant (name : Text) (known : List Text)
  | wrongType (found expected : Text)
  | wrongValue (n : Int) (expected : Text)
  | wrongLength (length : Nat) (expected : Text)
  | noBound
  | choice (fault : ChoiceFault)
deriving DecidableEq, Repr

/-- Names in back quotes: two of them as alternatives, more as a list to choose from. -/
def oneOf : List Text → Text
  | [] => []
  | [a] => named a
  | [a, b] => named a ++ " or ".toList ++ named b
  | names => "one of ".toList ++ Text.joinWith ", ".toList (names.map named)
where
  named (name : Text) : Text := "`".toList ++ name ++ "`".toList

def found : Node → Text
  | .scalar _ (.string t) => "string ".toList ++ Escaped.quote t
  | .scalar _ (.integer n) => "integer `".toList ++ Decimal.ofInt n ++ "`".toList
  | .scalar _ (.float x) => "floating point `".toList ++ x.text ++ "`".toList
  | .scalar _ (.boolean b) => if b then "boolean `true`".toList else "boolean `false`".toList
  | .scalar _ .moment => "map".toList
  | .array _ _ => "sequence".toList
  | .table _ _ => "map".toList
  | .tables _ => "sequence".toList

def ChoiceFault.message : ChoiceFault → Text
  | noEntry => "wanted exactly 1 element, found 0 elements".toList
  | severalEntries => "wanted exactly 1 element, more than 1 element".toList
  | fullArray => "expected empty array".toList
  | fullTable => "expected empty table".toList
  | notATable kind => "expected table, found ".toList ++ kind
  | notAName => "wanted string or table".toList

def Misfit.message : Misfit → Text
  | missingField name => "missing field `".toList ++ name ++ "`".toList
  | unknownField name known =>
    "unknown field `".toList ++ name ++ "`, expected ".toList ++ oneOf known
  | unknownVariant name known =>
    "unknown variant `".toList ++ name ++ "`, expected ".toList ++ oneOf known
  | wrongType found expected =>
    "invalid type: ".toList ++ found ++ ", expected ".toList ++ expected
  | wrongValue n expected =>
    "invalid value: integer `".toList ++ Decimal.ofInt n ++ "`, expected ".toList ++ expected
  | wrongLength length expected =>
    "invalid length ".toList ++ Decimal.ofNat length ++ ", expected ".toList ++ expected
  | noBound => "data did not match any variant of untagged enum Bound".toList
  | choice fault => fault.message

/-- A misfit, and the byte of the text that it is put down to, if it is known yet. -/
structure Misplaced where
  misfit : Misfit
  start : Option Nat
deriving DecidableEq, Repr

/-- A misfit whose place is told by what is around it. -/
def unplaced {α : Type} (misfit : Misfit) : Except Misplaced α :=
  .error ⟨misfit, none⟩

/-- A misfit without a place gets this one. -/
def placedAt {α : Type} (start : Option Nat) (outcome : Except Misplaced α) : Except Misplaced α :=
  outcome.mapError fun error => { error with start := error.start <|> start }

def withoutPlace {α : Type} (outcome : Except Misplaced α) : Except Misplaced α :=
  outcome.mapError fun error => { error with start := none }

/-- The node under a key begins where it was written, or else where its key was. -/
def placeOf (key : Toml.Key) (node : Node) : Option Nat :=
  node.start? <|> some key.start

/-- The key under which a date or time counts as a table. -/
def momentKey : Text :=
  "$__toml_private_datetime".toList

end FortranWriter.Descriptor
