import FortranWriter.Text.Basic
/-! Whole numbers in decimal notation. Digits and letters are the ASCII ones throughout. -/
namespace FortranWriter.Decimal

/-- The digits of a number, the first of them not zero unless the number is. -/
def ofNat (n : Nat) : Text :=
  Nat.toDigits 10 n

/-- A negative number has a minus sign in front of its digits. -/
def ofInt : Int → Text
  | .ofNat n => ofNat n
  | .negSucc n => '-' :: ofNat (n + 1)

/-- The number that a row of digits denotes, zeros in front allowed. -/
def toNat (digits : Text) : Nat :=
  Nat.ofDigitChars 10 digits 0

theorem toNat_ofNat (n : Nat) : toNat (ofNat n) = n :=
  Nat.ofDigitChars_toDigits (by decide) (by decide)

def isDigits (t : Text) : Bool :=
  !t.isEmpty && t.all Char.isDigit

def dropSign : Text → Text
  | '+' :: rest => rest
  | '-' :: rest => rest
  | t => t

end FortranWriter.Decimal
