import FortranWriter.Text.Decimal
/-! Numbers with a fraction as they are held in 64 bits: a significand below 2^53 times a power of
two. A decimal is held as the nearest such number, and a number is written with the fewest digits
that are read back as it is. -/
namespace FortranWriter

/-- A decimal numeral: its sign, its digits read as a whole number, and the power of ten that this
is multiplied by. -/
structure Scientific where
  negative : Bool
  digits : Nat
  exponent : Int
deriving DecidableEq, Repr

inductive Binary64 where
  | finite (negative : Bool) (significand : Nat) (exponent : Int)
  | infinite (negative : Bool)
  | undefined
deriving DecidableEq, Repr

namespace Binary64

def leastExponent : Int := -1074

def greatestExponent : Int := 971

/-- A quotient rounded to the nearest whole number, a half to the even neighbour. -/
def divideToNearest (a b : Nat) : Nat :=
  let quotient := a / b
  let remainder := a % b
  if 2 * remainder < b ∨ (2 * remainder = b ∧ quotient % 2 = 0) then quotient else quotient + 1

/-- `a / b` as numerator and denominator of the same number divided by `base ^ exponent`. -/
def scaleDown (base : Nat) (exponent : Int) (a b : Nat) : Nat × Nat :=
  match exponent with
  | .ofNat n => (a, b * Nat.pow base n)
  | .negSucc n => (a * Nat.pow base (n + 1), b)

/-- The nearest number to `a / b`, where `a` is not zero. -/
def ofQuotient (negative : Bool) (a b : Nat) : Binary64 :=
  let exponent := max leastExponent ((Nat.log2 a : Int) - Nat.log2 b - 53)
  let significandAt (exponent : Int) :=
    let scaled := scaleDown 2 exponent a b
    divideToNearest scaled.1 scaled.2
  let whole := scaleDown 2 exponent a b
  let exponent := if whole.1 / whole.2 < Nat.pow 2 53 then exponent else exponent + 1
  let significand := significandAt exponent
  let (significand, exponent) :=
    if significand < Nat.pow 2 53 then (significand, exponent) else (Nat.pow 2 52, exponent + 1)
  if greatestExponent < exponent then infinite negative else finite negative significand exponent

/-- The nearest number to a decimal. Decimals far outside the range are not worked out. -/
def ofScientific (decimal : Scientific) : Binary64 :=
  let magnitude := (Nat.toDigits 10 decimal.digits).length + decimal.exponent
  if decimal.digits = 0 ∨ magnitude < -330 then finite decimal.negative 0 leastExponent
  else if 310 < magnitude then infinite decimal.negative
  else
    let quotient := scaleDown 10 (-decimal.exponent) decimal.digits 1
    ofQuotient decimal.negative quotient.1 quotient.2

/-- The quotients between which everything is read as the number of a significand and an exponent,
and whether the two themselves are: numerators over four times the unit of the number. -/
def readingInterval (significand : Nat) (exponent : Int) : Nat × Nat × Bool :=
  let below := if significand = Nat.pow 2 52 ∧ leastExponent < exponent then 1 else 2
  (4 * significand - below, 4 * significand + 2, significand % 2 = 0)

/-- The multiple of a power of ten that is nearest to a number, if it is read back as the number. -/
def onGrid? (significand : Nat) (exponent grid : Int) : Option Nat :=
  let binary := scaleDown 2 (-exponent) 1 1
  let decimal := scaleDown 10 grid binary.1 binary.2
  let (low, high, closed) := readingInterval significand exponent
  let reads (n : Nat) :=
    let point := 4 * n * decimal.2
    if closed then low * decimal.1 ≤ point && point ≤ high * decimal.1
    else low * decimal.1 < point && point < high * decimal.1
  let floor := significand * decimal.1 / decimal.2
  let nearest := divideToNearest (significand * decimal.1) decimal.2
  let other := if nearest = floor then floor + 1 else floor
  if reads nearest then some nearest else if reads other then some other else none

/-- The first grid, from coarse to fine, that has a multiple read back as the number. -/
def shortestFrom (significand : Nat) (exponent grid : Int) : Nat → Nat × Int
  | 0 => (0, 0)
  | fuel + 1 =>
    match onGrid? significand exponent grid with
    | some n => if n = 0 then shortestFrom significand exponent (grid - 1) fuel else (n, grid)
    | none => shortestFrom significand exponent (grid - 1) fuel

/-- The fewest digits that are read back as a number that is not zero, and the power of ten they are
multiplied by. The search begins above the number. -/
def shortest (significand : Nat) (exponent : Int) : Nat × Int :=
  let binary := scaleDown 2 (-exponent) 1 1
  let whole := significand * binary.1 / binary.2
  let start : Int := if whole = 0 then 0 else (Nat.toDigits 10 whole).length
  shortestFrom significand exponent start 400

/-- Digits times a power of ten without an exponent, the point always written. -/
def positional (digits : Nat) (exponent : Int) : Text :=
  match exponent with
  | .ofNat n => Decimal.ofNat (digits * Nat.pow 10 n) ++ ".0".toList
  | .negSucc n =>
    let t := Decimal.ofNat digits
    let padded := List.replicate (n + 2 - t.length) '0' ++ t
    padded.take (padded.length - (n + 1)) ++ '.' :: padded.drop (padded.length - (n + 1))

def text : Binary64 → Text
  | finite negative significand exponent =>
    (if negative then ['-'] else []) ++
      if significand = 0 then "0.0".toList
      else
        let digits := shortest significand exponent
        positional digits.1 digits.2
  | infinite negative => if negative then "-inf".toList else "inf".toList
  | undefined => "NaN".toList

end Binary64
end FortranWriter
