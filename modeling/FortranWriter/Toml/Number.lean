import FortranWriter.Text.Binary64
import FortranWriter.Toml.Quoted
/-! Integers in four bases, and numbers with a fraction. -/
namespace FortranWriter.Toml
open Reader

def isSign (c : Char) : Bool :=
  c == '+' || c == '-'

/-- Digits in which an underscore may stand between two. The underscores are dropped. -/
def moreDigits (kind : Char → Bool) : Reader Text :=
  many (either (one kind) (do let _ ← char '_'; expecting ["digit"] (committed (one kind))))

def digits (kind : Char → Bool) : Reader Text := do
  let first ← one kind
  return first :: (← moreDigits kind)

/-- The sign and the digits of a whole number. Only zero begins with a zero. -/
def wholeNumber : Reader (Bool × Text) :=
  named "integer" do
    let sign ← optional (one isSign)
    let digits ← either (do let first ← one fun c => c.isDigit && c != '0'
                            return first :: (← moreDigits Char.isDigit))
      (do return [← one Char.isDigit])
    return (sign == some '-', digits)

/-- Integers have 64 bits. -/
def integerOf (negative : Bool) (magnitude : Nat) : Except Cause Int :=
  if negative then
    if magnitude ≤ Nat.pow 2 63 then .ok (-(magnitude : Int)) else .error .integerTooSmall
  else if magnitude < Nat.pow 2 63 then .ok magnitude
  else .error .integerTooLarge

def decimalInteger : Reader Int := do
  let start ← position
  let (negative, digits) ← wholeNumber
  match integerOf negative (Decimal.toNat digits) with
  | .ok n => return n
  | .error cause => fun _ => .stopped { offset := start, cause := some cause }

/-- An integer in another base behind its mark. -/
def basedInteger (mark label : String) (base : Nat) (kind : Char → Bool) : Reader Int :=
  committed <| checked (fun digits => integerOf false (value digits)) <| named label do
    let _ ← literal mark.toList
    committed (digits kind)
where
  value (digits : Text) : Nat := digits.foldl (fun n c => base * n + hexDigitValue c) 0

def integer : Reader Int := do
  match (← remaining).take 2 with
  | ['0', 'x'] => basedInteger "0x" "hexadecimal integer" 16 isHexDigit
  | ['0', 'o'] => basedInteger "0o" "octal integer" 8 fun c => '0' ≤ c && c ≤ '7'
  | ['0', 'b'] => basedInteger "0b" "binary integer" 2 fun c => c == '0' || c == '1'
  | _ => decimalInteger

def fraction : Reader Text := do
  let _ ← char '.'
  expecting ["digit"] (committed (digits Char.isDigit))

def powerOfTen : Reader Int := do
  let _ ← one fun c => c == 'e' || c == 'E'
  let sign ← optional (one isSign)
  let digits ← committed (digits Char.isDigit)
  let magnitude : Int := Decimal.toNat digits
  return if sign == some '-' then -magnitude else magnitude

/-- The fraction and the power of ten of a number, one of which has to be there. -/
def scale : Reader (Text × Int) :=
  either (do return ([], ← powerOfTen))
    (do
      let fraction ← fraction
      let exponent ← optional powerOfTen
      return (fraction, exponent.getD 0))

/-- A number with a fraction or a power of ten. It must not be too great for 64 bits; one that is
too small for them is not refused. -/
def finiteNumber : Reader Binary64 := do
  let start ← position
  let (negative, whole) ← wholeNumber
  let (fraction, exponent) ← scale
  let decimal : Scientific :=
    ⟨negative, Decimal.toNat (whole ++ fraction), exponent - fraction.length⟩
  match Binary64.ofScientific decimal with
  | .infinite false => fun _ => .stopped { offset := start }
  | number => return number

/-- `inf` or `nan` behind a sign at most. -/
def specialNumber : Reader Binary64 := do
  let sign ← optional (one isSign)
  either (do let _ ← literal "inf".toList; return .infinite (sign == some '-'))
    (do let _ ← literal "nan".toList; return .undefined)

def float : Reader Binary64 :=
  named "floating-point number" (either finiteNumber specialNumber)

end FortranWriter.Toml
