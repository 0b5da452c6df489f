import FortranWriter.Text.Decimal
/-! Moments as they stand in front of log lines: the calendar date and the time of day, to the
microsecond. -/
namespace FortranWriter.Log

structure Date where
  year : Nat
  month : Nat
  day : Nat
deriving DecidableEq, Repr

/-- The date that is some days behind the first of January 1970. Years are taken to begin in March,
so that the day that is added in some of them comes last; four hundred years have 146097 days. -/
def Date.ofDays (days : Nat) : Date :=
  let shifted := days + 719468
  let inCycle := shifted % 146097
  let yearOfCycle := (inCycle - inCycle / 1460 + inCycle / 36524 - inCycle / 146096) / 365
  let inYear := inCycle - (365 * yearOfCycle + yearOfCycle / 4 - yearOfCycle / 100)
  let fromMarch := (5 * inYear + 2) / 153
  let month := if fromMarch < 10 then fromMarch + 3 else fromMarch - 9
  let year := 400 * (shifted / 146097) + yearOfCycle
  ⟨if month ≤ 2 then year + 1 else year, month, inYear - (153 * fromMarch + 2) / 5 + 1⟩

def padded (width n : Nat) : Text :=
  let digits := Decimal.ofNat n
  List.replicate (width - digits.length) '0' ++ digits

/-- The moment that is some microseconds behind the beginning of 1970. -/
def moment (microseconds : Nat) : Text :=
  let seconds := microseconds / 1000000
  let date := Date.ofDays (seconds / 86400)
  padded 4 date.year ++ '-' :: padded 2 date.month ++ '-' :: padded 2 date.day ++
    'T' :: padded 2 (seconds / 3600 % 24) ++ ':' :: padded 2 (seconds / 60 % 60) ++
    ':' :: padded 2 (seconds % 60) ++ '.' :: padded 6 (microseconds % 1000000) ++ ['Z']

end FortranWriter.Log
