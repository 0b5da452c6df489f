import FortranWriter.Toml.Number
/-! Dates and times. They are checked and nothing of them is kept. -/
namespace FortranWriter.Toml
open Reader

def calendarNumber (width low high : Nat) : Reader Nat :=
  checked (fun digits =>
      let n := Decimal.toNat digits
      if low ≤ n ∧ n ≤ high then .ok n else .error .outOfRange)
    (exactly Char.isDigit width)

def isLeapYear (year : Nat) : Bool :=
  year % 4 == 0 && (year % 100 != 0 || year % 400 == 0)

def daysIn (year month : Nat) : Nat :=
  if month = 2 then if isLeapYear year then 29 else 28
  else if [4, 6, 9, 11].contains month then 30 else 31

/-- A year, a month and a day. After the first dash nothing but a date can be meant. -/
def date : Reader Unit := do
  let year ← calendarNumber 4 0 9999
  let _ ← char '-'
  let month ← committed (calendarNumber 2 1 12)
  let _ ← committed (char '-')
  let _ ← committed <| checked (fun day =>
      if day ≤ daysIn year month then .ok day else .error .outOfRange)
    (calendarNumber 2 1 31)

/-- An hour, a minute and a second with a fraction at most. After the first colon nothing but a time
can be meant. -/
def time : Reader Unit := do
  let _ ← calendarNumber 2 0 23
  let _ ← char ':'
  let _ ← committed (calendarNumber 2 0 59)
  let _ ← committed (char ':')
  let _ ← committed (calendarNumber 2 0 60)
  let _ ← optional (do let _ ← char '.'; runOfSome Char.isDigit)

def timeOffset : Reader Unit :=
  named "time offset" <|
    either (do let _ ← one fun c => c == 'Z' || c == 'z') do
      let _ ← one isSign
      let _ ← committed (calendarNumber 2 0 23)
      let _ ← committed (char ':')
      let _ ← committed (calendarNumber 2 0 59)

def dateTime : Reader Unit := do
  date
  let _ ← optional do
    let _ ← one fun c => c == 'T' || c == 't' || c == ' '
    time
    let _ ← optional timeOffset

def moment : Reader Unit :=
  either (named "date-time" dateTime) (named "time" time)

end FortranWriter.Toml
