import DriveHealth.Toml.Reader
set_option autoImplicit false

namespace DriveHealth.Toml

open Reader

def isLeapYear (year : Nat) : Bool := year % 4 = 0 && (year % 100 != 0 || year % 400 = 0)

def daysIn (year month : Nat) : Nat :=
  if month = 2 then (if isLeapYear year then 29 else 28)
  else if month = 4 || month = 6 || month = 9 || month = 11 then 30
  else 31

def date : Reader Unit := do
  let year ← digits 4
  char '-'
  let month ← digits 2
  check (1 ≤ month && month ≤ 12)
  char '-'
  let day ← digits 2
  check (1 ≤ day && day ≤ daysIn year month)

def hourMinute : Reader Unit := do
  check ((← digits 2) ≤ 23)
  char ':'
  check ((← digits 2) ≤ 59)

def time : Reader Unit := do
  hourMinute
  char ':'
  check ((← digits 2) ≤ 60)
  let _ ← maybe (do
    char '.'
    check !(← run Char.isDigit).isEmpty)

def offset : Reader Unit :=
  (do let _ ← one fun c => c = 'Z' || c = 'z') <|>
    (do
      let _ ← one fun c => c = '+' || c = '-'
      hourMinute)

def timeOfDate : Reader Unit := do
  let _ ← one fun c => c = 'T' || c = 't' || c = ' '
  time
  let _ ← maybe offset

def moment : Reader Unit := (do date; let _ ← maybe timeOfDate) <|> time

end DriveHealth.Toml
