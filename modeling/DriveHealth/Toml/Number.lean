import DriveHealth.Toml.Quoted
set_option autoImplicit false

namespace DriveHealth.Toml

open Reader

def isSpaced (cs : List Char) : Bool := (cs.splitOn '_').all (!·.isEmpty)

def digitRun (p : Char → Bool) : Reader (List Char) := do
  let cs ← run fun c => p c || c = '_'
  check (isSpaced cs)
  return cs.filter (· != '_')

def significant (cs : List Char) : List Char := cs.dropWhile (· = '0')

def valueOf (base : Nat) (cs : List Char) : Nat :=
  cs.foldl (fun n c => base * n + (hexValue? c).getD 0) 0

/-- A natural number that may be within 64 bits: it has no more digits than that in any base. -/
def magnitude (base : Nat) (cs : List Char) : Reader Nat := do
  check ((significant cs).length ≤ 64)
  return valueOf base (significant cs)

def wholeDigits : Reader (List Char) :=
  (do char '0'; return ['0']) <|>
    (do
      check ((← peek) != some '0')
      digitRun Char.isDigit)

def sign : Reader Bool := do
  match ← maybe (one fun c => c = '+' || c = '-') with
  | some c => return c = '-'
  | none => return false

def decimalInt : Reader Int := do
  let negative ← sign
  let n ← magnitude 10 (← wholeDigits)
  return if negative then -n else n

def markedInt (mark : String) (base : Nat) : Reader Int := do
  word mark
  let cs ← digitRun fun c => (hexValue? c).any (· < base)
  magnitude base cs

def int : Reader Int := do
  let n ← markedInt "0x" 16 <|> markedInt "0o" 8 <|> markedInt "0b" 2 <|> decimalInt
  check (-0x8000000000000000 ≤ n && n < 0x8000000000000000)
  return n

/-- An exponent that has reached this limit takes no more digits. -/
def exponentLimit : Nat := 0x10000

def exponentOf (cs : List Char) : Nat :=
  cs.foldl (fun n c => if n < exponentLimit then 10 * n + (hexValue? c).getD 0 else n) 0

def exponent : Reader Int := do
  let _ ← one fun c => c = 'e' || c = 'E'
  let negative ← sign
  let n := exponentOf (← digitRun Char.isDigit)
  return if negative then -n else n

/-- Whether a number with these digits, and `e` more places before the point than digits, rounds to
infinity. How many places there are decides, unless there are as many as the limit has: a whole number,
so that digits after the point do not count. -/
def isTooLarge (digits : List Char) (e : Int) : Bool :=
  let ds := significant digits
  let places : Int := ds.length + e
  if ds.isEmpty || places < 309 then false
  else if 309 < places then true
  else (1 <<< 1024) - (1 <<< 970) ≤ valueOf 10 ((ds.take 309).rightpad 309 '0')

def fractionTail : Reader (List Char × Int) :=
  (do return ([], ← exponent)) <|>
    (do
      char '.'
      let places ← digitRun Char.isDigit
      return (places, (← maybe exponent).getD 0))

def finite : Reader Unit := do
  let negative ← sign
  let whole ← wholeDigits
  let (places, e) ← fractionTail
  check (negative || !isTooLarge (whole ++ places) (e - places.length))

def special : Reader Unit := do
  let _ ← sign
  word "inf" <|> word "nan"

def fraction : Reader Unit := finite <|> special

end DriveHealth.Toml
