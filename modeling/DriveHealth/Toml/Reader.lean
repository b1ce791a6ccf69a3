set_option autoImplicit false

namespace DriveHealth.Toml

abbrev Reader := StateT (List Char) Option

namespace Reader

variable {α : Type}

def peek : Reader (Option Char) := fun cs => some (cs.head?, cs)

def one (p : Char → Bool) : Reader Char
  | c :: cs => if p c then some (c, cs) else none
  | [] => none

def char (c : Char) : Reader Unit := do
  let _ ← one (· = c)

def word (s : String) : Reader Unit := fun cs =>
  if s.toList.isPrefixOf cs then some ((), cs.drop s.length) else none

def run (p : Char → Bool) : Reader (List Char) := fun cs => some (cs.takeWhile p, cs.dropWhile p)

def check (b : Bool) : Reader Unit := if b then pure () else failure

def maybe (p : Reader α) : Reader (Option α) := (some <$> p) <|> pure none

/-- Repeats a reader at most once for each character of `bound`, until it fails. What it has read so
far comes in with the last first. -/
def manyAlong (p : Reader α) : List Char → List α → Reader (List α)
  | [], found, cs => some (found.reverse, cs)
  | _ :: bound, found, cs =>
    match p cs with
    | some (a, rest) => manyAlong p bound (a :: found) rest
    | none => some (found.reverse, cs)

def many (p : Reader α) : Reader (List α) := fun cs => manyAlong p cs [] cs

def digits : Nat → Reader Nat
  | 0 => pure 0
  | n + 1 => do
    let high ← one Char.isDigit
    return (high.toNat - '0'.toNat) * 10 ^ n + (← digits n)

end Reader

open Reader

def isBlank (c : Char) : Bool := c = ' ' || c = '\t'

/-- A character that may stand in comments and, with exceptions, in quoted texts: no control characters
but the tab. -/
def isPrintable (c : Char) : Bool := c = '\t' || (' ' ≤ c && c != '\x7f')

def blanks : Reader Unit := do
  let _ ← run isBlank

def newline : Reader Unit := char '\n' <|> word "\r\n"

def comment : Reader Unit := do
  char '#'
  let _ ← run isPrintable

def lineEnd : Reader Unit := do
  match ← peek with
  | none => pure ()
  | some _ => newline

def lineRest : Reader Unit := do
  blanks
  let _ ← maybe comment
  lineEnd

def filler : Reader Unit := do
  let _ ← many ((do let _ ← one isBlank) <|> newline <|> comment)

end DriveHealth.Toml
