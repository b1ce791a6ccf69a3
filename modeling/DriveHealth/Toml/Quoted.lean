import DriveHealth.Toml.Reader
set_option autoImplicit false

namespace DriveHealth.Toml

open Reader

def hexValue? (c : Char) : Option Nat :=
  if c.isDigit then some (c.toNat - '0'.toNat)
  else if 'a' ≤ c && c ≤ 'f' then some (c.toNat - 'a'.toNat + 10)
  else if 'A' ≤ c && c ≤ 'F' then some (c.toNat - 'A'.toNat + 10)
  else none

def numbered (n : Nat) : Reader Char := fun cs => do
  let ds ← (cs.take n).mapM hexValue?
  let code := ds.foldl (fun m d => 16 * m + d) 0
  if ds.length = n ∧ code.isValidChar then some (Char.ofNat code, cs.drop n) else none

def escape : Reader Char := do
  match ← one fun _ => true with
  | 'b' => return '\x08'
  | 't' => return '\t'
  | 'n' => return '\n'
  | 'f' => return '\x0c'
  | 'r' => return '\r'
  | '"' => return '"'
  | '\\' => return '\\'
  | 'u' => numbered 4
  | 'U' => numbered 8
  | _ => failure

def escaped : Reader Char := do
  char '\\'
  escape

def plainChar : Reader Char := one fun c => isPrintable c && c != '"' && c != '\\'

def literalChar : Reader Char := one fun c => isPrintable c && c != '\''

def between (quote : Char) (content : Reader Char) : Reader String := do
  char quote
  let cs ← many content
  char quote
  return String.ofList cs

def basicText : Reader String := between '"' (plainChar <|> escaped)

def literalText : Reader String := between '\'' literalChar

/-- A backslash at the end of a line: it and all blanks and line endings after it stand for nothing. -/
def lineJoin : Reader Unit := do
  char '\\'
  blanks
  newline
  let _ ← many ((do let _ ← one isBlank) <|> newline)

/-- The text of several lines up to the closing quotes. Up to two quotes right before those belong to
the text. There are no more runs of quotes than characters in `bound`; the parts read so far come in
with the last first. -/
def longBody (quote : Char) (content : Reader (List Char)) :
    List Char → List (List Char) → Reader (List Char)
  | [], _ => failure
  | _ :: bound, parts => do
    let part := (← many content).flatten
    let quotes ← run (· = quote)
    match quotes.length with
    | 0 => failure
    | 1 | 2 => longBody quote content bound (quotes :: part :: parts)
    | 3 | 4 | 5 => return (quotes.drop 3 :: part :: parts).reverse.flatten
    | _ => failure

def longText (quote : Char) (content : Reader (List Char)) : Reader String := do
  word (String.ofList [quote, quote, quote])
  let _ ← maybe newline
  return String.ofList (← fun cs => longBody quote content cs [] cs)

def oneChar (p : Reader Char) : Reader (List Char) := do
  return [← p]

def joined (p : Reader Unit) (cs : List Char) : Reader (List Char) := do
  p
  return cs

def longBasicText : Reader String :=
  longText '"' (oneChar plainChar <|> joined lineJoin [] <|> oneChar escaped <|> joined newline ['\n'])

def longLiteralText : Reader String := longText '\'' (oneChar literalChar <|> joined newline ['\n'])

def text : Reader String := longBasicText <|> basicText <|> longLiteralText <|> literalText

end DriveHealth.Toml
