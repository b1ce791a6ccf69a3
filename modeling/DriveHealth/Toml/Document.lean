import DriveHealth.Toml.Moment
import DriveHealth.Toml.Number
import DriveHealth.Toml.Tree
set_option autoImplicit false

namespace DriveHealth.Toml

open Reader

def depthLimit : Nat := 80

def isBareChar (c : Char) : Bool := c.isAlphanum || c = '_' || c = '-'

def bareKey : Reader String := do
  let cs ← run isBareChar
  check !cs.isEmpty
  return String.ofList cs

def keyPart : Reader String := do
  blanks
  let part ← basicText <|> literalText <|> bareKey
  blanks
  return part

def key : Reader Key := do
  let first ← keyPart
  let others ← many (do char '.'; keyPart)
  let parts := first :: others
  check (parts.length < depthLimit)
  return ⟨parts.dropLast, parts.getLastD first⟩

def truth : Reader Bool :=
  (do word "true"; return true) <|> (do word "false"; return false)

def scalar : Reader Value :=
  (.text <$> text) <|> (.bool <$> truth) <|> (do moment; return .moment) <|>
    (do fraction; return .fraction) <|> (.int <$> int)

/-- The items of a list, up to its closing bracket. A comma may follow the last one. There are no more
items than characters in `bound`; those read so far come in with the last first. -/
def listItems (item : Reader Value) : List Char → List Value → Reader (List Value)
  | [], _ => failure
  | _ :: bound, found => do
    filler
    if (← maybe (char ']')).isSome then return found.reverse
    let v ← item
    filler
    if (← maybe (char ']')).isSome then return (v :: found).reverse
    char ','
    listItems item bound (v :: found)

def list (item : Reader Value) : Reader Value := do
  char '['
  return .list (← fun cs => listItems item cs [] cs)

def pair (item : Reader Value) : Reader (Key × Value) := do
  let k ← key
  char '='
  blanks
  return (k, ← item)

def inlineTable (item : Reader Value) : Reader Value := do
  char '\x7b'
  let one : Reader (Key × Value) := do
    let p ← pair item
    blanks
    return p
  let leaves ← (do
      let first ← one
      let others ← many (do char ','; one)
      return first :: others) <|> pure []
  blanks
  char '\x7d'
  return .table .braces (← fun cs => (Entries.addLeaves leaves ∅).map (·, cs))

def value : Nat → Reader Value
  | 0 => scalar
  | depth + 1 => scalar <|> list (value depth) <|> inlineTable (value depth)

inductive Header where
  | table (key : Key)
  | element (key : Key)
  deriving DecidableEq, Repr

def header : Reader Header := do
  let h ← (do word "[["; let k ← key; word "]]"; return Header.element k) <|>
    (do char '['; let k ← key; char ']'; return Header.table k)
  lineRest
  return h

def pairLine : Reader (Key × Value) := do
  let p ← pair (value (depthLimit - 1))
  lineRest
  return p

def gap : Reader Unit := do
  blanks
  let _ ← many (do (do let _ ← maybe comment; newline); blanks)

def pairs : Reader (List (Key × Value)) := do
  gap
  many (do
    let p ← pairLine
    gap
    return p)

structure Part where
  header : Header
  leaves : List (Key × Value)

def part : Reader Part := do
  let h ← header
  return ⟨h, ← pairs⟩

def Part.addTo (root : Entries) (p : Part) : Option Entries :=
  match p.header with
  | .table key => root.addTable key p.leaves
  | .element key => root.addElement key p.leaves

def assemble (leaves : List (Key × Value)) (parts : List Part) : Option Entries := do
  parts.foldlM Part.addTo (← Entries.addLeaves leaves ∅)

def byteOrderMark : Char := '\uFEFF'

def document : Reader Entries := do
  let _ ← maybe (char byteOrderMark)
  let leaves ← pairs
  let parts ← many part
  let _ ← maybe comment
  check (← peek).isNone
  fun cs => (assemble leaves parts).map (·, cs)

def read? (s : String) : Option Entries := (document s.toList).map (·.1)

end DriveHealth.Toml
