import Std.Data.TreeMap.Raw.Basic
set_option autoImplicit false

/-!
What a TOML document holds. No setting is made of fractional numbers and points in time, so nothing is
known of them but that they are there. A table knows where it came from, as that decides who may still
add to it.
-/

namespace DriveHealth.Toml

inductive Origin where
  /-- It has a header of its own, or is the whole document. -/
  | header
  /-- The header of a table within it implies it. -/
  | implied
  /-- A dotted key implies it. -/
  | dotted
  /-- It stands between braces, and is complete. -/
  | braces
  deriving DecidableEq, Repr

inductive Value where
  | text (s : String)
  | int (n : Int)
  | bool (b : Bool)
  | fraction
  | moment
  | list (items : List Value)
  | table (origin : Origin) (entries : Std.TreeMap.Raw String Value)
  /-- A list of tables, each with a header. The last one comes first. -/
  | tables (elements : List (Std.TreeMap.Raw String Value))

abbrev Entries := Std.TreeMap.Raw String Value

namespace Value

def ofEntries (es : List (String × Value)) : Value := .table .braces (.ofList es)

def entries? : Value → Option Entries
  | .table _ es => some es
  | _ => none

def items? : Value → Option (List Value)
  | .list vs => some vs
  | .tables ts => some (ts.reverse.map (.table .header))
  | _ => none

end Value

end DriveHealth.Toml
