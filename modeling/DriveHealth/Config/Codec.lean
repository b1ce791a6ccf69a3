import DriveHealth.Toml.Value
set_option autoImplicit false

/-!
How settings stand in a document. A record of settings is a table of optional fields: those that are
missing keep their defaults, and keys that name no field are passed over. A list is taken for a record
too, with its items for the fields in order.
-/

namespace DriveHealth.Config

open Toml (Value)

structure Codec (α : Type) where
  read : Value → Option α
  write : α → Value

namespace Codec

def bool : Codec Bool where
  read
    | .bool b => some b
    | _ => none
  write := .bool

def text : Codec String where
  read
    | .text s => some s
    | _ => none
  write := .text

def int (low high : Int) : Codec Int where
  read
    | .int n => if low ≤ n ∧ n ≤ high then some n else none
    | _ => none
  write := .int

def nat (bits : Nat) : Codec Nat where
  read v := ((int 0 ((1 <<< bits) - 1)).read v).map Int.toNat
  write n := .int n

def list {α : Type} (c : Codec α) : Codec (List α) where
  read v := v.items?.bind (·.mapM c.read)
  write as := .list (as.map c.write)

def holdsNothing (v : Value) : Bool := v.entries?.any (·.isEmpty) || v.items?.any (·.isEmpty)

def loneKey? (v : Value) : Option String :=
  match v.entries?.map (·.toList) with
  | some [(key, under)] => if holdsNothing under then some key else none
  | _ => none

/-- One of several names, as a text or as the only key of a table with nothing under it. -/
def choice {α : Type} (ofName? : String → Option α) (name : α → String) : Codec α where
  read
    | .text s => ofName? s
    | v => (loneKey? v).bind ofName?
  write a := .text (name a)

end Codec

structure RecordField (S : Type) where
  key : String
  read : Value → S → Option S
  write : S → Value

def RecordField.of {S α : Type} (key : String) (c : Codec α) (get : S → α) (set : S → α → S) :
    RecordField S where
  key
  read v s := (c.read v).map (set s)
  write s := c.write (get s)

variable {S : Type}

def readEntries (fields : List (RecordField S)) (entries : Toml.Entries) (start : S) : Option S :=
  fields.foldlM (fun s f => ((entries.get? f.key).map fun v => f.read v s).getD (some s)) start

/-- Reads fields from items in the same order. Missing items leave fields alone, and what exceeds
the fields is passed over. -/
def readItems (fields : List (RecordField S)) (items : List Value) (start : S) : Option S :=
  (fields.zip items).foldlM (fun s fv => fv.1.read fv.2 s) start

/-- A record that starts from `start`. A point in time has none of its fields. -/
def Codec.record (fields : List (RecordField S)) (start : S) : Codec S where
  read
    | .table _ entries => readEntries fields entries start
    | .moment => some start
    | v => v.items?.bind fun items => readItems fields items start
  write s := .ofEntries (fields.map fun f => (f.key, f.write s))

end DriveHealth.Config
