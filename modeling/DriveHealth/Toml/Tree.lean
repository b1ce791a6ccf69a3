import DriveHealth.Toml.Value
set_option autoImplicit false

/-!
The tables of a document while it is read. Where a table came from decides who may add to it: dotted
keys only add to tables that are not defined by a header, a header only defines a table that was
implied by the header of another one, and nothing is added to a table between braces.
-/

namespace DriveHealth.Toml

/-- A key with dots in it: the tables on the way, and the last part. -/
structure Key where
  parents : List String
  last : String
  deriving DecidableEq, Repr

namespace Entries

/-- Changes the table that a path leads to. Tables that are missing on the way are added with `origin`;
a list of tables leads on to its last element. -/
def change (origin : Origin) (f : Origin → Entries → Option Entries) :
    List String → Origin → Entries → Option Entries
  | [], own, here => f own here
  | key :: path, _, here =>
    match here.get? key with
    | none => do
      let es ← change origin f path origin ∅
      return here.insert key (.table origin es)
    | some (.table own es) =>
      if own = .braces ∨ (origin = .dotted ∧ own = .header) then none
      else do
        let es ← change origin f path own es
        return here.insert key (.table own es)
    | some (.tables (last :: before)) => do
      let es ← change origin f path .header last
      return here.insert key (.tables (es :: before))
    | some _ => none

/-- Adds a value under a new key. The table that holds it has to come from dots if and only if the key
has some. -/
def addLeaf (key : Key) (v : Value) (here : Entries) : Option Entries :=
  change .dotted (fun own es =>
    if decide (own = .dotted) = key.parents.isEmpty then none
    else if es.contains key.last then none
    else some (es.insert key.last v)) key.parents .header here

def addLeaves (leaves : List (Key × Value)) (here : Entries) : Option Entries :=
  leaves.foldlM (fun es l => addLeaf l.1 l.2 es) here

def addTable (key : Key) (leaves : List (Key × Value)) (root : Entries) : Option Entries :=
  change .implied (fun _ es =>
    let start := match es.get? key.last with
      | none => some ∅
      | some (.table .implied entries) => some entries
      | some _ => none
    do
      let entries ← addLeaves leaves (← start)
      return es.insert key.last (.table .header entries)) key.parents .header root

def addElement (key : Key) (leaves : List (Key × Value)) (root : Entries) : Option Entries :=
  change .implied (fun _ es =>
    let before := match es.get? key.last with
      | none => some []
      | some (.tables elements) => some elements
      | some _ => none
    do
      let element ← addLeaves leaves ∅
      return es.insert key.last (.tables (element :: (← before)))) key.parents .header root

end Entries

end DriveHealth.Toml
