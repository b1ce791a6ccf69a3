set_option autoImplicit false

/-!
The regular expressions that a translation of patterns needs: characters that stand for themselves, a dot,
repetition, and the two ends of the text. Whoever compiles their spellings is a `Library`. `Library.plain` reads a
spelling character by character, and marks the places of a text where the items that are left would fit.
-/

namespace DriveHealth.Text.Regex

def isMeta (c : Char) : Bool := "\\.+*?()|[]\x7b\x7d^$#&-~".toList.contains c

/-- A character as one that stands for itself. -/
def quote (c : Char) : List Char := if isMeta c then ['\\', c] else [c]

inductive Atom where
  | literal (c : Char)
  | dot
  deriving DecidableEq, Repr

namespace Atom

def admits : Atom → Char → Bool
  | .literal d, c => c == d
  | .dot, c => c != '\n'

def spelled : Atom → List Char
  | .literal c => quote c
  | .dot => ['.']

end Atom

inductive Item where
  | textStart
  | textEnd
  | once (a : Atom)
  | repeated (a : Atom)
  deriving DecidableEq, Repr

def Item.spelled : Item → List Char
  | .textStart => ['^']
  | .textEnd => ['$']
  | .once a => a.spelled
  | .repeated a => a.spelled ++ ['*']

inductive Refusal where
  | malformed (message : String)
  | tooLarge (limit : Nat)
  deriving DecidableEq, Repr

def Refusal.message : Refusal → String
  | .malformed message => message
  | .tooLarge limit => s!"Compiled regex exceeds size limit of {limit} bytes."

structure Library where
  Compiled : Type
  escape : String → String
  compile : String → Except Refusal Compiled
  isMatch : Compiled → String → Bool

/-- What has been read of a spelling: the items so far, the last one first, and whether a backslash waits
for its character. -/
structure Reading where
  quoting : Bool
  items : List Item
  deriving DecidableEq, Repr

def Reading.step (r : Reading) (c : Char) : Option Reading :=
  if r.quoting then
    if isMeta c then some ⟨false, .once (.literal c) :: r.items⟩ else none
  else
    match c with
    | '\\' => some ⟨true, r.items⟩
    | '.' => some ⟨false, .once .dot :: r.items⟩
    | '^' => some ⟨false, .textStart :: r.items⟩
    | '$' => some ⟨false, .textEnd :: r.items⟩
    | '*' =>
      match r.items with
      | .once a :: items => some ⟨false, .repeated a :: items⟩
      | _ => none
    | c => if isMeta c then none else some ⟨false, .once (.literal c) :: r.items⟩

def ofSpelling? (cs : List Char) : Option (List Item) :=
  match cs.foldlM Reading.step ⟨false, []⟩ with
  | some ⟨false, items⟩ => some items.reverse
  | _ => none

/-- One mark for each place of a text, its end too; the next definitions move them to the front. -/
def onlyFirst : List Bool → List Bool
  | [] => []
  | m :: ms => m :: ms.map fun _ => false

def onlyLast : List Bool → List Bool
  | [] => []
  | [m] => [m]
  | _ :: ms => false :: onlyLast ms

def Atom.onceMarks (a : Atom) : List Char → List Bool → List Bool
  | c :: cs, _ :: ms => (a.admits c && ms.headD false) :: a.onceMarks cs ms
  | _, ms => ms.map fun _ => false

def Atom.runMarks (a : Atom) : List Char → List Bool → List Bool
  | c :: cs, m :: ms =>
    let rest := a.runMarks cs ms
    (m || (a.admits c && rest.headD false)) :: rest
  | _, ms => ms

/-- The places of a text where an item fits and what is marked comes after it. -/
def Item.marks (cs : List Char) : Item → List Bool → List Bool
  | .textStart => onlyFirst
  | .textEnd => onlyLast
  | .once a => a.onceMarks cs
  | .repeated a => a.runMarks cs

def marks (e : List Item) (cs : List Char) : List Bool :=
  e.foldr (Item.marks cs) (List.replicate (cs.length + 1) true)

/-- A library with a size limit of its own: `exceeded?` tells the limit that an expression goes beyond. -/
def Library.plain (exceeded? : List Item → Option Nat) : Library where
  Compiled := List Item
  escape s := String.ofList (s.toList.flatMap quote)
  compile s :=
    match ofSpelling? s.toList with
    | none => .error (.malformed "not an expression")
    | some e =>
      match exceeded? e with
      | some limit => .error (.tooLarge limit)
      | none => .ok e
  isMatch e s := (marks e s.toList).any id

end DriveHealth.Text.Regex
