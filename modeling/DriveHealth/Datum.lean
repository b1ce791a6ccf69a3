set_option autoImplicit false

/-!
Structured values: what a report is made of. A record is read by its keys, and a key that is written is
held once; the order of the fields says nothing.
-/

namespace DriveHealth

inductive Datum where
  | null
  | bool (b : Bool)
  | int (n : Int)
  /-- A number with digits behind the point. -/
  | decimal (mantissa : Int) (places : Nat)
  | text (s : String)
  | list (items : List Datum)
  | record (fields : List (String × Datum))
  deriving Repr

namespace Datum

def nat (n : Nat) : Datum := .int n

def opt {α : Type} (f : α → Datum) : Option α → Datum
  | none => .null
  | some a => f a

end Datum

abbrev Fields := List (String × Datum)

namespace Fields

def get? (fs : Fields) (key : String) : Option Datum := List.lookup key fs

def insert (key : String) (value : Datum) : Fields → Fields
  | [] => [(key, value)]
  | (k, v) :: fs => if k = key then (k, value) :: fs else (k, v) :: insert key value fs

@[simp] theorem get?_insert_self (key : String) (value : Datum) (fs : Fields) :
    (insert key value fs).get? key = some value := by
  induction fs with
  | nil => simp [insert, get?]
  | cons f fs ih =>
    obtain ⟨k, v⟩ := f
    by_cases h : k = key
    · simp [insert, get?, h]
    · have hk : (key == k) = false := by simp [Ne.symm h]
      simpa [insert, get?, h, List.lookup_cons, hk] using ih

theorem get?_insert_of_ne {key other : String} (h : other ≠ key) (value : Datum) (fs : Fields) :
    (insert key value fs).get? other = fs.get? other := by
  induction fs with
  | nil =>
    have : (other == key) = false := by simp [h]
    simp [insert, get?, List.lookup_cons, this]
  | cons f fs ih =>
    obtain ⟨k, v⟩ := f
    by_cases hk : k = key
    · subst hk
      have : (other == k) = false := by simp [h]
      simp [insert, get?, List.lookup_cons, this]
    · simp only [insert, hk, if_false, get?, List.lookup_cons]
      cases other == k with
      | true => rfl
      | false => exact ih

end Fields

end DriveHealth
