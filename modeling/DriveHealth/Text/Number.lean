set_option autoImplicit false

namespace DriveHealth.Text

def alignRight (width : Nat) (s : String) : String := String.ofList (s.toList.leftpad width ' ')

def alignLeft (width : Nat) (s : String) : String := String.ofList (s.toList.rightpad width ' ')

def zeroPadded (width n : Nat) : String := String.ofList ((Nat.toDigits 10 n).leftpad width '0')

/-- Lower-case hexadecimal, filled up with zeros to `width` digits. -/
def hex (width n : Nat) : String := String.ofList ((Nat.toDigits 16 n).leftpad width '0')

def column (width n : Nat) : String := alignRight width (toString n)

def hexOctets (bs : List UInt8) : String := String.join (bs.map fun b => hex 2 b.toNat)

/-- Sets a comma before each digit that begins a group of three, counted from the end. -/
def groupDigits : List Char → List Char
  | [] => []
  | [c] => [c]
  | c :: d :: cs =>
    if (d :: cs).length % 3 = 0 then c :: ',' :: groupDigits (d :: cs) else c :: groupDigits (d :: cs)

def grouped (n : Nat) : String := String.ofList (groupDigits (Nat.toDigits 10 n))

theorem groupDigits_cons (c : Char) (cs : List Char) : groupDigits (c :: cs) =
    c :: if cs.length % 3 = 0 ∧ cs ≠ [] then ',' :: groupDigits cs else groupDigits cs := by
  cases cs with
  | nil => rfl
  | cons d ds =>
    rw [groupDigits]
    split <;> simp_all

theorem head?_groupDigits (cs : List Char) : (groupDigits cs).head? = cs.head? := by
  cases cs with
  | nil => rfl
  | cons c cs =>
    rw [groupDigits_cons]
    rfl

theorem filter_groupDigits (cs : List Char) (h : ∀ c ∈ cs, c ≠ ',') :
    (groupDigits cs).filter (· != ',') = cs := by
  induction cs with
  | nil => rfl
  | cons c cs ih =>
    obtain ⟨hc, hcs⟩ := List.forall_mem_cons.1 h
    rw [groupDigits_cons]
    split <;> simp [hc, ih hcs]

end DriveHealth.Text
