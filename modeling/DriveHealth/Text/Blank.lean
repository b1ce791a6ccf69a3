set_option autoImplicit false

/-!
Blank characters and the cuts made at them. A character is blank when it has the Unicode property
White_Space, so no-break and ideographic spaces count and zero-width ones do not.
-/

namespace DriveHealth.Text

/-- The 25 characters with the Unicode property White_Space. -/
def isBlank (c : Char) : Bool :=
  let n := c.toNat
  (0x09 ≤ n && n ≤ 0x0d) || n == 0x20 || n == 0x85 || n == 0xa0 || n == 0x1680 ||
    (0x2000 ≤ n && n ≤ 0x200a) || n == 0x2028 || n == 0x2029 || n == 0x202f || n == 0x205f || n == 0x3000

def stripped (p : Char → Bool) (cs : List Char) : List Char :=
  ((cs.dropWhile p).reverse.dropWhile p).reverse

def trim (s : String) : String := String.ofList (stripped isBlank s.toList)

def words (s : String) : List String :=
  ((s.toList.splitOnP isBlank).filter (!·.isEmpty)).map String.ofList

/-- A text without blanks, and not empty. -/
def IsWord (s : String) : Prop := s.toList ≠ [] ∧ ∀ c ∈ s.toList, isBlank c = false

instance (s : String) : Decidable (IsWord s) :=
  @instDecidableAnd _ _ inferInstance (List.decidableBAll (isBlank · = false) s.toList)

end DriveHealth.Text
