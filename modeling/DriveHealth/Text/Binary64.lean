set_option autoImplicit false

/-!
Positive numbers with 53 significant bits, and rounding to them: to the nearest one, ties to the
one with an even last bit. The exponent is unbounded, so every quotient of positive numbers has a
nearest one.
-/

namespace DriveHealth.Text

/-- The nearest integer to `num / den`, ties to the even one. -/
def roundDiv (num den : Nat) : Nat :=
  let q := num / den
  let r := num % den
  if 2 * r < den then q else if den < 2 * r then q + 1 else q + q % 2

/-- The number `mantissa * 2 ^ exponent`. -/
structure Binary64 where
  mantissa : Nat
  exponent : Int
  deriving DecidableEq, Repr

namespace Binary64

def num (x : Binary64) : Nat := x.mantissa <<< x.exponent.toNat

def den (x : Binary64) : Nat := 1 <<< (-x.exponent).toNat

/-- The number nearest to `num / den`. The first estimate of the exponent gives a quotient of 53 or
54 bits. -/
def ofRatio (num den : Nat) : Binary64 :=
  let scaled (e : Int) : Nat × Nat := (num <<< (-e).toNat, den <<< e.toNat)
  let guess : Int := (Nat.log2 num : Int) - Nat.log2 den - 53
  let e := if (scaled guess).1 / (scaled guess).2 < 1 <<< 53 then guess else guess + 1
  let m := roundDiv (scaled e).1 (scaled e).2
  if m < 1 <<< 53 then ⟨m, e⟩ else ⟨m / 2, e + 1⟩

def ofNat (n : Nat) : Binary64 := ofRatio n 1

def divNat (x : Binary64) (d : Nat) : Binary64 := ofRatio x.num (x.den * d)

def ge (x : Binary64) (n : Nat) : Bool := n * x.den ≤ x.num

/-- Decimal with `places` digits after the point, ties to the even digit. -/
def fixed (places : Nat) (x : Binary64) : String :=
  let digits := (Nat.toDigits 10 (roundDiv (x.num * Nat.pow 10 places) x.den)).leftpad (places + 1) '0'
  let whole := digits.take (digits.length - places)
  if places = 0 then String.ofList whole
  else String.ofList (whole ++ '.' :: digits.drop (digits.length - places))

end Binary64

end DriveHealth.Text
