import Stenotype.Decimal.Numeral

/-!
# Rounding through 53 bits

A decimal fraction is first rounded to the nearest number of 53 bits times a power of two, then to
a fixed number of places. Ties go to the even neighbour both times.
-/

set_option autoImplicit false

namespace Stenotype.Decimal

/-- The whole number nearest to `num / den`, the even one of two. -/
def roundDiv (num den : Nat) : Nat :=
  let q := num / den
  let r := num % den
  if den < 2 * r || (2 * r == den && q % 2 == 1) then q + 1 else q

/-- The magnitude `significand * 2 ^ power`. -/
structure Binary64 where
  significand : Nat
  power : Int

namespace Binary64

def scaled (num den : Nat) (p : Int) : Nat × Nat :=
  if 0 ≤ p then (num, den * Nat.pow 2 p.toNat) else (num * Nat.pow 2 (-p).toNat, den)

/-- The nearest magnitude to `num / den`, unless that is too large. -/
def ofRatio? (num den : Nat) : Option Binary64 :=
  if num = 0 then some ⟨0, 0⟩
  else
    let guess : Int := max ((Nat.log2 num : Int) - Nat.log2 den - 53) (-1074)
    let (n, d) := scaled num den guess
    let power := if Nat.pow 2 53 ≤ n / d then guess + 1 else guess
    let (n, d) := scaled num den power
    let significand := roundDiv n d
    if significand = Nat.pow 2 53 && power = 971 || 971 < power then none
    else some ⟨significand, power⟩

def ofScientific? (s : Scientific) : Option Binary64 :=
  let size : Int := (Text.ofNat s.digits).length + s.exponent
  if s.digits = 0 || size < -400 then some ⟨0, 0⟩
  else if 400 < size then none
  else if 0 ≤ s.exponent then ofRatio? (s.digits * Nat.pow 10 s.exponent.toNat) 1
  else ofRatio? s.digits (Nat.pow 10 (-s.exponent).toNat)

def hundredths (b : Binary64) : Nat :=
  let (n, d) := scaled (100 * b.significand) 1 (-b.power)
  roundDiv n d

end Binary64

def ofHundredths (n : Nat) : Text :=
  Text.ofNat (n / 100) ++ ['.'] ++ Text.ofNat (n % 100 / 10) ++ Text.ofNat (n % 10)

def twoPlaces? (s : Scientific) : Option Text :=
  (Binary64.ofScientific? s).map fun b =>
    (if s.negative then ['-'] else []) ++ ofHundredths b.hundredths

end Stenotype.Decimal
