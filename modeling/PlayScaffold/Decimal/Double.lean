/-!
# Finite doubles

A finite binary64 number by its bits, with exact arithmetic underneath: a double stands for
`significand · 2 ^ exponent`, and `Double.round?` gives the double nearest to a ratio, ties to the
even significand.
-/

namespace PlayScaffold.Decimal

/-- The bits of a finite binary64 number. -/
structure Double where
  bits : UInt64
  finite : bits >>> 52 &&& 0x7ff ≠ 0x7ff
deriving DecidableEq

namespace Double

def isNegative (d : Double) : Bool := d.bits >>> 63 == 1

/-- The bits between sign and fraction. -/
def exponentField (d : Double) : Nat := (d.bits >>> 52 &&& 0x7ff).toNat

def fraction (d : Double) : Nat := d.bits.toNat % Nat.pow 2 52

/-- The integer that is scaled by the exponent; normal numbers have a bit in front of the
fraction. -/
def significand (d : Double) : Nat :=
  if d.exponentField = 0 then d.fraction else Nat.pow 2 52 + d.fraction

/-- The power of two that scales the significand. -/
def exponent (d : Double) : Int := (max d.exponentField 1 : Nat) - 1075

/-- Is it zero, of either sign? -/
def isZero (d : Double) : Bool := d.significand == 0

/-- Do two doubles stand for the same number?  Both zeros do. -/
def sameValue (a b : Double) : Bool := a.bits == b.bits || (a.isZero && b.isZero)

/-- The double with these bits, if it is finite. -/
def ofBits? (bits : UInt64) : Option Double :=
  if h : bits >>> 52 &&& 0x7ff ≠ 0x7ff then some ⟨bits, h⟩ else none

/-! ## Ratios -/

/-- `n · 2 ^ e` as a numerator and a denominator. -/
def scale (n : Nat) (e : Int) : Nat × Nat :=
  if 0 ≤ e then (n * Nat.pow 2 e.toNat, 1) else (n, Nat.pow 2 (-e).toNat)

/-- The absolute value as a numerator and a denominator. -/
def magnitude (d : Double) : Nat × Nat := scale d.significand d.exponent

/-- The integer nearest to `num / den`, the even one of two. -/
def nearest (num den : Nat) : Nat :=
  let q := num / den
  let twice := 2 * (num % den)
  if twice < den then q else if den < twice then q + 1 else q + q % 2

/-- The power of two that gives `num / den` a significand of fifty-three bits, or the least power
there is. -/
def fittingExponent (num den : Nat) : Int :=
  let guess : Int := (num.log2 : Int) - (den.log2 : Int) - 52
  let (n, d) := scale num (-guess)
  let e := if n < den * d * Nat.pow 2 52 then guess - 1 else guess
  max e (-1074)

/-- The double nearest to `num / den`, if it is not beyond the largest. -/
def round? (negative : Bool) (num den : Nat) : Option Double :=
  let sign : Nat := if negative then Nat.pow 2 63 else 0
  if num = 0 then ofBits? (UInt64.ofNat sign)
  else
    let e := fittingExponent num den
    let (n, d) := scale num (-e)
    let m := nearest n (den * d)
    let bits := (e + 1074).toNat * Nat.pow 2 52 + m
    if bits < 0x7ff * Nat.pow 2 52 then ofBits? (UInt64.ofNat (sign + bits)) else none

/-- The double nearest to the product of two magnitudes. -/
def times? (negative : Bool) (a b : Double) : Option Double :=
  round? negative (a.magnitude.1 * b.magnitude.1) (a.magnitude.2 * b.magnitude.2)

/-- The double nearest to the quotient of two magnitudes. -/
def over? (negative : Bool) (a b : Double) : Option Double :=
  round? negative (a.magnitude.1 * b.magnitude.2) (a.magnitude.2 * b.magnitude.1)

end Double

end PlayScaffold.Decimal
