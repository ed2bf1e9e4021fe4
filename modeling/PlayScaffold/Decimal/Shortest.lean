import PlayScaffold.Decimal.Double

/-!
# Shortest decimals

The decimal text of a double has the fewest digits that read back as the same double, and of those
the ones nearest to it.  A grid of `n` digits has two neighbours of the number; the first grid with
a neighbour among the reals that round to the double gives the digits.
-/

namespace PlayScaffold.Decimal

/-- A positive decimal `0.d₁d₂… · 10 ^ (exponent + 1)`: its digits, the first and the last of them
not zero, and the power of ten of the first one. -/
structure Digits where
  digits : List Char
  exponent : Int
deriving Repr, DecidableEq

/-- Which of two equally near decimals is taken. -/
inductive Tie where
  | even
  | up
deriving Repr, DecidableEq

/-- The integer nearest to `num / den`. -/
def Tie.nearest (tie : Tie) (num den : Nat) : Nat :=
  match tie with
  | .even => Double.nearest num den
  | .up => (2 * num + den) / (2 * den)

/-- The reals that round to a double, and the double itself, over one denominator. -/
structure Neighbourhood where
  low : Nat
  value : Nat
  high : Nat
  denominator : Nat
  /-- do the ends belong to it? -/
  closed : Bool

/-- The reals that round to the magnitude of a double.  Below a power of two the doubles lie twice
as close. -/
def neighbourhood (d : Double) : Neighbourhood :=
  let m := d.significand
  let below := if m = Nat.pow 2 52 ∧ 1 < d.exponentField then 1 else 2
  let (unit, den) := Double.scale 1 (d.exponent - 2)
  ⟨(4 * m - below) * unit, 4 * m * unit, (4 * m + 2) * unit, den, m % 2 = 0⟩

/-- Does `num / den` belong to the neighbourhood? -/
def Neighbourhood.contains (r : Neighbourhood) (num den : Nat) : Bool :=
  let x := num * r.denominator
  if r.closed then r.low * den ≤ x && x ≤ r.high * den else r.low * den < x && x < r.high * den

/-- The greatest `e` with `10 ^ e ≤ num / den`, for a positive ratio. -/
def leadingExponent (num den : Nat) : Int :=
  let guess : Int := (Nat.toDigits 10 num).length - (Nat.toDigits 10 den).length
  let reached := if 0 ≤ guess then den * Nat.pow 10 guess.toNat ≤ num
    else den ≤ num * Nat.pow 10 (-guess).toNat
  if reached then guess else guess - 1

/-- `n · 10 ^ e` as a numerator and a denominator. -/
def scaleTen (n : Nat) (e : Int) : Nat × Nat :=
  if 0 ≤ e then (n * Nat.pow 10 e.toNat, 1) else (n, Nat.pow 10 (-e).toNat)

/-- The grid point of unit `10 ^ e` inside the neighbourhood that is nearest to its double. -/
def Neighbourhood.gridPoint? (tie : Tie) (r : Neighbourhood) (e : Int) : Option Nat :=
  let (un, ud) := scaleTen 1 e
  let num := r.value * ud
  let den := r.denominator * un
  let t := num / den
  let inside (k : Nat) : Bool := r.contains (k * un) ud
  match inside t, inside (t + 1) with
  | true, true => some (tie.nearest num den)
  | true, false => some t
  | false, true => some (t + 1)
  | false, false => none

/-- Looks at grids of `n`, `n + 1`, … digits, as many as `fuel`. -/
def Neighbourhood.search (tie : Tie) (r : Neighbourhood) (first : Int) : Nat → Nat → Nat × Int
  | 0, n => (r.value / r.denominator, n)
  | fuel + 1, n =>
    let unit := first - n + 1
    match r.gridPoint? tie unit with
    | some k => (k, unit)
    | none => r.search tie first fuel (n + 1)

/-- The digits of `k · 10 ^ unit`, without zeros at the end. -/
def digitsOf (k : Nat) (unit : Int) : Digits :=
  let all := Nat.toDigits 10 k
  ⟨(all.reverse.dropWhile (· == '0')).reverse, unit + all.length - 1⟩

/-- The shortest digits of a double other than zero; seventeen are always enough. -/
def shortest (tie : Tie) (d : Double) : Digits :=
  let r := neighbourhood d
  let (k, unit) := r.search tie (leadingExponent r.value r.denominator) 17 1
  digitsOf k unit

/-- The digits written in full, without an exponent; `point` is put at the end of an integer. -/
def positional (point : List Char) (n : Digits) : List Char :=
  let zeros (k : Int) : List Char := List.replicate k.toNat '0'
  let whole := n.exponent + 1
  if whole ≤ 0 then '0' :: '.' :: zeros (-whole) ++ n.digits
  else if n.digits.length ≤ whole.toNat then n.digits ++ zeros (whole - n.digits.length) ++ point
  else n.digits.take whole.toNat ++ '.' :: n.digits.drop whole.toNat

/-- The digits with one in front of the point and a signed power of ten. -/
def scientific (n : Digits) : List Char :=
  let sign := if 0 ≤ n.exponent then '+' else '-'
  let power := 'e' :: sign :: (toString n.exponent.natAbs).toList
  match n.digits with
  | [] => power
  | [d] => d :: power
  | d :: rest => d :: '.' :: rest ++ power

end PlayScaffold.Decimal
