import PlayScaffold.Json.Number

/-!
# Arithmetic on numbers

Two integers give an integer, as long as it has sixty-four bits like them; other numbers give the
double nearest to the exact result.  A quotient is taken of doubles and is an integer where it
has no fraction.
-/

namespace PlayScaffold.Json.Number

open Decimal

inductive Operator where
  | plus
  | minus
  | times
  | divide
  | modulo
deriving Repr, DecidableEq

/-- Is it an integer of sixty-four bits with a sign? -/
def isSigned (n : Int) : Bool := -(Nat.pow 2 63 : Nat) ≤ n && n < (Nat.pow 2 63 : Nat)

/-- Is it an integer of sixty-four bits without a sign? -/
def isUnsigned (n : Int) : Bool := 0 ≤ n && n < (Nat.pow 2 64 : Nat)

/-- The double nearest to a number. -/
def toReal? : Number → Option Double
  | .int n => Double.round? (n < 0) n.natAbs 1
  | .real d => some d

def ratio (d : Double) : Int × Nat :=
  (if d.isNegative then -(d.magnitude.1 : Int) else d.magnitude.1, d.magnitude.2)

/-- Does the first number stand below the second one, or below it or at the same place? -/
def isBelow (orEqual : Bool) (a b : Double) : Bool :=
  let l := (ratio a).1 * (ratio b).2
  let r := (ratio b).1 * (ratio a).2
  l < r || (orEqual && l == r)

namespace Operator

/-- The result for two integers, where there is one. -/
def ofInts? (op : Operator) (a b : Int) : Option Int :=
  match op with
  | plus => some (a + b)
  | minus => some (a - b)
  | times => some (a * b)
  | divide => none
  | modulo => if b = 0 then none else some (a.tmod b)

/-- The exact result for two doubles as a ratio, and whether it is negative if it is zero. -/
def ofReals? (op : Operator) (a b : Double) : Option (Int × Nat × Bool) :=
  let (m, d) := ratio a
  let (n, e) := ratio b
  match op with
  | plus => some (m * e + n * d, d * e, a.isNegative && b.isNegative)
  | minus => some (m * e - n * d, d * e, a.isNegative && !b.isNegative)
  | times => some (m * n, d * e, a.isNegative != b.isNegative)
  | divide =>
    if n = 0 then none else some (m * e * n.sign, d * n.natAbs, a.isNegative != b.isNegative)
  | modulo => if n = 0 then none else some ((m * e).tmod (n * d), d * e, a.isNegative)

/-- The double nearest to the result for two doubles, if it is finite. -/
def nearest? (op : Operator) (a b : Double) : Option Double := do
  let (num, den, negativeZero) ← op.ofReals? a b
  Double.round? (if num = 0 then negativeZero else num < 0) num.natAbs den

/-- A quotient, which is an integer where it has no fraction; one too large becomes the integer
of sixty-four bits that is nearest. -/
def quotient (d : Double) : Number :=
  let (num, den) := ratio d
  if num % den = 0 then
    .int (max (-(Nat.pow 2 63 : Nat)) (min (num / den) ((Nat.pow 2 63 : Nat) - 1)))
  else .real d

/-- The result for two numbers: nothing at all where integers leave their range or a remainder by
zero is asked for, and no number where doubles have none. -/
def result? (op : Operator) (a b : Number) : Option (Option Number) :=
  let onReals : Option Number := do
    let d ← op.nearest? (← a.toReal?) (← b.toReal?)
    return if op = divide then quotient d else .real d
  match op, a, b with
  | divide, _, _ => some onReals
  | _, .int m, .int n =>
    if isSigned m && isSigned n then
      (op.ofInts? m n).bind fun r => if isSigned r then some (some (.int r)) else none
    else if isUnsigned m && isUnsigned n then
      (op.ofInts? m n).bind fun r => if isUnsigned r then some (some (.int r)) else none
    else some onReals
  | _, _, _ => some onReals

end Operator

end PlayScaffold.Json.Number
