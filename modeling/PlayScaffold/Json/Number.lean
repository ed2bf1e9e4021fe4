import PlayScaffold.Decimal.Shortest

/-!
# JSON numbers

Integers stay integers; every other number is a finite double.  The two kinds never stand for the
same number: `1` and `1.0` differ, while `0.0` and `-0.0` agree.
-/

namespace PlayScaffold.Json

open Decimal

inductive Number where
  | int (n : Int)
  | real (d : Double)
deriving DecidableEq

namespace Number

/-- Do two numbers stand for the same value of the same kind? -/
def sameValue : Number → Number → Bool
  | .int a, .int b => a == b
  | .real a, .real b => a.sameValue b
  | _, _ => false

def isZero : Number → Bool
  | .int n => n == 0
  | .real d => d.isZero

/-- A double in decimal, where `layout` writes its magnitude unless it is zero. -/
def realText (tie : Tie) (zero : String) (layout : Digits → List Char) (d : Double) : String :=
  let magnitude := if d.isZero then zero else String.ofList (layout (shortest tie d))
  if d.isNegative then "-" ++ magnitude else magnitude

/-- Doubles have a digit after the point where their first digit stands between `10 ^ -5` and
`10 ^ 15`, and an exponent elsewhere. -/
def layout (n : Digits) : List Char :=
  if -5 ≤ n.exponent ∧ n.exponent < 16 then positional ['.', '0'] n else scientific n

/-- The number in JSON text; of two equally short and near decimals it is the even one. -/
def text : Number → String
  | .int n => toString n
  | .real d => realText .even "0.0" layout d

/-- The number in running text: never an exponent, and no point after an integer.  Of two equally
short and near decimals it is the upper one. -/
def plainText : Number → String
  | .int n => toString n
  | .real d => realText .up "0" (positional []) d

end Number

end PlayScaffold.Json
