import PlayScaffold.Json.Number

/-!
# Numerals of JSON text

A numeral is read in two steps: its parts by the grammar, and its value from the parts.  Digits are
gathered into one integer of sixty-four bits while they fit; the value is that integer, scaled once
by a power of ten.
-/

namespace PlayScaffold.Json

open Decimal

/-- What is wrong with a text. -/
inductive Fault where
  /-- it ends too early -/
  | truncated
  /-- it goes on in a way that no document does -/
  | malformed
deriving Repr, DecidableEq

/-- A fault as seen by a reader of the value, and by one that only passes over it. -/
structure Break where
  reading : Fault
  skipping : Fault
deriving Repr, DecidableEq

/-- A break that both readers see alike. -/
def Break.both (f : Fault) : Break := ⟨f, f⟩

/-- A number that stops at the end of the text is cut off for its reader, and wrong for a reader
that passes over it. -/
def Break.digitExpected (rest : List Char) : Break :=
  if rest.isEmpty then ⟨.truncated, .malformed⟩ else .both .malformed

structure Numeral where
  negative : Bool
  whole : List Char
  fraction : List Char
  /-- the sign and the digits of the power of ten -/
  power : Option (Bool × List Char)
  /-- has it a fraction or a power? -/
  isReal : Bool

namespace Numeral

/-! ## Parts -/

/-- The digits in front of a text, at least one of them. -/
def digits (cs : List Char) : Except Break (List Char × List Char) :=
  match cs.takeWhile Char.isDigit with
  | [] => .error (.digitExpected cs)
  | ds => .ok (ds, cs.dropWhile Char.isDigit)

/-- The digits in front of the point, where no zero leads. -/
def wholePart (cs : List Char) : Except Break (List Char × List Char) :=
  match cs with
  | '0' :: rest =>
    if rest.head?.any Char.isDigit then .error (.both .malformed) else .ok (['0'], rest)
  | _ => digits cs

/-- The digits after the point, if there is one. -/
def fractionPart : List Char → Except Break (List Char × List Char)
  | '.' :: rest => digits rest
  | cs => .ok ([], cs)

/-- The power of ten, if there is one; true stands for a negative one. -/
def powerPart : List Char → Except Break (Option (Bool × List Char) × List Char)
  | c :: rest =>
    if c == 'e' || c == 'E' then do
      let (negative, unsigned) := match rest with
        | '+' :: r => (false, r)
        | '-' :: r => (true, r)
        | r => (false, r)
      let (ds, after) ← digits unsigned
      return (some (negative, ds), after)
    else .ok (none, c :: rest)
  | [] => .ok (none, [])

/-- The numeral in front of a text, and the rest. -/
def read (cs : List Char) : Except Break (Numeral × List Char) := do
  let (negative, unsigned) := match cs with
    | '-' :: r => (true, r)
    | r => (false, r)
  let (whole, r) ← wholePart unsigned
  let (fraction, r) ← fractionPart r
  let (power, r) ← powerPart r
  return (⟨negative, whole, fraction, power, !fraction.isEmpty || power.isSome⟩, r)

/-! ## Value -/

def digitValue (c : Char) : Nat := c.toNat - '0'.toNat

/-- Appends digits to `n` while the result has sixty-four bits, and gives the digits left. -/
def gather (n : Nat) : List Char → Nat × List Char
  | [] => (n, [])
  | d :: ds =>
    let next := 10 * n + digitValue d
    if next < Nat.pow 2 64 then gather next ds else (n, d :: ds)

def powerOfTen (k : Nat) : Option Double := Double.round? false (Nat.pow 10 k) 1

def signedZero (negative : Bool) : Except Fault Double :=
  match Double.round? negative 0 1 with
  | some d => .ok d
  | none => .error .malformed

/-- The double `d`, scaled by a power of ten. -/
def scaled (negative : Bool) : Nat → Double → Int → Except Fault Double
  | 0, _, _ => signedZero negative
  | steps + 1, d, power =>
    if d.isZero then signedZero negative
    else if 308 < power then .error .malformed
    else if 0 ≤ power then
      match (powerOfTen power.toNat).bind (Double.times? negative d) with
      | some r => .ok r
      | none => .error .malformed
    else if -308 ≤ power then
      match (powerOfTen (-power).toNat).bind (Double.over? negative d) with
      | some r => .ok r
      | none => .error .malformed
    else
      -- a power below the least one is applied in steps; the number is zero before they end
      match (powerOfTen 308).bind (Double.over? negative d) with
      | some r => scaled negative steps r (power + 308)
      | none => .error .malformed

/-- The double of an integer scaled by a power of ten. -/
def realValue (negative : Bool) (n : Nat) (power : Int) : Except Fault Double :=
  match Double.round? negative n 1 with
  | some d => scaled negative 4 d power
  | none => .error .malformed

/-- The value of an integer: one that needs more than sixty-four bits, and `-0`, is a double. -/
def integerValue (negative : Bool) (n : Nat) : Except Fault Number :=
  if negative then
    if n = 0 ∨ Nat.pow 2 63 < n then .real <$> realValue true n 0 else .ok (.int (-n))
  else .ok (.int n)

/-- The value of a numeral. -/
def value (n : Numeral) : Except Fault Number :=
  let (whole, left) := gather 0 n.whole
  if !n.isReal && left.isEmpty then integerValue n.negative whole
  else
    let (significand, ignored) := gather whole n.fraction
    let shift : Int := (left.length : Int) - ((n.fraction.length : Int) - (ignored.length : Int))
    match n.power with
    | none => .real <$> realValue n.negative significand shift
    | some (negative, ds) =>
      let p : Nat := ds.foldl (fun k d => 10 * k + digitValue d) 0
      if p < Nat.pow 2 31 then
        .real <$> realValue n.negative significand (if negative then shift - p else shift + p)
      -- powers as large as these leave zero, or lead beyond the largest double
      else if significand = 0 ∨ negative then .real <$> signedZero n.negative
      else .error .malformed

end Numeral

end PlayScaffold.Json
