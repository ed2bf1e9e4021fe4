/-!
# Spans of code points

A span is an arithmetic progression of code points; a class of characters is an ascending list of
spans.  Alternating alphabets (capital, small, capital, small, …) are one span of step two.
-/

namespace PlayScaffold.Text

/-- The code points `first`, `first + step`, … up to `last`. -/
structure Span where
  first : Nat
  last : Nat
  step : Nat
deriving Repr, DecidableEq

namespace Span

def contains (s : Span) (n : Nat) : Bool :=
  s.first ≤ n && n ≤ s.last && (n - s.first) % s.step == 0

/-- Is `n` in one of the spans, which ascend? -/
def anyContains : List Span → Nat → Bool
  | [], _ => false
  | s :: rest, n => s.first ≤ n && (s.contains n || anyContains rest n)

end Span

end PlayScaffold.Text
