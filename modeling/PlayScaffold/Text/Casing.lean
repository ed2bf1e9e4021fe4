import PlayScaffold.Text.CaseTable
import PlayScaffold.Text.CharClass

/-!
# Casing of characters and words

Full case mappings: one character may become several (`ß` is `SS` in capitals).  A whole word is
lowered with the rule of the final sigma: `Σ` becomes `ς` after a cased character that no cased
character follows, and `σ` everywhere else.
-/

namespace PlayScaffold.Text

/-- The code point that the run of `n`, if there is one among the runs, maps it to. -/
def mapRuns : List CaseRun → Nat → Option Nat
  | [], _ => none
  | r :: rest, n => if r.contains n then some (r.target + (n - r.first)) else mapRuns rest n

/-- A full mapping: expansions first, then runs, and all other characters stay as they are. -/
def mapCase (expansions : List (Nat × List Nat)) (runs : List CaseRun) (c : Char) : List Char :=
  match expansions.lookup c.toNat with
  | some several => several.map Char.ofNat
  | none =>
    match mapRuns runs c.toNat with
    | some n => [Char.ofNat n]
    | none => [c]

def upper (c : Char) : List Char :=
  if isAscii c then [c.toUpper] else mapCase upperExpansions upperRuns c

/-- The character in small letters, regardless of its neighbours. -/
def lower (c : Char) : List Char :=
  if isAscii c then [c.toLower] else mapCase lowerExpansions lowerRuns c

/-- Is the first character that is not case-ignorable a cased one? -/
def meetsCased (cs : List Char) : Bool :=
  (cs.dropWhile isCaseIgnorable).head?.any isCased

/-- `cs` in small letters, where `before` are the characters in front of it, last one first. -/
def lowerAfter (before : List Char) : List Char → List Char
  | [] => []
  | c :: after =>
    (if c == 'Σ' then [if meetsCased before && !meetsCased after then 'ς' else 'σ'] else lower c)
      ++ lowerAfter (c :: before) after

def lowerWord (cs : List Char) : List Char := lowerAfter [] cs

end PlayScaffold.Text
