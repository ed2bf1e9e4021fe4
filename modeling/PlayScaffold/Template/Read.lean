/-!
# Reading tags

What stands inside a tag is read from left to right: marks, names and blanks.  Of two ways to read
on, the second one counts where the first one fails.
-/

namespace PlayScaffold.Template

/-- Reads from the characters that are left, unless they do not fit. -/
abbrev Read (α : Type) := StateT (List Char) Option α

namespace Read

def isBlank (c : Char) : Bool := c == ' ' || c == '\t' || c == '\r' || c == '\n'

def isNameChar (c : Char) : Bool := c.isAlphanum || c == '_'

def takeWhile (p : Char → Bool) : Read (List Char) := do
  let cs ← get
  set (cs.dropWhile p)
  return cs.takeWhile p

/-- The characters up to the first one of another kind, at least one of them. -/
def takeSome (p : Char → Bool) : Read (List Char) := do
  let cs ← takeWhile p
  if cs.isEmpty then failure else return cs

def blanks : Read Unit := do let _ ← takeWhile isBlank

def mark (s : String) : Read Unit := do
  let cs ← get
  if s.toList.isPrefixOf cs then set (cs.drop s.length) else failure

/-- Passes over a word and the blanks after it, at least one of them. -/
def word (s : String) : Read Unit := do
  mark s
  let _ ← takeSome isBlank

/-- Passes over a mark and the blanks around it. -/
def spaced (s : String) : Read Unit := do
  blanks
  mark s
  blanks

/-- A name, which does not begin with a digit. -/
def name : Read String := do
  if (← get).head?.any Char.isDigit then failure
  return String.ofList (← takeSome isNameChar)

def possibly {α : Type} (part : Read α) : Read (Option α) := (some <$> part) <|> pure none

/-- Parts up to the first one that does not fit.  Every part takes fuel, and one for each character
is enough. -/
def several {α : Type} (part : Read α) : Nat → Read (List α)
  | 0 => return []
  | fuel + 1 => do
    match ← possibly part with
    | some a => return a :: (← several part fuel)
    | none => return []

def many {α : Type} (part : Read α) : Read (List α) := do several part (← get).length

/-- Operands with operators between them, which bind to the left. -/
def chain {α : Type} (operator : Read (α → α → α)) (operand : Read α) : Read α := do
  let first ← operand
  let more ← many do
    blanks
    let combine ← operator
    blanks
    return (combine, ← operand)
  return more.foldl (fun a (combine, b) => combine a b) first

def commaSeparated {α : Type} (item : Read α) : Read (List α) := do
  let first ← item
  return first :: (← many (do spaced ","; item))

end Read

end PlayScaffold.Template
