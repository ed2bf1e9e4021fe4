/-!
# YAML scalars

How plain, quoted and block scalars are read.  Every reader takes the text from the scalar on and
gives the scalar's text and the rest; line breaks have been made uniform before.  Lines of plain
and quoted scalars are folded: one break becomes a blank, and of several the first one is dropped.
-/

namespace PlayScaffold.Yaml

/-! ## Characters -/

def isBlank (c : Char) : Bool := c == ' ' || c == '\t'

/-- A line break, after `uniformBreaks`. -/
def isBreak (c : Char) : Bool := c == '\n' || c == '\u2028' || c == '\u2029'

/-- Does the text end, or go on with a blank or a break? -/
def endsWord (cs : List Char) : Bool := cs.head?.all fun c => isBlank c || isBreak c

def among (c : Char) (choices : String) : Bool := choices.toList.contains c

/-- The text with every ordinary line break written as a line feed. -/
def uniformBreaks : List Char → List Char
  | '\r' :: '\n' :: rest => '\n' :: uniformBreaks rest
  | '\r' :: rest => '\n' :: uniformBreaks rest
  | '\u0085' :: rest => '\n' :: uniformBreaks rest
  | c :: rest => c :: uniformBreaks rest
  | [] => []

/-- May the character stand in a document? -/
def isReadable (c : Char) : Bool :=
  let n := c.toNat
  n == 0x09 || n == 0x0a || n == 0x0d || (0x20 ≤ n && n ≤ 0x7e) || n == 0x85
    || (0xa0 ≤ n && n ≤ 0xd7ff) || (0xe000 ≤ n && n ≤ 0xfffd) || 0x10000 ≤ n

/-- Does the text begin with a mark between documents? -/
def isDocumentMark (mark : Char) : List Char → Bool
  | a :: b :: c :: rest => a == mark && b == mark && c == mark && endsWord rest
  | _ => false

/-- Does a line that begins in the first column begin with a mark between documents? -/
def meetsDocumentMark (column : Nat) (cs : List Char) : Bool :=
  column == 0 && (isDocumentMark '-' cs || isDocumentMark '.' cs)

/-! ## Gaps -/

/-- Blanks and line breaks between two words; blanks count only where there is no break. -/
structure Gap where
  blanks : List Char := []
  breaks : List Char := []

/-- What a gap between two words of a scalar becomes. -/
def Gap.folded (g : Gap) : List Char :=
  match g.breaks with
  | [] => g.blanks
  | ['\n'] => [' ']
  | '\n' :: more => more
  | breaks => breaks

def Gap.breaksLine (g : Gap) : Bool := !g.breaks.isEmpty

/-- The gap in front of a text, the rest and its column. -/
def takeGap (least column : Nat) (g : Gap) : List Char → Option (Gap × List Char × Nat)
  | [] => some (g, [], column)
  | c :: rest =>
    if isBreak c then takeGap least 0 { breaks := g.breaks ++ [c] } rest
    else if isBlank c then
      if g.breaksLine then
        -- the column `least` of a new line is reached without tabs
        if c == '\t' && column < least then none else takeGap least (column + 1) g rest
      else takeGap least (column + 1) { g with blanks := g.blanks ++ [c] } rest
    else some (g, c :: rest, column)

/-! ## Plain scalars -/

/-- The word of a plain scalar, up to a blank, a break or an indicator. -/
def plainWord (inFlow : Bool) : List Char → Option (List Char × List Char)
  | [] => some ([], [])
  | c :: rest =>
    if isBlank c || isBreak c then some ([], c :: rest)
    else if inFlow && c == ':' && rest.head?.any (among · ",?[]\x7b\x7d") then none
    else if (c == ':' && endsWord rest) || (inFlow && among c ",[]\x7b\x7d") then
      some ([], c :: rest)
    else (plainWord inFlow rest).map fun (word, after) => (c :: word, after)

/-- A plain scalar after a gap that does not end it: its text, the rest, and whether a line ends
before the rest. -/
def plain (inFlow : Bool) (least : Nat) :
    Nat → Nat → Gap → List Char → Option (List Char × List Char × Bool)
  | 0, _, _, _ => none
  | fuel + 1, column, before, cs => do
    if meetsDocumentMark column cs || cs.head? == some '#' then
      return ([], cs, before.breaksLine)
    let (word, rest) ← plainWord inFlow cs
    if word.isEmpty then return ([], rest, before.breaksLine)
    let text := before.folded ++ word
    if rest.isEmpty || !endsWord rest then return (text, rest, false)
    let (gap, rest, column) ← takeGap least (column + word.length) {} rest
    -- a line that begins before the column `least` does not belong to the scalar
    if !inFlow && column < least then return (text, rest, gap.breaksLine)
    let (later, rest, broken) ← plain inFlow least fuel column gap rest
    return (text ++ later, rest, broken)

/-! ## Quoted scalars -/

def hexValue? (cs : List Char) : Option Nat :=
  cs.foldlM (fun n c =>
    if c.isDigit then some (16 * n + (c.toNat - '0'.toNat))
    else if 'a' ≤ c ∧ c ≤ 'f' then some (16 * n + (c.toNat - 'a'.toNat + 10))
    else if 'A' ≤ c ∧ c ≤ 'F' then some (16 * n + (c.toNat - 'A'.toNat + 10))
    else none) 0

/-- The character of an escape by so many hexadecimal digits, and the rest. -/
def escapeByCode? (digits : Nat) (cs : List Char) : Option (Char × List Char) := do
  let code := cs.take digits
  let n ← hexValue? code
  if code.length = digits ∧ n.isValidChar then return (Char.ofNat n, cs.drop digits) else none

def escapes : List (Char × Nat) :=
  [('0', 0x00), ('a', 0x07), ('b', 0x08), ('t', 0x09), ('\t', 0x09), ('n', 0x0a), ('v', 0x0b),
    ('f', 0x0c), ('r', 0x0d), ('e', 0x1b), (' ', 0x20), ('"', 0x22), ('/', 0x2f), ('\\', 0x5c),
    ('N', 0x85), ('_', 0xa0), ('L', 0x2028), ('P', 0x2029)]

/-- The character of an escape after its backslash, and the rest. -/
def escape? : List Char → Option (Char × List Char)
  | 'x' :: rest => escapeByCode? 2 rest
  | 'u' :: rest => escapeByCode? 4 rest
  | 'U' :: rest => escapeByCode? 8 rest
  | c :: rest => (escapes.lookup c).map fun n => (Char.ofNat n, rest)
  | [] => none

/-- The word of a quoted scalar, the rest, and whether the word ends at an escaped break, which is
not part of the rest. -/
def quotedWord (quote : Char) : Nat → List Char → Option (List Char × List Char × Bool)
  | 0, _ => none
  | fuel + 1, cs =>
    let cons (c : Char) (rest : List Char) := do
      let (word, after, escaped) ← quotedWord quote fuel rest
      return (c :: word, after, escaped)
    match cs with
    | [] => some ([], [], false)
    | c :: rest =>
      if isBlank c || isBreak c then some ([], cs, false)
      else if c == quote then
        if quote == '\'' && rest.head? == some '\'' then cons '\'' rest.tail
        else some ([], cs, false)
      else if quote == '"' && c == '\\' then
        if rest.head?.any isBreak then some ([], rest.tail, true)
        else do
          let (e, after) ← escape? rest
          cons e after
      else cons c rest

/-- The rest of a quoted scalar in front of its closing quote, and what follows that. -/
def quoted (quote : Char) : Nat → Nat → List Char → Option (List Char × List Char)
  | 0, _, _ => none
  | fuel + 1, column, cs => do
    if cs.isEmpty || meetsDocumentMark column cs then none
    else
      let (word, rest, escaped) ← quotedWord quote (cs.length + 1) cs
      if rest.head? == some quote then return (word, rest.tail)
      let (gap, rest, column) ← takeGap 0 (if escaped then 0 else 1) {} rest
      let between := if escaped then gap.breaks else gap.folded
      let (later, rest) ← quoted quote fuel column rest
      return (word ++ between ++ later, rest)

/-! ## Block scalars -/

/-- What becomes of the breaks at the end of a block scalar. -/
inductive Chomping where
  | strip
  | clip
  | keep
deriving Repr, DecidableEq

def chomping? : List Char → Option (Chomping × List Char)
  | '+' :: rest => some (.keep, rest)
  | '-' :: rest => some (.strip, rest)
  | _ => none

def indentation? : List Char → Option (Nat × List Char)
  | c :: rest => if c.isDigit then some (c.toNat - '0'.toNat, rest) else none
  | [] => none

/-- The indicators of a block scalar in either order, without blanks between them. -/
def blockIndicators (cs : List Char) : Chomping × Option Nat × List Char :=
  match chomping? cs with
  | some (chomping, rest) =>
    match indentation? rest with
    | some (n, rest) => (chomping, some n, rest)
    | none => (chomping, none, rest)
  | none =>
    match indentation? cs with
    | some (n, rest) =>
      match chomping? rest with
      | some (chomping, rest) => (chomping, some n, rest)
      | none => (.clip, some n, rest)
    | none => (.clip, none, cs)

/-- The text from the next line on, if nothing but blanks and a comment stands before it. -/
def nextLine? (cs : List Char) : Option (List Char) :=
  let rest := cs.dropWhile isBlank
  let rest := if rest.head? == some '#' then rest.dropWhile (!isBreak ·) else rest
  match rest with
  | [] => some []
  | c :: after => if isBreak c then some after else none

/-- Empty lines in front of the next line of a block scalar: the deepest column of any of them,
their breaks, the rest, and its column.  Blanks count up to the column `limit`, or all of them
where it is zero. -/
def blockBreaks (limit : Nat) : Nat → Nat → List Char → Option (Nat × List Char × List Char × Nat)
  | 0, _, _ => none
  | fuel + 1, deepest, cs => do
    let blanks := (cs.takeWhile (· == ' ')).length
    let column := if limit = 0 then blanks else min blanks limit
    let rest := cs.drop column
    let deepest := max deepest column
    match rest with
    | [] => return (deepest, [], [], column)
    | c :: after =>
      if c == '\t' && (limit = 0 || column < limit) then none
      else if isBreak c then
        let (deepest, breaks, rest, column) ← blockBreaks limit fuel deepest after
        return (deepest, c :: breaks, rest, column)
      else return (deepest, [], rest, column)

/-- The lines of a block scalar at an indentation, after the break and the empty lines before
them. -/
def blockLines (isFolded : Bool) (chomping : Chomping) (indent : Nat) :
    Nat → Nat → Option Char → List Char → Bool → List Char → Option (List Char × List Char)
  | 0, _, _, _, _, _ => none
  | fuel + 1, column, lineBreak, empty, afterBlank, cs => do
    if column = indent ∧ cs ≠ [] then
      let beginsBlank := cs.head?.any isBlank
      let joint :=
        if isFolded && lineBreak == some '\n' && !afterBlank && !beginsBlank then
          if empty.isEmpty then [' '] else []
        else lineBreak.toList
      let line := cs.takeWhile (!isBreak ·)
      let rest := cs.dropWhile (!isBreak ·)
      let (_, nextEmpty, behind, column) ← blockBreaks indent (rest.length + 1) 0 rest.tail
      let (later, behind) ←
        blockLines isFolded chomping indent fuel column rest.head? nextEmpty beginsBlank behind
      return (joint ++ empty ++ line ++ later, behind)
    else
      match chomping with
      | .strip => return ([], cs)
      | .clip => return (lineBreak.toList, cs)
      | .keep => return (lineBreak.toList ++ empty, cs)

/-- A block scalar after its indicator, in a block of the given indentation. -/
def block (isFolded : Bool) (parent : Int) (cs : List Char) : Option (List Char × List Char) := do
  let (chomping, given, rest) := blockIndicators cs
  if given = some 0 then none
  else
    let rest ← nextLine? rest
    let limit := match given with
      | some n => (max parent 0).toNat + n
      | none => 0
    let (deepest, empty, rest, column) ← blockBreaks limit (rest.length + 1) 0 rest
    let indent := if limit = 0 then max (max deepest (parent + 1).toNat) 1 else limit
    blockLines isFolded chomping indent (rest.length + 1) column none empty false rest

end PlayScaffold.Yaml
