import PlayScaffold.Json.Basic
import PlayScaffold.Json.StringLiteral

/-!
# Drafts: JSON text as far as it goes

A draft is the tree of a text, with every fault at its place.  A reader walks it in the order of
the text and so meets the first fault that concerns it; what it passes over is held to fewer rules
than what it reads: there numbers may be out of range, surrogates may stand alone, and containers
may nest deeper than 127 levels.
-/

namespace PlayScaffold.Json

/-- How a container ends. -/
inductive Ending where
  | closed
  | broken (b : Break)
deriving Repr, DecidableEq

/-- The fault that ends the reading of a container, if it is not closed. -/
def Ending.read : Ending → Except Fault Unit
  | .closed => .ok ()
  | .broken b => .error b.reading

/-- The fault that ends the skipping of a container, if it is not closed. -/
def Ending.skip : Ending → Except Fault Unit
  | .closed => .ok ()
  | .broken b => .error b.skipping

/-- The tree of a text. -/
inductive Draft where
  | null
  | bool (b : Bool)
  | number (value : Except Fault Number)
  | text (value : Except Fault String)
  | list (level : Nat) (items : List Draft) (ending : Ending)
  | object (level : Nat) (fields : List (Except Fault String × Draft)) (ending : Ending)
  /-- the text breaks here, and nothing follows -/
  | broken (b : Break)

namespace Draft

instance : Inhabited Draft := ⟨.null⟩

/-! ## Parsing -/

/-- The text after its leading blanks, tabs and line ends. -/
def skipBlanks (cs : List Char) : List Char :=
  cs.dropWhile fun c => c == ' ' || c == '\t' || c == '\n' || c == '\r'

/-- The rest after the letters of a word, or the fault where they end. -/
def afterWord : List Char → List Char → Except Fault (List Char)
  | [], cs => .ok cs
  | _ :: _, [] => .error .truncated
  | w :: ws, c :: cs => if w = c then afterWord ws cs else .error .malformed

/-- A word that stands for a value. -/
def word (letters : String) (d : Draft) (cs : List Char) : Draft × Option (List Char) :=
  match afterWord letters.toList cs with
  | .ok rest => (d, some rest)
  | .error f => (.broken (.both f), none)

/-- The break of a literal that does not end. -/
def literalBreak (cs : List Char) (skipping : Fault) : Break :=
  match StringLiteral.content cs with
  | .error reading => ⟨reading, skipping⟩
  | .ok _ => .both skipping

def numeral (cs : List Char) : Draft × Option (List Char) :=
  match Numeral.read cs with
  | .ok (n, rest) => (.number n.value, some rest)
  | .error b => (.broken b, none)

mutual

/-- The draft of the value in front of a text, and the rest unless the text breaks.  Every step uses
fuel, and two for each character are enough. -/
def value (level : Nat) : Nat → List Char → Draft × Option (List Char)
  | 0, _ => (.broken (.both .truncated), none)
  | fuel + 1, cs =>
    match skipBlanks cs with
    | [] => (.broken (.both .truncated), none)
    | c :: rest =>
      if c == 'n' then word "null" .null (c :: rest)
      else if c == 't' then word "true" (.bool true) (c :: rest)
      else if c == 'f' then word "false" (.bool false) (c :: rest)
      else if c == '"' then
        match StringLiteral.rest rest with
        | .ok after => (.text (StringLiteral.text rest), some after)
        | .error f => (.broken (literalBreak rest f), none)
      else if c == '-' || c.isDigit then numeral (c :: rest)
      -- a container that opens here has the level itself, and what is inside of it the next one
      else if c == '[' then
        let (items, ending, after) := firstItem level fuel rest
        (.list level items ending, after)
      else if c == '\x7b' then
        let (fields, ending, after) := firstField level fuel rest
        (.object level fields ending, after)
      else (.broken (.both .malformed), none)

/-- The items of a list that has just been opened. -/
def firstItem (level : Nat) : Nat → List Char → List Draft × Ending × Option (List Char)
  | 0, _ => ([], .broken (.both .truncated), none)
  | fuel + 1, cs =>
    match skipBlanks cs with
    | [] => ([], .broken (.both .truncated), none)
    | c :: rest => if c == ']' then ([], .closed, some rest) else item level fuel (c :: rest)

def item (level : Nat) : Nat → List Char → List Draft × Ending × Option (List Char)
  | 0, _ => ([], .broken (.both .truncated), none)
  | fuel + 1, cs =>
    match value (level + 1) fuel cs with
    | (d, none) => ([d], .broken (.both .truncated), none)
    | (d, some rest) =>
      match skipBlanks rest with
      | [] => ([d], .broken (.both .truncated), none)
      | c :: after =>
        if c == ']' then ([d], .closed, some after)
        else if c == ',' then
          let (later, ending, behind) := item level fuel after
          (d :: later, ending, behind)
        else ([d], .broken (.both .malformed), none)

/-- The fields of an object that has just been opened. -/
def firstField (level : Nat) : Nat → List Char →
    List (Except Fault String × Draft) × Ending × Option (List Char)
  | 0, _ => ([], .broken (.both .truncated), none)
  | fuel + 1, cs =>
    match skipBlanks cs with
    | [] => ([], .broken (.both .truncated), none)
    | c :: rest => if c == '\x7d' then ([], .closed, some rest) else field level fuel (c :: rest)

/-- A field and those after it. -/
def field (level : Nat) : Nat → List Char →
    List (Except Fault String × Draft) × Ending × Option (List Char)
  | 0, _ => ([], .broken (.both .truncated), none)
  | fuel + 1, cs =>
    match skipBlanks cs with
    | [] => ([], .broken (.both .truncated), none)
    | c :: rest =>
      if c == '"' then
        match StringLiteral.rest rest with
        | .error f => ([], .broken (literalBreak rest f), none)
        | .ok after =>
          let key := StringLiteral.text rest
          match skipBlanks after with
          | [] => ([(key, .broken (.both .truncated))], .broken (.both .truncated), none)
          | colon :: behind =>
            if colon == ':' then
              match value (level + 1) fuel behind with
              | (d, none) => ([(key, d)], .broken (.both .truncated), none)
              | (d, some rest) =>
                match skipBlanks rest with
                | [] => ([(key, d)], .broken (.both .truncated), none)
                | c :: after =>
                  if c == '\x7d' then ([(key, d)], .closed, some after)
                  else if c == ',' then
                    let (later, ending, behind) := field level fuel after
                    ((key, d) :: later, ending, behind)
                  else ([(key, d)], .broken (.both .malformed), none)
            -- a key without its colon is a field whose value is broken
            else ([(key, .broken (.both .malformed))], .broken (.both .malformed), none)
      else ([], .broken (.both .malformed), none)

end

/-- The draft of a text, and what follows the value unless the text breaks before. -/
def parse (s : String) : Draft × Option (List Char) :=
  let cs := s.toList
  value 1 (2 * cs.length + 2) cs

/-! ## Reading -/

/-- The level that a container may reach where its value is read. -/
def deepest : Nat := 127

mutual

/-- The value of a draft, if it is without fault. -/
def json : Draft → Except Fault Json
  | .null => .ok .null
  | .bool b => .ok (.bool b)
  | .number n => Json.num <$> n
  | .text s => Json.str <$> s
  | .list level items ending => do
    if deepest < level then .error .malformed
    let values ← jsonItems items
    Ending.read ending
    return .arr values
  | .object level fields ending => do
    if deepest < level then .error .malformed
    let values ← jsonFields fields
    Ending.read ending
    return Json.ofFields values
  | .broken b => .error b.reading

def jsonItems : List Draft → Except Fault (List Json)
  | [] => .ok []
  | d :: rest => do
    let j ← json d
    let later ← jsonItems rest
    return j :: later

def jsonFields : List (Except Fault String × Draft) → Except Fault (List (String × Json))
  | [] => .ok []
  | (key, d) :: rest => do
    let key ← key
    let j ← json d
    let later ← jsonFields rest
    return (key, j) :: later

end

mutual

/-- The fault met by a reader that passes over a draft. -/
def skip : Draft → Except Fault Unit
  | .list _ items ending => do
    skipItems items
    Ending.skip ending
  | .object _ fields ending => do
    skipFields fields
    Ending.skip ending
  | .broken b => .error b.skipping
  | .null | .bool _ | .number _ | .text _ => .ok ()

def skipItems : List Draft → Except Fault Unit
  | [] => .ok ()
  | d :: rest => do
    skip d
    skipItems rest

def skipFields : List (Except Fault String × Draft) → Except Fault Unit
  | [] => .ok ()
  | (_, d) :: rest => do
    skip d
    skipFields rest

end

/-- Only blanks may follow a document. -/
def checkEnd (rest : Option (List Char)) : Except Fault Unit :=
  match rest with
  | none => .error .truncated
  | some cs => if (skipBlanks cs).isEmpty then .ok () else .error .malformed

end Draft

def parse (s : String) : Except Fault Json := do
  let (draft, rest) := Draft.parse s
  let j ← draft.json
  Draft.checkEnd rest
  return j

end PlayScaffold.Json
