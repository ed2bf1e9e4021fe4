import PlayScaffold.Yaml.Scalar

/-!
# YAML tokens

The tokens of a text.  Indentation becomes tokens that open and close blocks.  A scalar turns out to
be a key only at the colon after it, so the scanner remembers where the last possible key of every
level stands and puts its token in front of it then.
-/

namespace PlayScaffold.Yaml

inductive Token where
  /-- the version that a document declares, if it is one of those known -/
  | versionDirective (known : Bool)
  /-- what a handle stands for in tags -/
  | tagDirective (handle meaning : String)
  | documentStart
  | documentEnd
  | blockSequence
  | blockMapping
  | blockEnd
  | openSequence
  | closeSequence
  | openMapping
  | closeMapping
  /-- a dash in front of an item -/
  | blockEntry
  /-- a comma between items -/
  | flowEntry
  | key
  | value
  | alias (name : String)
  | anchor (name : String)
  | tag (handle suffix : String)
  /-- a scalar, plain or with quotes or a block indicator -/
  | scalar (isPlain : Bool) (text : String)
deriving Repr, DecidableEq

/-- A place where a key may have begun. -/
structure PossibleKey where
  /-- the number of tokens in front of it -/
  place : Nat
  /-- can nothing but a key stand here? -/
  required : Bool
  index : Nat
  line : Nat
  column : Nat

/-- The state of the scanner. -/
structure Scanner where
  rest : List Char
  index : Nat := 0
  line : Nat := 0
  column : Nat := 0
  tokens : Array Token := #[]
  /-- the column of the innermost block, `-1` outside all blocks -/
  indent : Int := -1
  outerIndents : List Int := []
  /-- the last possible key of the innermost level -/
  possible : Option PossibleKey := none
  /-- those of the levels around it, one for each open bracket -/
  outer : List (Option PossibleKey) := []
  keyAllowed : Bool := true

namespace Scanner

/-! ## Moving -/

/-- Is a bracket open? -/
def inFlow (s : Scanner) : Bool := !s.outer.isEmpty

def step (s : Scanner) : Scanner :=
  match s.rest with
  | [] => s
  | c :: rest =>
    if isBreak c then { s with rest, index := s.index + 1, line := s.line + 1, column := 0 }
    else { s with rest, index := s.index + 1, column := s.column + 1 }

def advance : Nat → Scanner → Scanner
  | 0, s => s
  | n + 1, s => advance n s.step

/-- The scanner in front of a rest of its text. -/
def moveTo (s : Scanner) (rest : List Char) : Scanner := s.advance (s.rest.length - rest.length)

def push (s : Scanner) (t : Token) : Scanner := { s with tokens := s.tokens.push t }

/-- The scanner with a token, after so many characters of it. -/
def take (s : Scanner) (n : Nat) (t : Token) : Scanner := (s.advance n).push t

/-- Passes over blanks, comments and line ends. -/
def skipGap : Nat → Scanner → Scanner
  | 0, s => s
  | fuel + 1, s =>
    match s.rest with
    | [] => s
    | c :: rest =>
      -- a tab counts as a blank only where no key may stand
      if c == ' ' || (c == '\t' && (s.inFlow || !s.keyAllowed)) then skipGap fuel s.step
      -- what follows a byte order mark stands one column further in
      else if c == '\ufeff' && s.column == 0 then skipGap fuel s.step
      else if c == '#' then skipGap fuel (s.moveTo (rest.dropWhile (!isBreak ·)))
      else if isBreak c then
        let s := s.step
        skipGap fuel (if s.inFlow then s else { s with keyAllowed := true })
      else s

/-! ## Blocks -/

/-- Closes the blocks that are indented deeper than a column. -/
def unroll (column : Int) : Nat → Scanner → Scanner
  | 0, s => s
  | fuel + 1, s =>
    if s.inFlow || s.indent ≤ column then s
    else
      match s.outerIndents with
      | outer :: outerIndents =>
        unroll column fuel ({ s with indent := outer, outerIndents }.push .blockEnd)
      | [] => s

def closeBlocks (s : Scanner) (column : Int) : Scanner :=
  s.unroll column (s.outerIndents.length + 1)

/-- Opens a block at a column, unless one is open there; its token goes to a place among the
tokens. -/
def openBlock (s : Scanner) (column place : Nat) (t : Token) : Scanner :=
  if s.inFlow || (column : Int) ≤ s.indent then s
  else
    { s with
      indent := column
      outerIndents := s.indent :: s.outerIndents
      tokens := s.tokens.insertIdxIfInBounds place t }

/-! ## Possible keys -/

/-- Forgets the possible key of the innermost level, which may not be required. -/
def dropKey (s : Scanner) : Option Scanner :=
  if s.possible.any (·.required) then none else some { s with possible := none }

/-- Remembers that a key may begin here. -/
def saveKey (s : Scanner) : Option Scanner := do
  if !s.keyAllowed then return s
  let s ← s.dropKey
  let required := !s.inFlow && s.indent == s.column
  return { s with possible := some ⟨s.tokens.size, required, s.index, s.line, s.column⟩ }

/-- A possible key, unless it can no longer be one: a key stays on one line and within 1024
characters. -/
def refresh (s : Scanner) : Option PossibleKey → Option (Option PossibleKey)
  | none => some none
  | some k =>
    if k.line < s.line ∨ k.index + 1024 < s.index then if k.required then none else some none
    else some (some k)

/-- Forgets the keys that can no longer be one. -/
def dropStale (s : Scanner) : Option Scanner := do
  let possible ← s.refresh s.possible
  let outer ← s.outer.mapM s.refresh
  return { s with possible, outer }

/-! ## Tokens -/

/-- The end of the text closes all blocks. -/
def finish (s : Scanner) : Option Scanner := do
  let s := (if s.column = 0 then s else { s with line := s.line + 1, column := 0 }).closeBlocks (-1)
  s.dropKey

/-- A token that stands between documents closes all blocks. -/
def boundary (s : Scanner) : Option Scanner := do
  let s ← (s.closeBlocks (-1)).dropKey
  return { s with keyAllowed := false }

def openFlow (s : Scanner) (t : Token) : Option Scanner := do
  let s ← s.saveKey
  return { s with possible := none, outer := s.possible :: s.outer, keyAllowed := true }.take 1 t

def closeFlow (s : Scanner) (t : Token) : Option Scanner := do
  let s ← s.dropKey
  let s := match s.outer with
    | possible :: outer => { s with possible, outer }
    | [] => s
  return { s with keyAllowed := false }.take 1 t

/-- A comma. -/
def flowEntry (s : Scanner) : Option Scanner := do
  let s ← s.dropKey
  return { s with keyAllowed := true }.take 1 .flowEntry

/-- A dash; outside brackets it opens a sequence, where a key may stand. -/
def blockEntry (s : Scanner) : Option Scanner := do
  if !s.inFlow && !s.keyAllowed then none
  else
    let s ← (s.openBlock s.column s.tokens.size .blockSequence).dropKey
    return { s with keyAllowed := true }.take 1 .blockEntry

/-- A question mark in front of a key. -/
def explicitKey (s : Scanner) : Option Scanner := do
  if !s.inFlow && !s.keyAllowed then none
  else
    let s ← (s.openBlock s.column s.tokens.size .blockMapping).dropKey
    return { s with keyAllowed := !s.inFlow }.take 1 .key

/-- A colon makes the possible key one, or stands for a value without a key. -/
def colon (s : Scanner) : Option Scanner :=
  match s.possible with
  | some k =>
    let s := { s with
      possible := none
      keyAllowed := false
      tokens := s.tokens.insertIdxIfInBounds k.place .key }
    some ((s.openBlock k.column k.place .blockMapping).take 1 .value)
  | none =>
    if !s.inFlow && !s.keyAllowed then none
    else
      let s := s.openBlock s.column s.tokens.size .blockMapping
      some ({ s with keyAllowed := !s.inFlow }.take 1 .value)

/-- A token that may begin a key, and that no other key may follow; `read` gives it and the
rest. -/
def keyed (s : Scanner) (read : Option (Token × List Char)) : Option Scanner := do
  let s ← s.saveKey
  let (t, rest) ← read
  return ({ s with keyAllowed := false }.moveTo rest).push t

def isNameChar (c : Char) : Bool := c.isAlphanum || c == '_' || c == '-'

/-- The name of an anchor or an alias, and the rest. -/
def name? (cs : List Char) : Option (String × List Char) :=
  let name := cs.takeWhile isNameChar
  let rest := cs.dropWhile isNameChar
  if !name.isEmpty && (endsWord rest || rest.head?.any (among · "?:,]\x7d%@\x60")) then
    some (String.ofList name, rest)
  else none

/-- Can the character stand in the suffix of a tag?  Brackets and commas can only in a verbatim
one. -/
def isTagChar (verbatim : Bool) (c : Char) : Bool :=
  isNameChar c || among c ";/?:@&=+$.%!~*'()" || (verbatim && among c ",[]")

/-- The number of octets of a character, by the leading one of them. -/
def octetCount? (octet : Nat) : Option Nat :=
  if octet < 0x80 then some 1
  else if octet < 0xc0 then none
  else if octet < 0xe0 then some 2
  else if octet < 0xf0 then some 3
  else if octet < 0xf8 then some 4
  else none

/-- The characters of a tag and the rest.  A percent sign and two digits stand for an octet, and the
octets of a character follow each other; `missing` of them are still to come, after those of
`code`. -/
def tagChars? (verbatim : Bool) (missing code : Nat) :
    List Char → Option (List Char × List Char)
  | '%' :: a :: b :: rest => do
    let octet ← hexValue? [a, b]
    let (missing, code) ←
      if missing = 0 then
        (octetCount? octet).map fun n => (n - 1, if n = 1 then octet else octet % (0x80 >>> n))
      else if octet / 0x40 = 2 then some (missing - 1, 0x40 * code + octet % 0x40)
      else none
    let (later, rest) ← tagChars? verbatim missing code rest
    if missing ≠ 0 then return (later, rest)
    else if code.isValidChar then return (Char.ofNat code :: later, rest)
    else return ('\ufffd' :: later, rest)
  | '%' :: _ => none
  | c :: rest => do
    if missing ≠ 0 then none
    else if isTagChar verbatim c then
      let (later, rest) ← tagChars? verbatim 0 0 rest
      return (c :: later, rest)
    else return ([], c :: rest)
  | [] => if missing = 0 then some ([], []) else none

/-- The text of a tag's characters, which ends where one of them is zero. -/
def tagText (cs : List Char) : String := String.ofList (cs.takeWhile (· != '\x00'))

/-- A tag after its exclamation mark, and the rest. -/
def tag? (inFlow : Bool) (cs : List Char) : Option (Token × List Char) := do
  let (handle, suffix, rest) ← match cs with
    | '<' :: cs => do
      let (uri, rest) ← tagChars? true 0 0 cs
      let '>' :: rest := rest | none
      if uri.isEmpty then none else some ("", tagText uri, rest)
    | _ =>
      let word := cs.takeWhile isNameChar
      match cs.dropWhile isNameChar with
      | '!' :: cs => do
        let (suffix, rest) ← tagChars? false 0 0 cs
        if suffix.isEmpty then none
        else some ("!" ++ String.ofList word ++ "!", tagText suffix, rest)
      | _ => do
        let (suffix, rest) ← tagChars? false 0 0 cs
        -- a mark alone is a tag without a handle
        if tagText suffix = "" then some ("", "!", rest) else some ("!", tagText suffix, rest)
  if endsWord rest || (inFlow && rest.head? == some ',') then
    return (.tag handle suffix, rest)
  else none

/-- The number of a version's part, which has nine digits at most. -/
def versionPart? (cs : List Char) : Option (Nat × List Char) :=
  let digits := cs.takeWhile Char.isDigit
  if digits.isEmpty || 9 < digits.length then none
  else
    let n := digits.foldl (fun n d => 10 * n + (d.toNat - '0'.toNat)) 0
    some (n, cs.dropWhile Char.isDigit)

/-- A directive after its percent sign, and the rest. -/
def directive? (cs : List Char) : Option (Token × List Char) := do
  let name := cs.takeWhile isNameChar
  let rest := (cs.dropWhile isNameChar).dropWhile isBlank
  if !endsWord (cs.dropWhile isNameChar) then none
  else
    let (t, rest) ← match String.ofList name with
      | "YAML" => do
        let (major, rest) ← versionPart? rest
        let '.' :: rest := rest | none
        let (minor, rest) ← versionPart? rest
        some (Token.versionDirective (major == 1 && (minor == 1 || minor == 2)), rest)
      | "TAG" => do
        let '!' :: rest := rest | none
        let word := rest.takeWhile isNameChar
        let (handle, rest) := match rest.dropWhile isNameChar with
          | '!' :: rest => ("!" ++ String.ofList word ++ "!", rest)
          | rest => ("!" ++ String.ofList word, rest)
        if !rest.head?.any isBlank || (handle.length ≠ 1 && !handle.endsWith "!") then none
        else
          let rest := rest.dropWhile isBlank
          let (uri, rest) ← tagChars? true 0 0 rest
          if uri.isEmpty || !endsWord rest then none
          else some (.tagDirective handle (tagText uri), rest)
      | _ => none
    let behind := rest.dropWhile isBlank
    let behind :=
      if behind.head? == some '#' then behind.dropWhile (!isBreak ·) else behind
    if behind.head?.all isBreak then return (t, behind) else none

def blockScalar (s : Scanner) (isFolded : Bool) (cs : List Char) : Option Scanner := do
  let s ← s.dropKey
  let (text, rest) ← block isFolded s.indent cs
  return ({ s with keyAllowed := true }.moveTo rest).push (.scalar false (String.ofList text))

def quotedScalar (s : Scanner) (quote : Char) (cs : List Char) : Option Scanner :=
  s.keyed do
    let (text, rest) ← quoted quote (cs.length + 1) (s.column + 1) cs
    return (.scalar false (String.ofList text), rest)

/-- A plain scalar; a key may follow it on a new line. -/
def plainScalar (s : Scanner) : Option Scanner := do
  let s ← s.saveKey
  let (text, rest, broken) ←
    plain s.inFlow (s.indent + 1).toNat (s.rest.length + 1) s.column {} s.rest
  return ({ s with keyAllowed := broken }.moveTo rest).push (.scalar true (String.ofList text))

/-- Can a plain scalar begin with the character, in front of the rest? -/
def beginsPlain (inFlow : Bool) (c : Char) (rest : List Char) : Bool :=
  !(isBlank c || isBreak c || among c "-?:,[]\x7b\x7d#&*!|>'\"%@\x60")
    || (c == '-' && !rest.head?.any isBlank)
    || (!inFlow && (c == '?' || c == ':') && !endsWord rest)

/-- The next token, in front of a character. -/
def next (s : Scanner) (c : Char) (rest : List Char) : Option Scanner := do
  if s.column = 0 ∧ c = '%' then
    let s ← s.boundary
    let (t, after) ← directive? rest
    return (s.moveTo after).push t
  else if s.column = 0 ∧ isDocumentMark '-' s.rest then return (← s.boundary).take 3 .documentStart
  else if s.column = 0 ∧ isDocumentMark '.' s.rest then return (← s.boundary).take 3 .documentEnd
  else if c = '[' then s.openFlow .openSequence
  else if c = '\x7b' then s.openFlow .openMapping
  else if c = ']' then s.closeFlow .closeSequence
  else if c = '\x7d' then s.closeFlow .closeMapping
  else if c = ',' then s.flowEntry
  else if c = '-' ∧ endsWord rest then s.blockEntry
  else if c = '?' ∧ (s.inFlow ∨ endsWord rest) then s.explicitKey
  else if c = ':' ∧ (s.inFlow ∨ endsWord rest) then s.colon
  else if c = '*' then s.keyed ((name? rest).map fun (name, after) => (.alias name, after))
  else if c = '&' then s.keyed ((name? rest).map fun (name, after) => (.anchor name, after))
  else if c = '!' then s.keyed (tag? s.inFlow rest)
  else if (c = '|' ∨ c = '>') ∧ !s.inFlow then s.blockScalar (c == '>') rest
  else if c = '\'' ∨ c = '"' then s.quotedScalar c rest
  else if beginsPlain s.inFlow c rest then s.plainScalar
  else none

def run : Nat → Scanner → Option Scanner
  | 0, _ => none
  | fuel + 1, s => do
    let s ← (s.skipGap (s.rest.length + 1)).dropStale
    let s := s.closeBlocks s.column
    match s.rest with
    | [] => s.finish
    | c :: rest => run fuel (← s.next c rest)

end Scanner

def scan? (text : String) : Option (List Token) := do
  let cs := text.toList
  if !cs.all isReadable then none
  else
    let cs := uniformBreaks cs
    let s ← Scanner.run (cs.length + 1) { rest := cs }
    return s.tokens.toList

end PlayScaffold.Yaml
