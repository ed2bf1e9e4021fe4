import PlayScaffold.Decimal.Shortest

/-!
# TOML scalars

Keys, strings, numbers and dates.  Every reader takes the text from its value on and gives the value
and the rest; numbers and dates are only checked, since no option is one.
-/

namespace PlayScaffold.Toml

/-! ## Characters -/

def isBlank (c : Char) : Bool := c == ' ' || c == '\t'

def skipBlanks (cs : List Char) : List Char := cs.dropWhile isBlank

/-- May the character stand in a comment or, unless it has a meaning there, in a string? -/
def isPlain (c : Char) : Bool := c == '\t' || (' ' ≤ c && c ≤ '~') || 0x80 ≤ c.toNat

def afterNewline? : List Char → Option (List Char)
  | '\n' :: rest => some rest
  | '\r' :: '\n' :: rest => some rest
  | _ => none

/-- The text after blanks and a comment, which are both optional. -/
def skipComment (cs : List Char) : List Char :=
  match skipBlanks cs with
  | '#' :: rest => rest.dropWhile isPlain
  | rest => rest

/-- The text from the next line on, if nothing but blanks and a comment stands before it. -/
def nextLine? (cs : List Char) : Option (List Char) :=
  match skipComment cs with
  | [] => some []
  | rest => afterNewline? rest

/-- The text after blanks, comments and line ends.  Every line takes fuel. -/
def skipLines : Nat → List Char → List Char
  | 0, cs => cs
  | fuel + 1, cs =>
    match afterNewline? (skipComment cs) with
    | some rest => skipLines fuel rest
    | none => skipComment cs

/-! ## Strings -/

def hexValue? (cs : List Char) : Option Nat :=
  cs.foldlM (fun n c =>
    if c.isDigit then some (16 * n + (c.toNat - '0'.toNat))
    else if 'a' ≤ c ∧ c ≤ 'f' then some (16 * n + (c.toNat - 'a'.toNat + 10))
    else if 'A' ≤ c ∧ c ≤ 'F' then some (16 * n + (c.toNat - 'A'.toNat + 10))
    else none) 0

/-- The character of an escape by so many hexadecimal digits, and the rest. -/
def escapeByCode? (digits : Nat) (cs : List Char) : Option (Char × List Char) := do
  let code := cs.take digits
  let n ← hexValue? code
  if code.length = digits ∧ n.isValidChar then return (Char.ofNat n, cs.drop digits) else none

/-- The character of an escape after its backslash, and the rest. -/
def escape? : List Char → Option (Char × List Char)
  | 'b' :: rest => some ('\x08', rest)
  | 't' :: rest => some ('\t', rest)
  | 'n' :: rest => some ('\n', rest)
  | 'f' :: rest => some ('\x0c', rest)
  | 'r' :: rest => some ('\r', rest)
  | '"' :: rest => some ('"', rest)
  | '\\' :: rest => some ('\\', rest)
  | 'u' :: rest => escapeByCode? 4 rest
  | 'U' :: rest => escapeByCode? 8 rest
  | _ => none

def consChar (c : Char) (read : Option (List Char × List Char)) :
    Option (List Char × List Char) :=
  read.map fun (text, rest) => (c :: text, rest)

/-- The rest of a string on one line, and what follows its closing quote.  Only double quotes allow
escapes. -/
def line? (quote : Char) : Nat → List Char → Option (List Char × List Char)
  | 0, _ => none
  | _, [] => none
  | fuel + 1, c :: rest =>
    if c == quote then some ([], rest)
    else if c == '\\' && quote == '"' then do
      let (e, rest) ← escape? rest
      consChar e (line? quote fuel rest)
    else if isPlain c then consChar c (line? quote fuel rest)
    else none

/-- The text after blanks and at least one line end, which an escape at the end of a line passes
over with all blanks and line ends that follow. -/
def afterEscapedBreak? (cs : List Char) : Option (List Char) :=
  match afterNewline? (skipBlanks cs) with
  | some rest => some (more rest.length rest)
  | none => none
where
  /-- The text after more blanks and line ends. -/
  more : Nat → List Char → List Char
    | 0, cs => cs
    | fuel + 1, cs =>
      match afterNewline? (skipBlanks cs) with
      | some rest => more fuel rest
      | none => skipBlanks cs

/-- The rest of a string over several lines, and what follows its three closing quotes. -/
def lines? (quote : Char) : Nat → List Char → Option (List Char × List Char)
  | 0, _ => none
  | _, [] => none
  | fuel + 1, c :: rest =>
    if c == quote then
      let more := (rest.takeWhile (· == quote)).length
      -- one or two more quotes in front of the three that close belong to the string
      if more < 2 then consChar c (lines? quote fuel rest)
      else if 4 < more then none
      else some (List.replicate (more - 2) quote, rest.drop more)
    else if c == '\\' && quote == '"' then
      match afterEscapedBreak? rest with
      | some rest => lines? quote fuel rest
      | none => do
        let (e, rest) ← escape? rest
        consChar e (lines? quote fuel rest)
    else if isPlain c then consChar c (lines? quote fuel rest)
    else do
      let rest ← afterNewline? (c :: rest)
      consChar '\n' (lines? quote fuel rest)

def string? (cs : List Char) : Option (String × List Char) := do
  let quote :: rest := cs | none
  let fuel := cs.length
  let (text, rest) ←
    if rest.take 2 == [quote, quote] then
      let body := rest.drop 2
      lines? quote fuel ((afterNewline? body).getD body)
    else line? quote fuel rest
  return (String.ofList text, rest)

/-! ## Keys -/

def isKeyChar (c : Char) : Bool := c.isAlphanum || c == '_' || c == '-'

/-- One key, with or without quotes. -/
def simpleKey? (cs : List Char) : Option (String × List Char) :=
  match cs with
  | c :: rest =>
    if c == '"' || c == '\'' then
      (line? c cs.length rest).map fun (text, rest) => (String.ofList text, rest)
    else if isKeyChar c then
      some (String.ofList (cs.takeWhile isKeyChar), cs.dropWhile isKeyChar)
    else none
  | [] => none

/-- The most keys with points between them, and the most lists and tables inside each other. -/
def depthLimit : Nat := 79

/-- Keys with points between them, not more than a number, and the rest after blanks. -/
def key? : Nat → List Char → Option (List String × List Char)
  | 0, _ => none
  | most + 1, cs => do
    let (key, rest) ← simpleKey? (skipBlanks cs)
    match skipBlanks rest with
    | '.' :: rest => do
      let (later, rest) ← key? most rest
      return (key :: later, rest)
    | rest => return ([key], rest)

/-! ## Numbers and dates -/

/-- The text after a sign, which is optional. -/
def unsigned : List Char → List Char
  | '+' :: rest => rest
  | '-' :: rest => rest
  | cs => cs

/-- Digits, with single underscores between them. -/
def areDigits (isDigit : Char → Bool) : List Char → Bool
  | [] => false
  | [c] => isDigit c
  | c :: '_' :: rest => isDigit c && areDigits isDigit rest
  | c :: rest => isDigit c && areDigits isDigit rest

/-- Digits in which no zero leads. -/
def isWhole (cs : List Char) : Bool :=
  areDigits Char.isDigit cs && (cs == ['0'] || cs.head? != some '0')

def digitsValue (base : Nat) (cs : List Char) : Nat :=
  (cs.filter (· != '_')).foldl (fun n c => base * n + ((hexValue? [c]).getD 0)) 0

/-- An integer of sixty-four bits, in any of the four bases. -/
def isInteger (cs : List Char) : Bool :=
  match cs with
  | '0' :: 'x' :: ds => areDigits (fun c => (hexValue? [c]).isSome) ds && digitsValue 16 ds < limit
  | '0' :: 'o' :: ds => areDigits (fun c => '0' ≤ c && c ≤ '7') ds && digitsValue 8 ds < limit
  | '0' :: 'b' :: ds => areDigits (fun c => c == '0' || c == '1') ds && digitsValue 2 ds < limit
  | '-' :: ds => isWhole ds && digitsValue 10 ds ≤ limit
  | _ => isWhole (unsigned cs) && digitsValue 10 (unsigned cs) < limit
where
  /-- The number of integers that are not negative. -/
  limit : Nat := Nat.pow 2 63

/-- Has `n · 10 ^ e` a double that is nearest to it?  Sizes far from the largest double need no
division. -/
def hasDouble (n : Nat) (e : Int) : Bool :=
  let size := (Nat.toDigits 10 n).length + e
  n == 0 || size < 300 || (size < 312 &&
    (Decimal.Double.round? false (Decimal.scaleTen n e).1 (Decimal.scaleTen n e).2).isSome)

/-- An integer part with a fraction, a power of ten or both, or one of the special numbers. -/
def isFloat (cs : List Char) : Bool :=
  let body := unsigned cs
  let isPower (c : Char) : Bool := c == 'e' || c == 'E'
  let mantissa := body.takeWhile (!isPower ·)
  let power := body.dropWhile (!isPower ·)
  let whole := mantissa.takeWhile (· != '.')
  let fraction := mantissa.dropWhile (· != '.')
  body == "inf".toList || body == "nan".toList
    || (isWhole whole && (fraction.isEmpty || areDigits Char.isDigit fraction.tail)
      && (power.isEmpty || areDigits Char.isDigit (unsigned power.tail))
      && !(fraction.isEmpty && power.isEmpty)
      -- only a number with a minus may be beyond the doubles
      && (cs.head? == some '-' ||
        let digits := fraction.tail.filter (· != '_')
        let size : Int := digitsValue 10 (unsigned power.tail)
        let e := if power.tail.head? == some '-' then -size else size
        hasDouble (digitsValue 10 (whole ++ digits)) (e - digits.length)))

/-- A number of exactly two digits, between two bounds. -/
def isTwoDigits (low high : Nat) (cs : List Char) : Bool :=
  cs.length == 2 && cs.all Char.isDigit && low ≤ digitsValue 10 cs && digitsValue 10 cs ≤ high

def daysIn (year month : Nat) : Nat :=
  if month = 2 then
    if year % 4 = 0 ∧ (year % 100 ≠ 0 ∨ year % 400 = 0) then 29 else 28
  else if month = 4 ∨ month = 6 ∨ month = 9 ∨ month = 11 then 30
  else 31

/-- A date, as in `1979-05-27`. -/
def isDate (cs : List Char) : Bool :=
  let year := cs.take 4
  let month := (cs.drop 5).take 2
  cs.length == 10 && year.all Char.isDigit && cs[4]? == some '-' && cs[7]? == some '-'
    && isTwoDigits 1 12 month
    && isTwoDigits 1 (daysIn (digitsValue 10 year) (digitsValue 10 month)) (cs.drop 8)

/-- A time, as in `07:32:00.5`. -/
def isTime (cs : List Char) : Bool :=
  let fraction := cs.drop 8
  isTwoDigits 0 23 (cs.take 2) && cs[2]? == some ':' && isTwoDigits 0 59 ((cs.drop 3).take 2)
    && cs[5]? == some ':' && isTwoDigits 0 60 ((cs.drop 6).take 2)
    && (fraction.isEmpty
      || (fraction.head? == some '.' && 1 < fraction.length && fraction.tail.all Char.isDigit))

/-- An offset from universal time, as in `-07:00`. -/
def isOffset (cs : List Char) : Bool :=
  cs == ['Z'] || cs == ['z']
    || ((cs.head? == some '+' || cs.head? == some '-') && cs.length == 6 && cs[3]? == some ':'
      && isTwoDigits 0 23 (cs.tail.take 2) && isTwoDigits 0 59 (cs.drop 4))

/-- A time, with an offset or without one. -/
def isZonedTime (cs : List Char) : Bool :=
  let time := cs.takeWhile fun c => c.isDigit || c == ':' || c == '.'
  isTime time && (time.length == cs.length || isOffset (cs.drop time.length))

def isDateTime (cs : List Char) : Bool :=
  isDate (cs.take 10) && (cs[10]?.any fun c => c == 'T' || c == 't' || c == ' ')
    && isZonedTime (cs.drop 11)

def isNumberChar (c : Char) : Bool :=
  c.isAlphanum || c == '_' || c == '+' || c == '-' || c == '.' || c == ':'

/-- The text after a number or a date. -/
def afterNumber? (cs : List Char) : Option (List Char) :=
  let word := cs.takeWhile isNumberChar
  let rest := cs.dropWhile isNumberChar
  let second := rest.tail.takeWhile isNumberChar
  -- a blank may stand between a date and a time
  if isDate word && rest.head? == some ' ' && isZonedTime second then
    some (rest.tail.drop second.length)
  else if isInteger word || isFloat word || isDate word || isTime word || isDateTime word then
    some rest
  else none

end PlayScaffold.Toml
