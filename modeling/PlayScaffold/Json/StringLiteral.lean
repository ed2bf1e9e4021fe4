import PlayScaffold.Json.Numeral

/-!
# String literals of JSON text

Where a literal ends, and what it says.  Both are read after the opening quote.  A reader of the
text insists on surrogates in pairs; one that passes over the literal does not.
-/

namespace PlayScaffold.Json.StringLiteral

def hexDigit? (c : Char) : Option Nat :=
  if c.isDigit then some (c.toNat - '0'.toNat)
  else if 'a' ≤ c ∧ c ≤ 'f' then some (c.toNat - 'a'.toNat + 10)
  else if 'A' ≤ c ∧ c ≤ 'F' then some (c.toNat - 'A'.toNat + 10)
  else none

/-- The value of hexadecimal digits, the first one leading. -/
def hexValue? (cs : List Char) : Option Nat :=
  cs.foldlM (fun n c => (hexDigit? c).map (16 * n + ·)) 0

/-- The fault of an escape by code: the text is cut off if it has not four bytes left. -/
def codeFault (rest : List Char) : Fault :=
  if (String.ofList (rest.take 4)).utf8ByteSize < 4 then .truncated else .malformed

/-- The character of an escape by letter. -/
def escape? (c : Char) : Option Char :=
  if c == '"' || c == '\\' || c == '/' then some c
  else if c == 'b' then some '\x08'
  else if c == 'f' then some '\x0c'
  else if c == 'n' then some '\n'
  else if c == 'r' then some '\r'
  else if c == 't' then some '\t'
  else none

/-- The text after the closing quote. -/
def rest : List Char → Except Fault (List Char)
  | [] => .error .truncated
  | '"' :: after => .ok after
  | ['\\'] => .error .truncated
  | '\\' :: 'u' :: a :: b :: c :: d :: after =>
    if (hexValue? [a, b, c, d]).isSome then rest after else .error .malformed
  | '\\' :: 'u' :: short => .error (codeFault short)
  | '\\' :: c :: after => if (escape? c).isSome then rest after else .error .malformed
  | c :: after => if c < ' ' then .error .malformed else rest after

def surrogatePair (leading trailing : Nat) : Char :=
  Char.ofNat (0x10000 + 0x400 * (leading - 0xd800) + (trailing - 0xdc00))

/-- The text between the quotes. -/
def content : List Char → Except Fault (List Char)
  | [] => .error .truncated
  | '"' :: _ => .ok []
  | ['\\'] => .error .truncated
  | '\\' :: 'u' :: a :: b :: c :: d :: after =>
    match hexValue? [a, b, c, d] with
    | none => .error .malformed
    | some n =>
      if n < 0xd800 ∨ 0xdfff < n then do
        let later ← content after
        .ok (Char.ofNat n :: later)
      else if 0xdc00 ≤ n then .error .malformed
      else
        -- a leading surrogate, which only counts with a trailing one behind it
        match after with
        | [] => .error .truncated
        | ['\\'] => .error .truncated
        | '\\' :: 'u' :: e :: f :: g :: h :: behind =>
          match hexValue? [e, f, g, h] with
          | none => .error .malformed
          | some m =>
            if 0xdc00 ≤ m ∧ m ≤ 0xdfff then do
              let later ← content behind
              .ok (surrogatePair n m :: later)
            else .error .malformed
        | '\\' :: 'u' :: short => .error (codeFault short)
        | _ => .error .malformed
  | '\\' :: 'u' :: short => .error (codeFault short)
  | '\\' :: c :: after =>
    match escape? c with
    | some e => do
      let later ← content after
      .ok (e :: later)
    | none => .error .malformed
  | c :: after =>
    if c < ' ' then .error .malformed
    else do
      let later ← content after
      .ok (c :: later)

/-- The literal's text, as far as it can be read. -/
def text (cs : List Char) : Except Fault String := String.ofList <$> content cs

end PlayScaffold.Json.StringLiteral
