import PlayScaffold.Error
import PlayScaffold.Identifier

/-!
# Routes

A route is text with placeholders, such as `/pet/{pet_id}/photos`.  `Route.pieces` reads it or finds
its first fault; `Route.normalize` writes every placeholder as a colon and its name in camel case
and keeps all other text as it is.  Positions are byte offsets in UTF-8.
-/

namespace PlayScaffold.Route

/-! ## Pieces and faults -/

/-- What a route is made of. -/
inductive Piece where
  /-- a character outside every placeholder -/
  | text (c : Char)
  /-- a placeholder with the offset of its opening brace -/
  | placeholder (start : Nat) (name : List Char)
deriving Repr, DecidableEq

/-- Why a text is not a route. -/
inductive Fault where
  /-- a brace opens at `pos` inside the placeholder opened at `opened` -/
  | nested (pos opened : Nat)
  /-- a brace closes at `pos` and none is open -/
  | unmatched (pos : Nat)
  /-- nothing stands between the braces -/
  | hollow (opened : Nat)
  /-- the brace opened last is never closed -/
  | unclosed (opened : Nat)
  /-- the name has neither letters nor digits -/
  | nameless (name : List Char) (opened : Nat)
deriving Repr, DecidableEq

def openBrace : Char := '\x7b'

def closeBrace : Char := '\x7d'

def Fault.reason : Fault → String
  | .nested pos opened =>
    "nested '\x7b' at byte " ++ toString pos ++ " inside placeholder opened at byte "
      ++ toString opened
  | .unmatched pos => "unmatched '\x7d' at byte " ++ toString pos
  | .hollow opened => "empty placeholder at byte " ++ toString opened
  | .unclosed opened => "unclosed '\x7b' at byte " ++ toString opened
  | .nameless name opened =>
    "placeholder '\x7b" ++ String.ofList name ++ "\x7d' at byte " ++ toString opened
      ++ " has no identifier characters"

/-! ## Reading -/

mutual

/-- The pieces of a text that begins at `pos`, outside every placeholder. -/
def pieces (pos : Nat) : List Char → Except Fault (List Piece)
  | [] => .ok []
  | c :: rest =>
    if c = openBrace then do
      let (name, later) ← namedPieces pos (pos + 1) rest
      .ok (.placeholder pos name :: later)
    else if c = closeBrace then .error (.unmatched pos)
    else do
      let later ← pieces (pos + c.utf8Size) rest
      .ok (.text c :: later)

/-- The rest of the name opened at `opened`, and the pieces after its closing brace. -/
def namedPieces (opened pos : Nat) : List Char → Except Fault (List Char × List Piece)
  | [] => .error (.unclosed opened)
  | c :: rest =>
    if c = openBrace then .error (.nested pos opened)
    else if c = closeBrace then
      if pos = opened + 1 then .error (.hollow opened)
      else do
        let later ← pieces (pos + 1) rest
        .ok ([], later)
    else do
      let (name, later) ← namedPieces opened (pos + c.utf8Size) rest
      .ok (c :: name, later)

end

/-! ## Writing -/

/-- A piece in route syntax. -/
def Piece.render : Piece → Except Fault (List Char)
  | .text c => .ok [c]
  | .placeholder start name =>
    match Identifier.camel name with
    | [] => .error (.nameless name start)
    | param => .ok (':' :: param)

/-- The route in route syntax, or its first fault: braces come before names. -/
def convert (path : List Char) : Except Fault (List Char) := do
  let parts ← pieces 0 path
  let texts ← parts.mapM Piece.render
  return texts.flatten

/-- The route of an operation in route syntax. -/
def normalize (operationId path : String) : Except Error String :=
  match convert path.toList with
  | .ok text => .ok (String.ofList text)
  | .error fault => .error (.malformedPath operationId path fault.reason)

end PlayScaffold.Route
