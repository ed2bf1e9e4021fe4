import PlayScaffold.Json.Basic

/-!
# JSON text

The compact form has no blanks; the pretty form has one field or item a line, indented by two
blanks a level, with empty containers on one line.  An `Encoding` is a value whose records keep the
order of their fields until they are turned into objects.
-/

namespace PlayScaffold

namespace Json

/-! ## Strings -/

/-- One character inside a JSON string: quotes, backslashes and controls are escaped. -/
def escapeChar (c : Char) : List Char :=
  if c == '"' || c == '\\' then ['\\', c]
  else if c == '\n' then ['\\', 'n']
  else if c == '\r' then ['\\', 'r']
  else if c == '\t' then ['\\', 't']
  else if c.toNat == 8 then ['\\', 'b']
  else if c.toNat == 12 then ['\\', 'f']
  else if c < ' ' then
    ['\\', 'u', '0', '0', Nat.digitChar (c.toNat / 16), Nat.digitChar (c.toNat % 16)]
  else [c]

/-- A JSON string with its quotes. -/
def stringText (s : String) : String :=
  String.ofList ('"' :: s.toList.flatMap escapeChar ++ ['"'])

/-! ## Compact form -/

mutual

/-- The compact text of a value. -/
def compact : Json → String
  | .null => "null"
  | .bool b => if b then "true" else "false"
  | .num n => n.text
  | .str s => stringText s
  | .arr items => "[" ++ ",".intercalate (compactItems items) ++ "]"
  | .obj fields => "\x7b" ++ ",".intercalate (compactFields fields) ++ "\x7d"

def compactItems : List Json → List String
  | [] => []
  | item :: rest => compact item :: compactItems rest

def compactFields : List (String × Json) → List String
  | [] => []
  | (key, value) :: rest => (stringText key ++ ":" ++ compact value) :: compactFields rest

end

/-! ## Pretty form -/

/-- A new line, indented by `level` steps. -/
def newline (level : Nat) : String := "\n" ++ String.ofList (List.replicate (2 * level) ' ')

/-- A container that opens at `level` and holds the texts, each on a line of its own. -/
def block (level : Nat) (opening closing : String) (texts : List String) : String :=
  if texts.isEmpty then opening ++ closing
  else
    opening ++ newline (level + 1) ++ ("," ++ newline (level + 1)).intercalate texts
      ++ newline level ++ closing

def fieldText (key value : String) : String := stringText key ++ ": " ++ value

mutual

/-- The pretty text of a value that begins at `level`. -/
def prettyAt (level : Nat) : Json → String
  | .arr items => block level "[" "]" (prettyItems (level + 1) items)
  | .obj fields => block level "\x7b" "\x7d" (prettyFields (level + 1) fields)
  | .null => "null"
  | .bool b => if b then "true" else "false"
  | .num n => n.text
  | .str s => stringText s

def prettyItems (level : Nat) : List Json → List String
  | [] => []
  | item :: rest => prettyAt level item :: prettyItems level rest

def prettyFields (level : Nat) : List (String × Json) → List String
  | [] => []
  | (key, value) :: rest => fieldText key (prettyAt level value) :: prettyFields level rest

end

def pretty (j : Json) : String := prettyAt 0 j

end Json

/-! ## Encodings -/

/-- A value on its way out, with records in the order of their fields. -/
inductive Encoding where
  | value (j : Json)
  | list (items : List Encoding)
  | record (fields : List (String × Encoding))

namespace Encoding

def str (s : String) : Encoding := .value (.str s)

/-- A text, or null where there is none. -/
def option (s : Option String) : Encoding := .value (Json.ofOption s)

def bool (b : Bool) : Encoding := .value (.bool b)

mutual

def toJson : Encoding → Json
  | .value j => j
  | .list items => .arr (itemsToJson items)
  | .record fields => Json.ofFields (fieldsToJson fields)

def itemsToJson : List Encoding → List Json
  | [] => []
  | item :: rest => toJson item :: itemsToJson rest

def fieldsToJson : List (String × Encoding) → List (String × Json)
  | [] => []
  | (key, e) :: rest => (key, toJson e) :: fieldsToJson rest

end

mutual

def prettyAt (level : Nat) : Encoding → String
  | .value j => j.prettyAt level
  | .list items => Json.block level "[" "]" (prettyItems (level + 1) items)
  | .record fields => Json.block level "\x7b" "\x7d" (prettyFields (level + 1) fields)

def prettyItems (level : Nat) : List Encoding → List String
  | [] => []
  | item :: rest => prettyAt level item :: prettyItems level rest

def prettyFields (level : Nat) : List (String × Encoding) → List String
  | [] => []
  | (key, e) :: rest => Json.fieldText key (prettyAt level e) :: prettyFields level rest

end

def pretty (e : Encoding) : String := prettyAt 0 e

end Encoding

end PlayScaffold
