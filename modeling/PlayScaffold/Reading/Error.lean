import PlayScaffold.Json.Numeral
import PlayScaffold.Text.Quoted

/-!
# Reading errors

Why a document cannot be read as typed data: its text has a fault, or its values have the wrong
shape.  `ReadError.message` is the wording for values, `ReadError.category` sorts the errors of a
text.
-/

namespace PlayScaffold

open Json (Fault Number)

/-- What stands where something else is wanted. -/
inductive Found where
  | null
  | bool (b : Bool)
  | number (n : Number)
  | string (s : String)
  | sequence
  | map
deriving DecidableEq

def Found.text : Found → String
  | .null => "null"
  | .bool b => "boolean \x60" ++ (if b then "true" else "false") ++ "\x60"
  | .number (.int n) => "integer \x60" ++ toString n ++ "\x60"
  | .number (.real d) => "floating point \x60" ++ (Number.real d).text ++ "\x60"
  | .string s => "string " ++ Text.quote s
  | .sequence => "sequence"
  | .map => "map"

inductive ReadError where
  /-- the text has a fault -/
  | fault (f : Fault)
  /-- a value of another type is wanted -/
  | wrongType (found : Found) (wanted : String)
  /-- a value of the right type is not among those allowed -/
  | wrongValue (found : Found) (wanted : String)
  /-- a name is not one of the choices -/
  | unknownVariant (name : String) (choices : List String)
  /-- a record lacks a field -/
  | missingField (name : String)
  /-- a record has a field twice -/
  | duplicateField (name : String)
  /-- a record written as a list ends before a required field -/
  | tooShort (length : Nat) (record : String) (fields : Nat)
  /-- a record written as a list goes on after its last field -/
  | surplus (length : Nat)
  /-- a text is no truth value -/
  | notBoolean (text : String)
  /-- a value is neither a truth value nor a text -/
  | noFlag
deriving DecidableEq

namespace ReadError

def tick (s : String) : String := "\x60" ++ s ++ "\x60"

def message : ReadError → String
  | .fault .truncated => "unexpected end of text"
  | .fault .malformed => "malformed text"
  | .wrongType found wanted => "invalid type: " ++ found.text ++ ", expected " ++ wanted
  | .wrongValue found wanted => "invalid value: " ++ found.text ++ ", expected " ++ wanted
  | .unknownVariant name choices =>
    "unknown variant " ++ tick name ++ ", expected one of " ++ ", ".intercalate (choices.map tick)
  | .missingField name => "missing field " ++ tick name
  | .duplicateField name => "duplicate field " ++ tick name
  | .tooShort length record fields =>
    "invalid length " ++ toString length ++ ", expected struct " ++ record ++ " with "
      ++ toString fields ++ " elements"
  | .surplus length =>
    "invalid length " ++ toString length ++ ", expected fewer elements in array"
  | .notBoolean text => "Expected a boolean, got '" ++ text ++ "'"
  | .noFlag => "Expected a boolean or a \"true\"/\"false\" string"

/-- The kinds of errors that a text can have. -/
inductive Category where
  /-- the text ends too early -/
  | eof
  /-- the text is no document -/
  | syntactic
  /-- the document has the wrong shape -/
  | data
deriving Repr, DecidableEq

def Category.name : Category → String
  | .eof => "eof"
  | .syntactic => "syntax"
  | .data => "data"

/-- The category of an error of a text.  Items after the last field of a record are a fault of the
text: there the list has to end. -/
def category : ReadError → Category
  | .fault .truncated => .eof
  | .fault .malformed | .surplus _ => .syntactic
  | _ => .data

end ReadError

end PlayScaffold
