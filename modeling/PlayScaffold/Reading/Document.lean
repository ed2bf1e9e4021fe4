import PlayScaffold.Json.Draft
import PlayScaffold.Reading.Error
import PlayScaffold.Text.Trim

/-!
# Documents and their shapes

A typed reader looks at a document one level at a time.  `Document` says what it sees, for JSON
values and for the drafts of JSON texts alike; the readers of texts, truth values, lists and maps
are written once for both.
-/

namespace PlayScaffold

open Json (Fault Number Draft Ending)

/-- One level of a document. -/
inductive Shape (δ : Type) where
  | null
  | bool (b : Bool)
  | number (n : Number)
  | string (s : String)
  | list (items : List δ) (ending : Except Fault Unit)
  | object (fields : List (Except Fault String × δ)) (ending : Except Fault Unit)
  | broken (f : Fault)

/-- What typed data can be read from. -/
class Document (δ : Type) where
  /-- the outermost level -/
  shape : δ → Shape δ
  /-- the whole value -/
  json : δ → Except Fault Json
  /-- the fault met by passing over the document -/
  skip : δ → Except Fault Unit

instance : Document Json where
  shape
    | .null => .null
    | .bool b => .bool b
    | .num n => .number n
    | .str s => .string s
    | .arr items => .list items (.ok ())
    | .obj fields => .object (fields.map fun (k, v) => (.ok k, v)) (.ok ())
  json := .ok
  skip _ := .ok ()

instance : Document Draft where
  shape
    | .null => .null
    | .bool b => .bool b
    | .number (.ok n) => .number n
    | .number (.error f) => .broken f
    | .text (.ok s) => .string s
    | .text (.error f) => .broken f
    | .list _ items ending => .list items ending.read
    | .object _ fields ending => .object fields ending.read
    | .broken b => .broken b.reading
  json := Draft.json
  skip := Draft.skip

/-- What a level is, in a message that wanted something else; a fault comes first. -/
def Shape.found {δ : Type} : Shape δ → Except Fault Found
  | .null => .ok .null
  | .bool b => .ok (.bool b)
  | .number n => .ok (.number n)
  | .string s => .ok (.string s)
  | .list _ _ => .ok .sequence
  | .object _ _ => .ok .map
  | .broken f => .error f

/-- The result of a step that can only meet faults. -/
def ReadError.ofFault {α : Type} : Except Fault α → Except ReadError α
  | .ok a => .ok a
  | .error f => .error (.fault f)

namespace Reading

variable {δ : Type} [Document δ] {α : Type}

def refuse (d : δ) (wanted : String) : Except ReadError α :=
  match (Document.shape d).found with
  | .ok found => .error (.wrongType found wanted)
  | .error f => .error (.fault f)

def json (d : δ) : Except ReadError Json := ReadError.ofFault (Document.json d)

def skip (d : δ) : Except ReadError Unit := ReadError.ofFault (Document.skip d)

def string (d : δ) : Except ReadError String :=
  match Document.shape d with
  | .string s => .ok s
  | _ => refuse d "a string"

def bool (d : δ) : Except ReadError Bool :=
  match Document.shape d with
  | .bool b => .ok b
  | _ => refuse d "a boolean"

/-- A value, or nothing where the document is null. -/
def option (read : δ → Except ReadError α) (d : δ) : Except ReadError (Option α) :=
  match Document.shape d with
  | .null => .ok none
  | _ => some <$> read d

def list (read : δ → Except ReadError α) (d : δ) : Except ReadError (List α) :=
  match Document.shape d with
  | .list items ending => do
    let values ← items.mapM read
    ReadError.ofFault ending
    return values
  | _ => refuse d "a sequence"

def entries : List (Except Fault String × δ) → Except ReadError (List (String × Json))
  | [] => .ok []
  | (key, d) :: rest => do
    let key ← ReadError.ofFault key
    let j ← json d
    let later ← entries rest
    return (key, j) :: later

def map (d : δ) : Except ReadError (KeyMap Json) :=
  match Document.shape d with
  | .object fields ending => do
    let values ← entries fields
    ReadError.ofFault ending
    return KeyMap.ofList values
  | _ => refuse d "a map"

/-- The truth value that a text stands for, whatever its case and the white space around it. -/
def flagOfText? (s : String) : Option Bool :=
  let word := String.ofList (Text.lowerAscii (Text.trim s.toList))
  if word = "true" then some true else if word = "false" then some false else none

/-- A truth value, or a text that stands for one. -/
def flag (d : δ) : Except ReadError Bool := do
  match ← json d with
  | .bool b => return b
  | .str s =>
    match flagOfText? s with
    | some b => return b
    | none => throw (.notBoolean s)
  | _ => throw .noFlag

end Reading

end PlayScaffold
