import PlayScaffold.Reading.Document

/-!
# Records

A record is read from an object, in the order of its fields there, or from a list of its fields in
the order of their declaration.  Fields that are not given keep their defaults unless they are
required; most records ignore fields of other names.
-/

namespace PlayScaffold

open Json (Fault)

/-- How a record of type `α` is read from documents of type `δ`. -/
structure RecordForm (δ α : Type) where
  /-- the name of the record in messages -/
  name : String
  /-- its fields in the order of declaration -/
  fields : List String
  /-- the fields that have no default -/
  required : List String
  /-- the record before any field is read -/
  initial : α
  /-- the record with one more field -/
  put : α → String → δ → Except ReadError α
  /-- the record after a field of another name -/
  other : α → String → δ → Except ReadError α

/-- Passes over a field, which changes nothing. -/
def Reading.ignore {δ α : Type} [Document δ] (record : α) (_ : String) (d : δ) :
    Except ReadError α := do
  Reading.skip d
  return record

namespace RecordForm

variable {δ : Type} [Document δ] {α : Type}

/-- Reads fields one after the other; `seen` are the names read so far. -/
def readFields (form : RecordForm δ α) (seen : List String) (record : α) :
    List (Except Fault String × δ) → Except ReadError (α × List String)
  | [] => .ok (record, seen)
  | (key, d) :: rest => do
    let key ← ReadError.ofFault key
    if form.fields.contains key then
      if seen.contains key then throw (.duplicateField key)
      let record ← form.put record key d
      form.readFields (key :: seen) record rest
    else
      let record ← form.other record key d
      form.readFields seen record rest

/-- Refuses a record that lacks a required field. -/
def checkRequired (form : RecordForm δ α) (seen : List String) : Except ReadError Unit :=
  match form.required.find? fun name => !seen.contains name with
  | some name => .error (.missingField name)
  | none => .ok ()

/-- Reads the fields in the order of declaration, and gives the items left. -/
def readItems (form : RecordForm δ α) (ending : Except Fault Unit) (count : Nat) (record : α) :
    List String → List δ → Except ReadError (α × List δ)
  | [], items => .ok (record, items)
  | name :: names, d :: items => do
    let record ← form.put record name d
    form.readItems ending (count + 1) record names items
  | name :: names, [] => do
    ReadError.ofFault ending
    if form.required.contains name then
      throw (.tooShort count form.name form.fields.length)
    form.readItems ending (count + 1) record names []

def readObject (form : RecordForm δ α) (fields : List (Except Fault String × δ))
    (ending : Except Fault Unit) : Except ReadError α := do
  let (record, seen) ← form.readFields [] form.initial fields
  ReadError.ofFault ending
  form.checkRequired seen
  return record

def readList (form : RecordForm δ α) (items : List δ) (ending : Except Fault Unit) :
    Except ReadError α := do
  let (record, left) ← form.readItems ending 0 form.initial form.fields items
  if !left.isEmpty then throw (.surplus items.length)
  ReadError.ofFault ending
  return record

def read (form : RecordForm δ α) (d : δ) : Except ReadError α :=
  match Document.shape d with
  | .object fields ending => form.readObject fields ending
  | .list items ending => form.readList items ending
  | _ => Reading.refuse d ("struct " ++ form.name)

end RecordForm

namespace Reading

variable {α : Type}

/-- Reads typed data from a JSON text. -/
def ofText (read : Json.Draft → Except ReadError α) (text : String) : Except ReadError α := do
  let (draft, rest) := Json.Draft.parse text
  let value ← read draft
  ReadError.ofFault (Json.Draft.checkEnd rest)
  return value

end Reading

end PlayScaffold
