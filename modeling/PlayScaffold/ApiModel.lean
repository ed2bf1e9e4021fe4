import PlayScaffold.Operation.Form

/-!
# API models

What is known of an API: its operations, its security schemes and, verbatim, its description.
-/

namespace PlayScaffold

structure ApiModel where
  operations : List Operation := []
  securitySchemes : List SecurityScheme := []
  /-- the API description, for the route that serves it -/
  document : Option Json := none

namespace ApiModel

def put {δ : Type} [Document δ] (m : ApiModel) (name : String) (d : δ) :
    Except ReadError ApiModel :=
  match name with
  | "operations" => return { m with operations := ← Reading.list Operation.read d }
  | "securitySchemes" => return { m with securitySchemes := ← Reading.list SecurityScheme.read d }
  | "document" => return { m with document := ← Reading.option Reading.json d }
  | _ => return m

/-- How a model is read: every field has a default. -/
def form {δ : Type} [Document δ] : RecordForm δ ApiModel :=
  ⟨"ApiIr", ["operations", "securitySchemes", "document"], [], {}, put, Reading.ignore⟩

def ofJson (j : Json) : Except ReadError ApiModel := form.read j

def ofText (text : String) : Except ReadError ApiModel := Reading.ofText form.read text

/-- The same model over parameter records of its own. -/
def copy (m : ApiModel) : ApiModel := { m with operations := m.operations.map Operation.copy }

end ApiModel

end PlayScaffold
