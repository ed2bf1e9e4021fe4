import PlayScaffold.Operation.Basic

/-!
# Operations in JSON

An operation is written with all its fields.  The derived ones are not read back, and the two lists
of parameters are read as separate lists and linked by name.
-/

namespace PlayScaffold

namespace SecurityRequirement

def put {δ : Type} [Document δ] (r : SecurityRequirement) (name : String) (d : δ) :
    Except ReadError SecurityRequirement :=
  match name with
  | "scheme" => return { r with scheme := ← Reading.string d }
  | "scopes" => return { r with scopes := ← Reading.list Reading.string d }
  | _ => return r

def form {δ : Type} [Document δ] : RecordForm δ SecurityRequirement :=
  ⟨"SecurityRequirement", ["scheme", "scopes"], ["scheme"], {}, put, Reading.ignore⟩

def encode (r : SecurityRequirement) : Encoding :=
  .record [("scheme", .str r.scheme), ("scopes", .list (r.scopes.map .str))]

end SecurityRequirement

/-- The fields of an operation that are read, with its two lists of parameters apart. -/
structure OperationRecord where
  operationId : String := ""
  httpMethod : String := ""
  path : String := ""
  baseName : String := ""
  summary : Option String := none
  notes : Option String := none
  allParams : List Parameter := []
  formParams : List Parameter := []
  returnType : Option String := none
  security : List SecurityRequirement := []
  vendorExtensions : KeyMap Json := KeyMap.empty

namespace OperationRecord

def fieldNames : List String :=
  ["operationId", "httpMethod", "path", "baseName", "summary", "notes", "allParams", "formParams",
    "returnType", "security", "vendorExtensions"]

def put {δ : Type} [Document δ] (r : OperationRecord) (name : String) (d : δ) :
    Except ReadError OperationRecord :=
  match name with
  | "operationId" => return { r with operationId := ← Reading.string d }
  | "httpMethod" => return { r with httpMethod := ← Reading.string d }
  | "path" => return { r with path := ← Reading.string d }
  | "baseName" => return { r with baseName := ← Reading.string d }
  | "summary" => return { r with summary := ← Reading.option Reading.string d }
  | "notes" => return { r with notes := ← Reading.option Reading.string d }
  | "allParams" => return { r with allParams := ← Reading.list Parameter.form.read d }
  | "formParams" => return { r with formParams := ← Reading.list Parameter.form.read d }
  | "returnType" => return { r with returnType := ← Reading.option Reading.string d }
  | "security" => return { r with security := ← Reading.list SecurityRequirement.form.read d }
  | "vendorExtensions" => return { r with vendorExtensions := ← Reading.map d }
  | _ => return r

/-- How the record is read: every field has a default. -/
def form {δ : Type} [Document δ] : RecordForm δ OperationRecord :=
  ⟨"OperationRecord", fieldNames, [], {}, put, Reading.ignore⟩

/-- The operation of a record, with its parameters linked and nothing derived yet. -/
def toOperation (r : OperationRecord) : Operation where
  operationId := r.operationId
  httpMethod := r.httpMethod
  path := r.path
  baseName := r.baseName
  summary := r.summary
  notes := r.notes
  params := .ofValues r.allParams r.formParams
  returnType := r.returnType
  security := r.security
  vendorExtensions := r.vendorExtensions

end OperationRecord

namespace Operation

def read {δ : Type} [Document δ] (d : δ) : Except ReadError Operation :=
  OperationRecord.toOperation <$> OperationRecord.form.read d

def encode (op : Operation) : Encoding :=
  .record [
    ("operationId", .str op.operationId), ("httpMethod", .str op.httpMethod),
    ("path", .str op.path), ("baseName", .str op.baseName), ("summary", .option op.summary),
    ("notes", .option op.notes),
    ("allParams", .list ((op.params.values .all).map Parameter.encode)),
    ("formParams", .list ((op.params.values .form).map Parameter.encode)),
    ("returnType", .option op.returnType),
    ("returnContainer", .option (op.returnContainer.map ContainerKind.name)),
    ("returnTypeIsPrimitive", .bool op.returnTypeIsPrimitive),
    ("security", .list (op.security.map SecurityRequirement.encode)),
    ("authMethods", .list (op.authMethods.map DecoratedScheme.encode)),
    ("vendorExtensions", .value (.object op.vendorExtensions))]

def toJson (op : Operation) : Json := op.encode.toJson

end Operation

end PlayScaffold
