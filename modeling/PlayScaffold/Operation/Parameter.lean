import PlayScaffold.Json.Printer
import PlayScaffold.Reading.Record

/-!
# Parameters

A parameter of an operation, and its form in JSON.
-/

namespace PlayScaffold

structure Parameter where
  /-- its name in the API description -/
  baseName : String := ""
  /-- the name of the method argument -/
  paramName : String := ""
  /-- the type of the method argument -/
  dataType : String := ""
  description : Option String := none
  required : Bool := false
  isFormParam : Bool := false
  isFile : Bool := false
  isPathParam : Bool := false
  isQueryParam : Bool := false
  isHeaderParam : Bool := false
  isBodyParam : Bool := false
  vendorExtensions : KeyMap Json := KeyMap.empty

namespace Parameter

instance : Inhabited Parameter := ⟨{}⟩

/-- Is it a form field that carries a file? -/
def isUpload (p : Parameter) : Bool := p.isFormParam && p.isFile

/-! ## JSON -/

def fieldNames : List String :=
  ["baseName", "paramName", "dataType", "description", "required", "isFormParam", "isFile",
    "isPathParam", "isQueryParam", "isHeaderParam", "isBodyParam", "vendorExtensions"]

def put {δ : Type} [Document δ] (p : Parameter) (name : String) (d : δ) :
    Except ReadError Parameter :=
  match name with
  | "baseName" => return { p with baseName := ← Reading.string d }
  | "paramName" => return { p with paramName := ← Reading.string d }
  | "dataType" => return { p with dataType := ← Reading.string d }
  | "description" => return { p with description := ← Reading.option Reading.string d }
  | "required" => return { p with required := ← Reading.bool d }
  | "isFormParam" => return { p with isFormParam := ← Reading.bool d }
  | "isFile" => return { p with isFile := ← Reading.bool d }
  | "isPathParam" => return { p with isPathParam := ← Reading.bool d }
  | "isQueryParam" => return { p with isQueryParam := ← Reading.bool d }
  | "isHeaderParam" => return { p with isHeaderParam := ← Reading.bool d }
  | "isBodyParam" => return { p with isBodyParam := ← Reading.bool d }
  | "vendorExtensions" => return { p with vendorExtensions := ← Reading.map d }
  | _ => return p

/-- How a parameter is read: every field has a default. -/
def form {δ : Type} [Document δ] : RecordForm δ Parameter :=
  ⟨"Parameter", fieldNames, [], {}, put, Reading.ignore⟩

def encode (p : Parameter) : Encoding :=
  .record [
    ("baseName", .str p.baseName), ("paramName", .str p.paramName), ("dataType", .str p.dataType),
    ("description", .option p.description), ("required", .bool p.required),
    ("isFormParam", .bool p.isFormParam), ("isFile", .bool p.isFile),
    ("isPathParam", .bool p.isPathParam), ("isQueryParam", .bool p.isQueryParam),
    ("isHeaderParam", .bool p.isHeaderParam), ("isBodyParam", .bool p.isBodyParam),
    ("vendorExtensions", .value (.object p.vendorExtensions))]

end Parameter

end PlayScaffold
