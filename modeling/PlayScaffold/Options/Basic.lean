import PlayScaffold.Json.Printer
import PlayScaffold.Reading.Record

/-!
# Generator options

What a user decides about the generated application: names, packages and seven flags.  Options not
given keep their defaults; a flag may be given as a text.

A run takes the options as they were read.  The one record `Options` stands for what a document
gives and for what the plan, the supporting files and the templates see: there is no second record
for the latter, and no step between the two, since such a step would copy every field to a field
of the same name and the same type.
-/

namespace PlayScaffold

/-- The options of a generation run. -/
structure Options where
  /-- the title of the server -/
  title : String := "openapi-java-playframework"
  /-- the package of the generated configuration -/
  configPackage : String := "org.openapitools.configuration"
  /-- the package above all generated code -/
  basePackage : String := "org.openapitools"
  /-- the package of the generated controllers -/
  apiPackage : String := "controllers"
  /-- the package of the generated models -/
  modelPackage : String := "apimodels"
  /-- controllers only, without stubs to implement -/
  controllerOnly : Bool := false
  /-- stubs implement an interface -/
  useInterfaces : Bool := true
  /-- a central error handler -/
  handleExceptions : Bool := true
  /-- a wrapper around every call of a controller -/
  wrapCalls : Bool := true
  /-- a route that serves the API description -/
  useSwaggerUI : Bool := true
  /-- asynchronous signatures -/
  supportAsync : Bool := false
  /-- validation constraints on models and parameters -/
  useBeanValidation : Bool := true
deriving Repr, DecidableEq

namespace Options

instance : Inhabited Options := ⟨{}⟩

/-! ## Reading -/

def names : List String :=
  ["title", "configPackage", "basePackage", "apiPackage", "modelPackage", "controllerOnly",
    "useInterfaces", "handleExceptions", "wrapCalls", "useSwaggerUI", "supportAsync",
    "useBeanValidation"]

/-- The options with one of them read: a name or package as `text` reads it, a flag as `flag`
reads it. -/
def set {m : Type → Type} [Monad m] (text : m String) (flag : m Bool) (o : Options)
    (name : String) : m Options :=
  match name with
  | "title" => return { o with title := ← text }
  | "configPackage" => return { o with configPackage := ← text }
  | "basePackage" => return { o with basePackage := ← text }
  | "apiPackage" => return { o with apiPackage := ← text }
  | "modelPackage" => return { o with modelPackage := ← text }
  | "controllerOnly" => return { o with controllerOnly := ← flag }
  | "useInterfaces" => return { o with useInterfaces := ← flag }
  | "handleExceptions" => return { o with handleExceptions := ← flag }
  | "wrapCalls" => return { o with wrapCalls := ← flag }
  | "useSwaggerUI" => return { o with useSwaggerUI := ← flag }
  | "supportAsync" => return { o with supportAsync := ← flag }
  | "useBeanValidation" => return { o with useBeanValidation := ← flag }
  | _ => return o

def form {δ : Type} [Document δ] : RecordForm δ Options :=
  ⟨"GeneratorOptions", names, [], {},
    fun o name d => o.set (Reading.string d) (Reading.flag d) name, Reading.ignore⟩

def ofProperties (properties : KeyMap Json) : Except ReadError Options :=
  form.read (Json.object properties)

/-! ## Writing -/

def properties (o : Options) : List (String × Json) :=
  [("title", .str o.title), ("configPackage", .str o.configPackage),
    ("basePackage", .str o.basePackage), ("apiPackage", .str o.apiPackage),
    ("modelPackage", .str o.modelPackage), ("controllerOnly", .bool o.controllerOnly),
    ("useInterfaces", .bool o.useInterfaces), ("handleExceptions", .bool o.handleExceptions),
    ("wrapCalls", .bool o.wrapCalls), ("useSwaggerUI", .bool o.useSwaggerUI),
    ("supportAsync", .bool o.supportAsync), ("useBeanValidation", .bool o.useBeanValidation)]

/-- The properties that every run has, whatever its options. -/
def toolchain : List (String × Json) :=
  [("java8", .bool true), ("javaVersion", .str "1.8"), ("jdk8", .str "true")]

/-- The properties that templates see. -/
def templateProperties (o : Options) : KeyMap Json := KeyMap.ofList (o.properties ++ toolchain)

end Options

end PlayScaffold
