import PlayScaffold.Operation.Basic
import PlayScaffold.Route

/-!
# Passes over an operation

`Operation.transform` writes the route in route syntax and takes the return type and the uploads
apart; `Operation.resolve` looks up the schemes that guard the operation.
-/

namespace PlayScaffold

/-! ## Types -/

def multipartFileType : String := "Http.MultipartFormData.FilePart<TemporaryFile>"

/-- The extension that holds an example of the returned value. -/
def returnExampleExtension : String := "x-missing-return-info-if-needed"

def defaultPrimitives : List String :=
  ["Boolean", "Double", "Float", "Integer", "Long", "Object", "String", "boolean", "byte[]"]

/-- Is the type primitive?  No type at all is. -/
def isPrimitive (primitives : List String) (type : Option String) : Bool :=
  match type with
  | none => true
  | some name => primitives.contains name

/-- An example for return types that templates cannot make one up for. -/
def returnExample? (type : Option String) : Option String :=
  match type with
  | some "Boolean" => some "true"
  | some "BigDecimal" => some "1.0"
  | _ => none

namespace ParameterLists

def asUpload (p : Parameter) : Parameter := { p with dataType := multipartFileType }

/-- The lists with the type of every uploaded file set: of the form fields among all parameters
that are files, and of the files in the form. -/
def substituteUploads (ls : ParameterLists) : ParameterLists :=
  let walked := ls.all.foldl
    (fun acc i => acc.editRecord i fun p => if p.isUpload then asUpload p else p) ls
  ls.form.foldl (fun acc i => acc.editRecord i fun p => if p.isFile then asUpload p else p) walked

end ParameterLists

namespace Operation

/-- The operation with an example of its return type, where the type has one. -/
def annotate (op : Operation) : Operation :=
  match returnExample? op.returnType with
  | some text =>
    { op with vendorExtensions := op.vendorExtensions.insert returnExampleExtension (.str text) }
  | none => op

/-- The operation with its return type taken out of its container. -/
def unwrap (op : Operation) : Logged Operation :=
  match op.returnType with
  | none => return { op with returnContainer := none }
  | some type =>
    match ContainerType.parse? type with
    | some container =>
      return { op with
        returnContainer := some container.kind
        returnType := some container.element }
    | none => do
      -- what begins like a container and is none is kept, but not in silence
      if ContainerType.isOpened type then Logged.warn (.unparsedContainer op.operationId type)
      return op

/-- The operation with its return type and its uploads simplified. -/
def simplify (primitives : List String) (op : Operation) : Logged Operation := do
  let op ← op.annotate.unwrap
  return { op with
    returnTypeIsPrimitive := isPrimitive primitives op.returnType
    params := op.params.substituteUploads }

/-! ## Transformation -/

/-- The operation with its route in route syntax, simplified. -/
def transform (primitives : List String) (op : Operation) : Except Error (Logged Operation) := do
  let path ← Route.normalize op.operationId op.path
  return simplify primitives { op with path }

/-! ## Security -/

/-- The scheme that a requirement asks for: the first of its name, narrowed to the scopes that are
asked for if it is an OAuth scheme and any are. -/
def schemeFor? (schemes : List DecoratedScheme) (r : SecurityRequirement) :
    Option DecoratedScheme :=
  (schemes.find? fun s => s.base.name == r.scheme).map fun s =>
    if s.base.isOAuth && !r.scopes.isEmpty then s.filterByScopes r.scopes else s

/-- The schemes for a list of requirements. -/
def authMethodsFor (operationId : String) (schemes : List DecoratedScheme) :
    List SecurityRequirement → Logged (List DecoratedScheme)
  | [] => return []
  | r :: rest =>
    match schemeFor? schemes r with
    | some s => do
      let later ← authMethodsFor operationId schemes rest
      return s :: later
    | none => do
      -- a scheme that is not declared is left out
      Logged.warn (.undeclaredScheme operationId r.scheme)
      authMethodsFor operationId schemes rest

/-- The operation with the schemes that guard it. -/
def resolve (schemes : List DecoratedScheme) (op : Operation) : Logged Operation := do
  let authMethods ← authMethodsFor op.operationId schemes op.security
  return { op with authMethods }

end Operation

end PlayScaffold
