import PlayScaffold.ContainerType
import PlayScaffold.Identifier
import PlayScaffold.Operation.ParameterLists
import PlayScaffold.Scheme.Decorated

/-!
# Operations

An endpoint of the API: its route, parameters, return type and the security it asks for.  The
derived fields (the return type's container, whether it is primitive, the schemes that guard the
operation) are filled in by the passes over the model.
-/

namespace PlayScaffold

/-- A scheme that an operation asks for, with the scopes it needs. -/
structure SecurityRequirement where
  scheme : String := ""
  scopes : List String := []
deriving Repr, DecidableEq

/-- An endpoint of the API. -/
structure Operation where
  operationId : String := ""
  httpMethod : String := ""
  path : String := ""
  /-- the group of operations that it belongs to -/
  baseName : String := ""
  summary : Option String := none
  notes : Option String := none
  params : ParameterLists := .empty
  returnType : Option String := none
  returnContainer : Option ContainerKind := none
  returnTypeIsPrimitive : Bool := false
  security : List SecurityRequirement := []
  /-- the schemes that guard it -/
  authMethods : List DecoratedScheme := []
  vendorExtensions : KeyMap Json := KeyMap.empty

namespace Operation

instance : Inhabited Operation := ⟨{}⟩

/-! ## Building -/

/-- An operation with nothing but its route. -/
def new (operationId httpMethod path : String) : Operation := { operationId, httpMethod, path }

def withParam (op : Operation) (p : Parameter) : Operation := { op with params := op.params.add p }

def withReturnType (op : Operation) (type : String) : Operation :=
  { op with returnType := some type }

/-- The operation in a group. -/
def withBaseName (op : Operation) (name : String) : Operation := { op with baseName := name }

def withSecurity (op : Operation) (scheme : String) (scopes : List String) : Operation :=
  { op with security := op.security ++ [⟨scheme, scopes⟩] }

/-- The same operation over parameter records of its own. -/
def copy (op : Operation) : Operation := { op with params := op.params.copy }

/-! ## Classes -/

/-- The class of operations without a group. -/
def defaultClass : String := "Default"

/-- The name of the class that holds the operation. -/
def apiClass (op : Operation) : String :=
  let name := Identifier.properCase op.baseName
  if name = "" then defaultClass else name

end Operation

end PlayScaffold
