import PlayScaffold.ApiModel
import PlayScaffold.Artifact
import PlayScaffold.Operation.Passes

/-!
# Bundles

A run takes a model through all passes: every operation is transformed, every scheme decorated, and
then the schemes of each operation are looked up.  The result, with the plan of the files to write,
is a bundle.
-/

namespace PlayScaffold

/-- A transformed model and the plan of a run. -/
structure Bundle where
  options : Options
  operations : List Operation
  securitySchemes : List DecoratedScheme
  plan : Plan
  document : Option Json

namespace Bundle

/-! ## The run -/

/-- Decorates the schemes and looks up those of each operation. -/
def secure (operations : List (Logged Operation)) (schemes : List SecurityScheme) :
    Logged (List Operation × List DecoratedScheme) := do
  let operations ← operations.mapM id
  let schemes ← schemes.mapM DecoratedScheme.decorate
  let operations ← operations.mapM (Operation.resolve schemes)
  return (operations, schemes)

/-- Takes a model through all passes; the first operation without a proper route ends the run. -/
def run (options : Options) (primitives : List String) (model : ApiModel) :
    Except Error (Logged Bundle) := do
  let operations ← model.operations.mapM (Operation.transform primitives)
  return do
    let (operations, securitySchemes) ← secure operations model.securitySchemes
    return {
      options
      operations
      securitySchemes
      plan := Plan.assemble options
      document := model.document }

/-! ## Classes -/

/-- The classes of a list of operations, each once, in ascending order. -/
def classesOf (operations : List Operation) : List String :=
  (KeyMap.ofList (operations.map fun op => (op.apiClass, ()))).keys

def apiClasses (b : Bundle) : List String := classesOf b.operations

def operationsFor (b : Bundle) (apiClass : String) : List Operation :=
  b.operations.filter (·.apiClass == apiClass)

def bindings (b : Bundle) : List Binding := b.plan.bindings b.apiClasses

/-! ## Writing -/

def encode (b : Bundle) : Encoding :=
  .record [
    ("operations", .list (b.operations.map Operation.encode)),
    ("securitySchemes", .list (b.securitySchemes.map DecoratedScheme.encode)),
    ("artifacts", .list (b.bindings.map Binding.encode))]

end Bundle

end PlayScaffold
