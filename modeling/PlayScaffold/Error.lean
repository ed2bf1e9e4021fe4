import PlayScaffold.Reading.Error

/-!
# Errors

Everything that ends a run.  What can be worked around is a warning instead.
-/

namespace PlayScaffold

/-- Why a run ends early. -/
inductive Error where
  /-- the placeholders of a route are unbalanced, nested, empty or nameless -/
  | malformedPath (operationId path reason : String)
  /-- an options file is not YAML, or holds an unusable value -/
  | yaml
  /-- an options file is not TOML, or holds an unusable value -/
  | toml
  /-- JSON cannot be read as what is wanted -/
  | json (cause : ReadError)
  /-- a template is missing or cannot be used -/
  | template (detail : String)
  /-- a template's source cannot be parsed -/
  | unparsable (id : String)
  /-- a template cannot be rendered with its context -/
  | unrenderable (id : String)
  /-- generator options that cannot be used -/
  | config (detail : String)
deriving DecidableEq

def Error.message : Error → String
  | .malformedPath operationId path reason =>
    "Malformed path '" ++ path ++ "' in operation '" ++ operationId ++ "': " ++ reason
  | .yaml => "Invalid YAML"
  | .toml => "Invalid TOML"
  | .json cause => "Invalid JSON: " ++ cause.message
  | .template detail => "Template error: " ++ detail
  | .unparsable id => "Tera error: Failed to parse '" ++ id ++ "'"
  | .unrenderable id => "Tera error: Failed to render '" ++ id ++ "'"
  | .config detail => "Invalid generator options: " ++ detail

/-- The result of a reader as the result of a run. -/
def Error.ofRead {α : Type} : Except ReadError α → Except Error α
  | .ok a => .ok a
  | .error cause => .error (.json cause)

end PlayScaffold
