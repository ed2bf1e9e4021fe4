/-!
# Warnings

A run goes on after a finding that can be worked around, and notes a warning.  `Logged` is a value
together with the warnings noted on the way to it, in order.
-/

namespace PlayScaffold

/-- A finding that does not end a run. -/
inductive Warning where
  /-- a return type begins like a container but is none -/
  | unparsedContainer (operationId returnType : String)
  /-- an operation asks for a scheme that is not declared -/
  | undeclaredScheme (operationId scheme : String)
  /-- an extension that should hold a text holds something else -/
  | ignoredExtension (scheme extension value : String)
deriving Repr, DecidableEq

namespace Warning

def message : Warning → String
  | .unparsedContainer _ _ => "Could not parse container return type; leaving it as is"
  | .undeclaredScheme _ _ => "Operation references an undeclared security scheme"
  | .ignoredExtension _ _ _ => "Ignoring non-string security extension"

/-- What a warning is about, by the names of its parts. -/
def details : Warning → List (String × String)
  | .unparsedContainer operationId returnType =>
    [("operation_id", operationId), ("return_type", returnType)]
  | .undeclaredScheme operationId scheme => [("operation_id", operationId), ("scheme", scheme)]
  | .ignoredExtension scheme extension value =>
    [("scheme", scheme), ("extension", extension), ("value", value)]

end Warning

/-- A value and the warnings noted on the way to it. -/
structure Logged (α : Type) where
  value : α
  warnings : List Warning := []

namespace Logged

instance : Monad Logged where
  pure a := ⟨a, []⟩
  bind x f := ⟨(f x.value).value, x.warnings ++ (f x.value).warnings⟩

def warn (w : Warning) : Logged Unit := ⟨(), [w]⟩

end Logged

end PlayScaffold
