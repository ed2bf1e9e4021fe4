import PlayScaffold.Bundle
import PlayScaffold.Template.Render

/-!
# Rendering a bundle

Every template sees the global context: the options, the operations by class, the schemes and the
API description.  A template of a class also sees the class and its own operations.  `renderBundle`
renders all bindings of a bundle in their order and stops at the first error; the context of a class
is made once.
-/

namespace PlayScaffold

open Template (Context)

/-! ## Contexts -/

def generatorName : String := "java-play-framework"

def generatorType : String := "server"

/-- What the generator does, for lists of generators. -/
def generatorHelp : String := "Generates a Java Play Framework Server application."

/-- The types that stand for types of the API description. -/
def typeMappings : List (String × String) :=
  [("date", "LocalDate"), ("DateTime", "OffsetDateTime"), ("file", "InputStream")]

/-- The imports that the mapped types need. -/
def importMappings : List (String × String) :=
  [("LocalDate", "java.time.LocalDate"), ("OffsetDateTime", "java.time.OffsetDateTime"),
    ("InputStream", "java.io.InputStream")]

def tableJson (table : List (String × String)) : Json :=
  Json.ofFields (table.map fun (key, text) => (key, .str text))

namespace Bundle

def operationsJson (b : Bundle) (apiClass : String) : Json :=
  .arr ((b.operationsFor apiClass).map Operation.toJson)

def apisJson (b : Bundle) : Json :=
  .arr (b.apiClasses.map fun c =>
    Json.ofFields [("classname", .str c), ("operations", b.operationsJson c)])

/-- The pretty text of the API description, or of an empty object. -/
def documentText (b : Bundle) : String :=
  match b.document with
  | some document => document.pretty
  | none => "\x7b\x7d"

/-- What every template sees. -/
def globalContext (b : Bundle) : Context :=
  let context := b.options.templateProperties
  let context := context.insert "generatorName" (.str generatorName)
  let context := context.insert "generatorType" (.str generatorType)
  let context := context.insert "apis" b.apisJson
  let context := context.insert "authMethods" (.arr (b.securitySchemes.map (·.encode.toJson)))
  let context := context.insert "hasAuthMethods" (.bool (!b.securitySchemes.isEmpty))
  let context := context.insert "typeMapping" (tableJson typeMappings)
  let context := context.insert "importMapping" (tableJson importMappings)
  context.insert "openapiJson" (.str b.documentText)

/-- What a template of a class sees. -/
def classContext (b : Bundle) (global : Context) (apiClass : String) : Context :=
  (global.insert "classname" (.str apiClass)).insert "operations" (b.operationsJson apiClass)

end Bundle

/-! ## Artifacts -/

structure RenderedArtifact where
  template : String
  path : String
  content : String
deriving Repr, DecidableEq

/-- How far a rendering has come. -/
structure Rendering where
  /-- the contexts made for classes so far -/
  classContexts : KeyMap Context := .empty
  artifacts : List RenderedArtifact := []

/-- What the template of a binding sees, and the contexts to keep: that of a class is made where the
class is met first, and taken again later. -/
def Bundle.keptContext (b : Bundle) (global : Context) (made : KeyMap Context)
    (binding : Binding) : Context × KeyMap Context :=
  match binding.apiClass with
  | none => (global, made)
  | some c =>
    match made.get? c with
    | some context => (context, made)
    | none =>
      let context := b.classContext global c
      (context, made.insert c context)

/-- Renders one more binding; `render` gives the text of a template with a context. -/
def Bundle.renderNext (b : Bundle) (global : Context)
    (render : String → Context → Except Error String) (soFar : Rendering) (binding : Binding) :
    Except Error Rendering := do
  let seen := b.keptContext global soFar.classContexts binding
  let content ← render binding.template seen.1
  let artifact : RenderedArtifact := ⟨binding.template, binding.destination, content⟩
  return { classContexts := seen.2, artifacts := soFar.artifacts ++ [artifact] }

/-- Renders all bindings in order. -/
def renderBundle (b : Bundle) (render : String → Context → Except Error String) :
    Except Error (List RenderedArtifact) := do
  let done ← b.bindings.foldlM (b.renderNext b.globalContext render) {}
  return done.artifacts

end PlayScaffold
