import PlayScaffold.Json.Printer
import PlayScaffold.Options.Basic

/-!
# Artifacts

Which files a run writes and which template each of them comes from.  `Plan.assemble` depends on
nothing but the options: supporting files are written once a run, and the files of the planned
artifacts once for each API class.
-/

namespace PlayScaffold

/-- A file that is written once a run. -/
structure SupportingFile where
  template : String
  /-- the folder below the output root, empty for the root itself -/
  folder : String
  fileName : String
deriving Repr, DecidableEq

/-- Where the file is written, below the output root. -/
def SupportingFile.destination (f : SupportingFile) : String :=
  if f.folder = "" then f.fileName else f.folder ++ "/" ++ f.fileName

/-- What is written for each API class. -/
inductive ApiArtifact where
  /-- the controller that routes lead to -/
  | controller
  /-- the stub that a user fills in -/
  | implementation
  /-- the interface of the stub -/
  | interface
deriving Repr, DecidableEq

namespace ApiArtifact

def all : List ApiArtifact := [.controller, .implementation, .interface]

def name : ApiArtifact → String
  | .controller => "Controller"
  | .implementation => "Implementation"
  | .interface => "Interface"

def template : ApiArtifact → String
  | .controller => "newApiController.tera"
  | .implementation => "newApi.tera"
  | .interface => "newApiInterface.tera"

/-- What follows the class name in the file name of an artifact. -/
def suffix : ApiArtifact → String
  | .controller => "Controller.java"
  | .implementation => "ControllerImp.java"
  | .interface => "ControllerImpInterface.java"

end ApiArtifact

/-- A template and the file written from it. -/
structure Binding where
  template : String
  destination : String
  /-- the class that the file is written for, if it is written for one -/
  apiClass : Option String
deriving Repr, DecidableEq

def Binding.encode (b : Binding) : Encoding :=
  .record [("template", .str b.template), ("destination", .str b.destination),
    ("api_class", .option b.apiClass)]

/-- Everything that a run writes. -/
structure Plan where
  supportingFiles : List SupportingFile
  apiArtifacts : List ApiArtifact
  /-- the folder of the files of each class -/
  apiFolder : String
deriving Repr, DecidableEq

namespace Plan

/-- The folder of a package below the folder of the application. -/
def packageFolder (package : String) : String :=
  "app/" ++ String.ofList (package.toList.map fun c => if c = '.' then '/' else c)

def only {α : Type} (wanted : Bool) (file : α) : List α := if wanted then [file] else []

/-- The plan for the options. -/
def assemble (o : Options) : Plan :=
  -- interfaces belong to full generation only
  let withInterfaces := !o.controllerOnly && o.useInterfaces
  let apiFolder := packageFolder o.apiPackage
  { supportingFiles :=
      [⟨"README.tera", "", "README"⟩, ⟨"LICENSE.tera", "", "LICENSE"⟩,
        ⟨"build.tera", "", "build.sbt"⟩,
        ⟨"buildproperties.tera", "project", "build.properties"⟩,
        ⟨"plugins.tera", "project", "plugins.sbt"⟩,
        ⟨"logback.tera", "conf", "logback.xml"⟩,
        ⟨"application.tera", "conf", "application.conf"⟩,
        ⟨"routes.tera", "conf", "routes"⟩]
      ++ only withInterfaces ⟨"module.tera", "app", "Module.java"⟩
      ++ [⟨"openapiUtils.tera", "app/openapitools", "OpenAPIUtils.java"⟩,
        ⟨"securityApiUtils.tera", "app/openapitools", "SecurityAPIUtils.java"⟩]
      ++ only o.handleExceptions ⟨"errorHandler.tera", "app/openapitools", "ErrorHandler.java"⟩
      ++ only o.wrapCalls ⟨"apiCall.tera", "app/openapitools", "ApiCall.java"⟩
      ++ only o.useSwaggerUI ⟨"openapi.tera", "public", "openapi.json"⟩
      ++ only o.useSwaggerUI ⟨"apiDocController.tera", apiFolder, "ApiDocController.java"⟩
    apiArtifacts :=
      [.controller] ++ only (!o.controllerOnly) .implementation ++ only withInterfaces .interface
    apiFolder }

/-- Is the template that of a supporting file? -/
def hasSupportingFile (p : Plan) (template : String) : Bool :=
  p.supportingFiles.any (·.template == template)

def hasApiArtifact (p : Plan) (artifact : ApiArtifact) : Bool := p.apiArtifacts.contains artifact

def apiDestination (p : Plan) (artifact : ApiArtifact) (apiClass : String) : String :=
  p.apiFolder ++ "/" ++ apiClass ++ artifact.suffix

def supportingBinding (f : SupportingFile) : Binding := ⟨f.template, f.destination, none⟩

def classBinding (p : Plan) (apiClass : String) (artifact : ApiArtifact) : Binding :=
  ⟨artifact.template, p.apiDestination artifact apiClass, some apiClass⟩

/-- All bindings: those of the supporting files, then those of each class. -/
def bindings (p : Plan) (apiClasses : List String) : List Binding :=
  p.supportingFiles.map supportingBinding ++
    apiClasses.flatMap fun c => p.apiArtifacts.map (p.classBinding c)

end Plan

end PlayScaffold
