import PlayScaffold.CommandLine.Request
import PlayScaffold.Options.File
import PlayScaffold.Rendering
import PlayScaffold.Template.Directory

/-!
# Outcomes

A command reads its options first, then its model, then its templates; it prints its result once
everything has succeeded.  `Request.run` gives the text that it prints, or what it was doing when it
failed and why.
-/

namespace PlayScaffold

/-! ## Failures -/

/-- What a command was doing when it failed, and why it did. -/
inductive Failure where
  | loadingOptions (path : String) (cause : Error)
  | readingModel (path : String) (cause : FileFault)
  | parsingModel (cause : ReadError)
  | transforming (cause : Error)
  /-- the name of the templates' directory is no pattern -/
  | findingTemplates (directory : String)
  | loadingTemplates (cause : Error)
  | rendering (cause : Error)
deriving DecidableEq

namespace Failure

/-- What the command was doing. -/
def context? : Failure → Option String
  | .loadingOptions path _ => some ("Failed to load generator options from " ++ path)
  | .readingModel path _ => some ("Failed to read API model from " ++ path)
  | .parsingModel _ => some "Failed to parse API model"
  | .transforming _ => some "Failed to transform API model"
  -- a name that is no pattern stops the command without a report
  | .findingTemplates _ => none
  | .loadingTemplates _ => some "Failed to load templates"
  | .rendering _ => some "Failed to render templates"

def exitCode : Failure → Nat
  | .findingTemplates _ => 101
  | _ => 1

/-- The error behind a failure, if it is one of the library's own. -/
def error? : Failure → Option Error
  | .loadingOptions _ e | .transforming e | .loadingTemplates e | .rendering e => some e
  | .readingModel _ _ | .parsingModel _ | .findingTemplates _ => none

def cause : Failure → String
  | .loadingOptions _ e | .transforming e | .loadingTemplates e | .rendering e => e.message
  | .readingModel _ fault => fault.message
  | .parsingModel e => e.message
  | .findingTemplates directory => "No pattern: " ++ directory

end Failure

/-! ## Help -/

namespace Request

def programName : String := "playgen"

def versionText : String := programName ++ " 0.1.0\n"

/-- Two columns, the first one as wide as its widest text. -/
def columns (rows : List (String × String)) : List String :=
  let width := (rows.map fun row => row.1.length).foldl max 0
  rows.map fun (left, right) =>
    left ++ String.ofList (List.replicate (width + 2 - left.length) ' ') ++ right

/-- A switch with the place of its value. -/
def usageOfSwitch (s : Switch) : String := "--" ++ s.name ++ " <" ++ s.placeholder ++ ">"

def verbHelp (verb : Verb) : List String :=
  let required := (verb.switches.filter (·.isRequired)).map usageOfSwitch
  [verb.summary, "",
    " ".intercalate (["Usage:", programName, verb.name, "[OPTIONS]"] ++ required), "",
    "Options:"]
  ++ columns (verb.switches.map (fun s => ("      " ++ usageOfSwitch s, s.summary))
    ++ [("  -h, --help", "Print help")])

def generalHelp : List String :=
  [generatorHelp, "", "Usage: " ++ programName ++ " <COMMAND>", "", "Commands:"]
  ++ columns (Verb.all.map (fun verb => ("  " ++ verb.name, verb.summary))
    ++ [("  help", "Print this message or the help of the given subcommand(s)")])
  ++ ["", "Options:"]
  ++ columns [("  -h, --help", "Print help"), ("  -V, --version", "Print version")]

/-! ## Commands -/

def unlines (lines : List String) : String := String.join (lines.map (· ++ "\n"))

section

variable {m : Type → Type} [Monad m]

/-- A step of a command that may fail. -/
abbrev Step (m : Type → Type) (α : Type) := ExceptT Failure m α

/-- A step that has a result already; `failure` says what its error stops. -/
def conclude {ε α : Type} (failure : ε → Failure) (result : Except ε α) : Step m α :=
  match result with
  | .ok a => return a
  | .error e => throw (failure e)

/-- The options of a file, or the defaults where none is named. -/
def loadOptions (files : Files m) : Option String → Step m Options
  | none => return {}
  | some path => do
    let contents ← (files.read path : m Contents)
    conclude (.loadingOptions path) (Options.ofFile path contents)

def loadModel (files : Files m) (path : String) : Step m ApiModel := do
  let contents ← (files.read path : m Contents)
  let text ← conclude (.readingModel path) contents.text
  conclude .parsingModel (ApiModel.ofText text)

def loadBundle (files : Files m) (model : String) (config : Option String) : Step m Bundle := do
  let options ← loadOptions files config
  let model ← loadModel files model
  let run ← conclude .transforming (Bundle.run options defaultPrimitives model)
  return run.value

def loadTemplates (files : Files m) (directory : String) : Step m TemplateSet := do
  match PathPattern.ofDirectory? directory with
  | none => throw (.findingTemplates directory)
  | some pattern =>
    let found ← (files.below pattern.base : m (List (String × Contents)))
    conclude .loadingTemplates (TemplateSet.ofFiles (found.filter fun file => pattern.fits file.1))

/-- The text that a request prints. -/
def run (files : Files m) : Request → Step m String
  | .plan config apiClasses => do
    let options ← loadOptions files config
    return unlines (((Plan.assemble options).bindings apiClasses).map fun b =>
      b.template ++ " -> " ++ b.destination)
  | .transform model config => do
    let bundle ← loadBundle files model config
    return unlines [bundle.encode.pretty]
  | .render model templates config => do
    let bundle ← loadBundle files model config
    let set ← loadTemplates files templates
    let artifacts ← conclude .rendering (renderBundle bundle set.render)
    return unlines (artifacts.map fun a =>
      a.path ++ " (" ++ toString a.content.utf8ByteSize ++ " bytes)")
  | .help none => return unlines generalHelp
  | .help (some verb) => return unlines (verbHelp verb)
  | .version => return versionText

end

end Request

end PlayScaffold
