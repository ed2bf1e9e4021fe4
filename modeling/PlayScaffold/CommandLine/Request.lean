/-!
# Requests

A command line names a command and then its switches, each with a value.  `Request.parse` says what
is asked for: a command, some help, the version, or nothing that can be done.
-/

namespace PlayScaffold

inductive Verb where
  /-- show which files are written from which templates -/
  | plan
  /-- transform a model -/
  | transform
  /-- transform a model and render it -/
  | render
deriving Repr, DecidableEq

structure Switch where
  name : String
  /-- what stands for its value in the help -/
  placeholder : String
  summary : String
  isRequired : Bool := false
  /-- it may be given more than once -/
  isRepeatable : Bool := false
  /-- its value may be empty -/
  allowsEmpty : Bool := false
deriving Repr, DecidableEq

namespace Switch

def config : Switch := ⟨"config", "CONFIG", "Generator options file (YAML, TOML or JSON)",
  false, false, false⟩

def model : Switch := ⟨"ir", "IR", "Parser output (JSON)", true, false, false⟩

def templates : Switch := ⟨"templates", "TEMPLATES", "Directory holding the templates",
  true, false, false⟩

/-- A class that files are planned for. -/
def apiClass : Switch := ⟨"api-class", "API_CLASSES",
  "API classes to expand per-class templates for", false, true, true⟩

end Switch

namespace Verb

def all : List Verb := [.plan, .transform, .render]

def name : Verb → String
  | .plan => "plan"
  | .transform => "transform"
  | .render => "render"

def summary : Verb → String
  | .plan => "Print the template-to-output bindings selected by the generator options"
  | .transform => "Transform a parsed API model and print the result as JSON"
  | .render => "Transform a parsed API model and render it with a template directory"

def switches : Verb → List Switch
  | .plan => [.config, .apiClass]
  | .transform => [.model, .config]
  | .render => [.model, .templates, .config]

def ofName? (name : String) : Option Verb := all.find? (·.name == name)

end Verb

/-- What a command line asks for. -/
inductive Request where
  | plan (config : Option String) (apiClasses : List String)
  | transform (model : String) (config : Option String)
  | render (model templates : String) (config : Option String)
  /-- help on all commands or on one -/
  | help (verb : Option Verb)
  | version
deriving Repr, DecidableEq

namespace Request

/-! ## Switches -/

/-- Why the reading of switches ends before the end of the line. -/
inductive Stop where
  | misuse
  | help
deriving Repr, DecidableEq

/-- The switches read so far. -/
structure Line where
  /-- their names and values -/
  given : List (String × String) := []
  /-- the switch whose value comes next -/
  pending : Option Switch := none
  /-- two dashes have been met: no switch comes any more -/
  isClosed : Bool := false

def Line.give (l : Line) (s : Switch) (value : String) : Except Stop Line :=
  if (value = "" && !s.allowsEmpty) || (!s.isRepeatable && l.given.any (·.1 == s.name)) then
    .error .misuse
  else .ok { l with given := l.given ++ [(s.name, value)], pending := none }

/-- A word that begins with dashes: the name after them, and its value if it has one. -/
def longSwitch (cs : List Char) : String × Option String :=
  (String.ofList (cs.takeWhile (· != '=')),
    match cs.dropWhile (· != '=') with
    | [] => none
    | _ :: value => some (String.ofList value))

def Line.read (verb : Verb) (l : Line) (word : String) : Except Stop Line :=
  if l.isClosed then .error .misuse
  else
    match l.pending, word.toList with
    | some _, '-' :: _ :: _ => .error .misuse
    | some s, _ => l.give s word
    | none, ['-', '-'] => .ok { l with isClosed := true }
    | none, '-' :: '-' :: cs =>
      match longSwitch cs with
      | ("help", none) => .error .help
      | (name, value) =>
        match verb.switches.find? (·.name == name), value with
        | some s, some value => l.give s value
        | some s, none => .ok { l with pending := some s }
        | none, _ => .error .misuse
    | none, '-' :: 'h' :: _ => .error .help
    | none, _ => .error .misuse

/-- The switches of a command in a list of words, where none that is required is left out. -/
def switches (verb : Verb) (words : List String) : Except Stop Line := do
  let l ← words.foldlM (Line.read verb) {}
  if l.pending.isSome || verb.switches.any fun s =>
      s.isRequired && !l.given.any (·.1 == s.name) then
    throw .misuse
  return l

/-! ## Requests -/

def ofLine (verb : Verb) (l : Line) : Request :=
  let config := l.given.lookup Switch.config.name
  let value (s : Switch) := (l.given.lookup s.name).getD ""
  match verb with
  | .plan => .plan config ((l.given.filter (·.1 == Switch.apiClass.name)).map (·.2))
  | .transform => .transform (value .model) config
  | .render => .render (value .model) (value .templates) config

/-- The request of a command line, if it is used rightly. -/
def parse? : List String → Option Request
  | [] => none
  | ["help"] | ["help", "help"] => some (.help none)
  | ["help", name] => (Verb.ofName? name).map fun verb => .help (some verb)
  | word :: words =>
    match Verb.ofName? word with
    | some verb =>
      match switches verb words with
      | .ok l => some (ofLine verb l)
      | .error .help => some (.help (some verb))
      | .error .misuse => none
    | none =>
      match word.toList with
      | '-' :: 'h' :: _ => some (.help none)
      | '-' :: 'V' :: _ => some .version
      | _ =>
        if word = "--help" then some (.help none)
        else if word = "--version" then some .version
        else none

end Request

end PlayScaffold
