import PlayScaffold.Reading.Record
import PlayScaffold.Scheme.Basic

/-!
# Security schemes in JSON

A scheme is one object: its base fields, `type`, and the fields of the mechanism that `type`
selects.  Base fields are read in the order of the document; all other fields are kept until the
mechanism is known, and those it does not use are ignored.
-/

namespace PlayScaffold

open Json (Fault)

/-! ## Choices -/

namespace Reading

/-- Reads one of some named choices: its name, or an object with the name as its only key and
nothing at it. -/
def choice {α : Type} (nothing : Json → Bool) (choices : List α) (name : α → String) (j : Json) :
    Except ReadError α := do
  let pick (s : String) : Except ReadError α :=
    match choices.find? fun a => name a == s with
    | some a => .ok a
    | none => .error (.unknownVariant s (choices.map name))
  match j with
  | .str s => pick s
  | .obj [(key, inner)] =>
    let a ← pick key
    if nothing inner then return a else refuse inner "unit"
  | .obj _ => throw (.wrongValue .map "map with a single key")
  | _ => refuse j "string or map"

def isNull : Json → Bool
  | .null => true
  | _ => false

def isNullOrEmpty : Json → Bool
  | .null | .obj [] => true
  | _ => false

end Reading

/-! ## Scopes -/

namespace OAuthScope

def put {δ : Type} [Document δ] (s : OAuthScope) (name : String) (d : δ) :
    Except ReadError OAuthScope :=
  match name with
  | "name" => return { s with name := ← Reading.string d }
  | "description" => return { s with description := ← Reading.option Reading.string d }
  | _ => return s

def form {δ : Type} [Document δ] : RecordForm δ OAuthScope :=
  ⟨"OAuthScope", ["name", "description"], ["name"], ⟨"", none⟩, put, Reading.ignore⟩

def encode (s : OAuthScope) : Encoding :=
  .record [("name", .str s.name), ("description", .option s.description)]

end OAuthScope

/-! ## Mechanisms -/

namespace MechanismKind

/-- Reads the kind of a mechanism: its name or its number. -/
def read (j : Json) : Except ReadError MechanismKind :=
  match j with
  | .str s =>
    match all.find? fun kind => kind.name == s with
    | some kind => .ok kind
    | none => .error (.unknownVariant s (all.map name))
  | .num (.int n) =>
    if n < 0 then Reading.refuse j "variant identifier"
    else
      match all[n.toNat]? with
      | some kind => .ok kind
      | none => .error (.wrongValue (.number (.int n)) "variant index 0 <= i < 4")
  | _ => Reading.refuse j "variant identifier"

/-- Reads the kind of a mechanism among the fields of a scheme. -/
def ofFields : List (String × Json) → Except ReadError MechanismKind
  | [] => .error (.missingField "type")
  | (key, j) :: rest =>
    if key = "type" then do
      let kind ← read j
      if (rest.lookup "type").isSome then throw (.duplicateField "type")
      return kind
    else ofFields rest

/-- The names of a mechanism's fields, and those that have no default. -/
def fieldNames : MechanismKind → List String × List String
  | .apiKey => (["keyParamName", "location"], ["keyParamName", "location"])
  | .http => (["scheme", "bearerFormat"], ["scheme"])
  | .oauth2 => (["flow", "authorizationUrl", "tokenUrl", "refreshUrl"], [])
  | .openIdConnect => (["openIdConnectUrl"], ["openIdConnectUrl"])

/-- The mechanism before any field is read. -/
def initial : MechanismKind → Mechanism
  | .apiKey => .apiKey "" .query
  | .http => .http "" none
  | .oauth2 => .oauth2 none none none none
  | .openIdConnect => .openIdConnect ""

end MechanismKind

namespace Mechanism

def put (m : Mechanism) (name : String) (j : Json) : Except ReadError Mechanism :=
  match m, name with
  | .apiKey _ location, "keyParamName" => return .apiKey (← Reading.string j) location
  | .apiKey param _, "location" =>
    return .apiKey param
      (← Reading.choice Reading.isNullOrEmpty KeyLocation.all KeyLocation.name j)
  | .http _ format, "scheme" => return .http (← Reading.string j) format
  | .http scheme _, "bearerFormat" => return .http scheme (← Reading.option Reading.string j)
  | .oauth2 _ a t r, "flow" => return .oauth2 (← Reading.option Reading.string j) a t r
  | .oauth2 f _ t r, "authorizationUrl" =>
    return .oauth2 f (← Reading.option Reading.string j) t r
  | .oauth2 f a _ r, "tokenUrl" => return .oauth2 f a (← Reading.option Reading.string j) r
  | .oauth2 f a t _, "refreshUrl" => return .oauth2 f a t (← Reading.option Reading.string j)
  | .openIdConnect _, "openIdConnectUrl" => return .openIdConnect (← Reading.string j)
  | m, _ => return m

def form (kind : MechanismKind) : RecordForm Json Mechanism :=
  ⟨kind.name, kind.fieldNames.1, kind.fieldNames.2, kind.initial, put, Reading.ignore⟩

def ofFields (fields : List (String × Json)) : Except ReadError Mechanism := do
  let kind ← MechanismKind.ofFields fields
  (form kind).readObject (fields.map fun (k, v) => (.ok k, v)) (.ok ())

/-- The fields of a mechanism, its kind first. -/
def encodeFields : Mechanism → List (String × Encoding)
  | .apiKey param location =>
    [("type", .str "apiKey"), ("keyParamName", .str param), ("location", .str location.name)]
  | .http scheme format =>
    [("type", .str "http"), ("scheme", .str scheme), ("bearerFormat", .option format)]
  | .oauth2 flow authorizationUrl tokenUrl refreshUrl =>
    [("type", .str "oauth2"), ("flow", .option flow),
      ("authorizationUrl", .option authorizationUrl), ("tokenUrl", .option tokenUrl),
      ("refreshUrl", .option refreshUrl)]
  | .openIdConnect url => [("type", .str "openIdConnect"), ("openIdConnectUrl", .str url)]

end Mechanism

/-! ## Schemes -/

namespace SecurityScheme

/-- The base fields of a scheme, and all other fields as they are. -/
structure Parts where
  name : String := ""
  description : Option String := none
  scopes : List OAuthScope := []
  vendorExtensions : KeyMap Json := KeyMap.empty
  others : List (String × Json) := []

def Parts.put {δ : Type} [Document δ] (p : Parts) (name : String) (d : δ) :
    Except ReadError Parts :=
  match name with
  | "name" => return { p with name := ← Reading.string d }
  | "description" => return { p with description := ← Reading.option Reading.string d }
  | "scopes" => return { p with scopes := ← Reading.list OAuthScope.form.read d }
  | "vendorExtensions" => return { p with vendorExtensions := ← Reading.map d }
  | _ => return p

/-- The parts with one other field kept. -/
def Parts.keep {δ : Type} [Document δ] (p : Parts) (name : String) (d : δ) :
    Except ReadError Parts := do
  return { p with others := p.others ++ [(name, ← Reading.json d)] }

def Parts.form {δ : Type} [Document δ] : RecordForm δ Parts :=
  ⟨"SecurityScheme", ["name", "description", "scopes", "vendorExtensions"], ["name"], {},
    Parts.put, Parts.keep⟩

def ofParts (p : Parts) : Except ReadError SecurityScheme := do
  let mechanism ← Mechanism.ofFields p.others
  return ⟨p.name, p.description, mechanism, p.scopes, p.vendorExtensions⟩

/-- Reads a scheme; only an object can be one. -/
def read {δ : Type} [Document δ] (d : δ) : Except ReadError SecurityScheme :=
  match Document.shape d with
  | .object fields ending => do
    let parts ← Parts.form.readObject fields ending
    ofParts parts
  | _ => Reading.refuse d "struct SecurityScheme"

/-- The fields of a scheme, with those of its mechanism after the description. -/
def encodeFields (s : SecurityScheme) : List (String × Encoding) :=
  [("name", .str s.name), ("description", .option s.description)] ++ s.mechanism.encodeFields ++
    [("scopes", .list (s.scopes.map OAuthScope.encode)),
      ("vendorExtensions", .value (.object s.vendorExtensions))]

def encode (s : SecurityScheme) : Encoding := .record s.encodeFields

end SecurityScheme

end PlayScaffold
