import PlayScaffold.Error
import PlayScaffold.Files
import PlayScaffold.Options.Basic
import PlayScaffold.Toml.Table
import PlayScaffold.Yaml.Node

/-!
# Options files

Options are read from a YAML, a TOML or a JSON file; the extension of its name says which.  In YAML
every scalar is a text as it is written; in TOML a text has quotes.  Entries of other names may hold
anything.
-/

namespace PlayScaffold

/-! ## YAML -/

namespace Yaml

/-- The truth value that a word stands for. -/
def boolean? (word : String) : Option Bool :=
  if ["true", "True", "TRUE"].contains word then some true
  else if ["false", "False", "FALSE"].contains word then some false
  else none

namespace Node

/-- The text of a scalar, whatever its tag. -/
def text? : Node → Option String
  | .scalar _ _ text => some text
  | _ => none

/-- Does a tag say that its scalar is something other than a truth value or a text?  Tags of one's
own begin with an exclamation mark, which alone says nothing. -/
def tagForbidsFlag (tag : String) : Bool :=
  (tag != "!" && tag.startsWith "!")
    || ["int", "float", "null"].any fun kind => tag == "tag:yaml.org,2002:" ++ kind

/-- The truth value of a scalar: a word, or a text that stands for one. -/
def flag? : Node → Option Bool
  | .scalar none _ text => Reading.flagOfText? text
  | .scalar (some tag) _ text =>
    if tagForbidsFlag tag then none
    else if tag = "tag:yaml.org,2002:bool" then boolean? text
    else Reading.flagOfText? text
  | _ => none

end Node

end Yaml

/-! ## TOML -/

namespace Toml.Item

def text? : Toml.Item → Option String
  | .value (.string s) => some s
  | _ => none

/-- A truth value, or a text that stands for one. -/
def flag? : Toml.Item → Option Bool
  | .value (.boolean b) => some b
  | .value (.string s) => Reading.flagOfText? s
  | _ => none

end Toml.Item

namespace Options

/-- The options that entries say, where they can be used. -/
def ofEntries? {α : Type} (text : α → Option String) (flag : α → Option Bool)
    (entries : List (String × α)) : Option Options :=
  entries.foldlM (fun o (name, a) => o.set (text a) (flag a) name) {}

/-- The options of a YAML document. -/
def ofYaml? : Option Yaml.Node → Option Options
  -- no scalar but the empty one stands for the defaults
  | none | some (.scalar _ true "") => some {}
  | some (.mapping entries) => do
    let entries ← entries.mapM fun (key, node) => return (← key.text?, node)
    -- a name that is no option's may come again
    if ((entries.map (·.1)).filter names.contains).Nodup then
      ofEntries? Yaml.Node.text? Yaml.Node.flag? entries
    else none
  | some _ => none

def ofToml? (entries : Toml.Entries) : Option Options :=
  ofEntries? Toml.Item.text? Toml.Item.flag? entries

/-! ## Files -/

inductive Format where
  | yaml
  | toml
  | json
deriving Repr, DecidableEq

/-- The format of a file, by the extension of its name in any case. -/
def Format.ofPath? (path : String) : Option Format :=
  match (Path.extension? path).map fun e => String.ofList (Text.lowerAscii e.toList) with
  | some "yaml" | some "yml" => some .yaml
  | some "toml" => some .toml
  | some "json" => some .json
  | _ => none

def ofText (format : Format) (text : String) : Except Error Options :=
  match format with
  | .yaml => ((Yaml.parse? text).bind ofYaml?).elim (.error .yaml) .ok
  | .toml => ((Toml.parse? text).bind ofToml?).elim (.error .toml) .ok
  | .json => Error.ofRead (Reading.ofText form.read text)

/-- The options of a file. -/
def ofFile (path : String) (contents : Contents) : Except Error Options :=
  -- the file is read before its name is looked at
  match contents.text with
  | .error fault =>
    .error (.config ("Failed to read generator options at " ++ path ++ ": " ++ fault.message))
  | .ok text =>
    match Format.ofPath? path with
    | some format => ofText format text
    | none => .error (.config ("Unsupported options file format: " ++ path))

end Options

end PlayScaffold
