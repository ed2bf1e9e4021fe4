import PlayScaffold.Error
import PlayScaffold.Template.Evaluation
import PlayScaffold.Template.Tree

/-!
# Rendering templates

The text of a template's nodes with a context.  A node that uses an expression without a value makes
the whole template fail.
-/

namespace PlayScaffold.Template

/-! ## Text of values -/

mutual

def valueText : Json → String
  | .null => ""
  | .bool b => if b then "true" else "false"
  | .num n => n.plainText
  | .str s => s
  | .arr items => "[" ++ ", ".intercalate (itemTexts items) ++ "]"
  | .obj _ => "[object]"

def itemTexts : List Json → List String
  | [] => []
  | item :: rest => valueText item :: itemTexts rest

end

/-- One character in text that is safe in markup. -/
def escapeChar (c : Char) : List Char :=
  match c with
  | '&' => "&amp;".toList
  | '<' => "&lt;".toList
  | '>' => "&gt;".toList
  | '"' => "&quot;".toList
  | '\'' => "&#x27;".toList
  | '/' => "&#x2F;".toList
  | c => [c]

/-- Is a text that an expression gives escaped in markup?  Texts that are put together are not. -/
def isEscaped : Expr → Bool
  | .path root keys => root != Scope.everything || !keys.isEmpty
  | .literal _ => true
  | _ => false

/-- A printed value; where a template makes markup, texts are escaped. -/
def printed (escaping : Bool) (j : Json) : String :=
  match escaping, j with
  | true, .str s => String.ofList (s.toList.flatMap escapeChar)
  | _, j => valueText j

/-! ## Loops -/

def isLoopable : Expr → Bool
  | .path _ _ | .list _ | .call _ => true
  | .filtered e _ => isLoopable e
  | _ => false

/-- The keys and values that a loop runs over: the items of a list or the characters of a text,
which have no keys, or the fields of an object, which have. -/
def loopItems? (withKeys : Bool) : Json → Option (List (String × Json))
  | .arr items => if withKeys then none else some (items.map fun item => ("", item))
  | .str s =>
    if withKeys then none
    else some (s.toList.map fun c => ("", .str (String.ofList [c])))
  | .obj fields => if withKeys then some fields else none
  | _ => none

def loopFrames? (key : Option String) (name : String) (value : Json) : Option (List Frame) := do
  let items ← loopItems? key.isSome value
  let count := items.length
  return items.mapIdx fun index (k, item) =>
    { key := key.map fun bound => (bound, k), name, value := item, index, count }

/-! ## Nodes -/

mutual

/-- The text of a node, unless it uses a value that it cannot. -/
def renderNode (escaping : Bool) (scope : Scope) : Node → Option String
  | .text s => some s
  | .print e => (e.value? scope).map (printed (escaping && isEscaped e))
  | .branch condition yes no => do
    if ← condition.holds? (condition.value? scope) then renderNodes escaping scope yes
    else renderNodes escaping scope no
  | .loop key name container body empty => do
    if !isLoopable container then none
    else
      let frames ← loopFrames? key name (← container.value? scope)
      if frames.isEmpty then renderNodes escaping scope empty
      else
        let texts ← frames.mapM fun frame =>
          renderNodes escaping { scope with frames := frame :: scope.frames } body
        return String.join texts

def renderNodes (escaping : Bool) (scope : Scope) : List Node → Option String
  | [] => some ""
  | node :: rest => do
    let text ← renderNode escaping scope node
    let later ← renderNodes escaping scope rest
    return text ++ later

end

/-- Does the template of an id make markup? -/
def isMarkup (id : String) : Bool :=
  [".html", ".htm", ".xml"].any fun ending => ending.toList.isSuffixOf id.toList

end PlayScaffold.Template

namespace PlayScaffold

/-! ## Sets of templates -/

abbrev TemplateSet := KeyMap (List Template.Node)

namespace TemplateSet

/-- Parses sources by their ids; of several sources for one id the last one counts. -/
def ofSources (sources : List (String × String)) : Except Error TemplateSet := do
  let parsed ← sources.mapM fun (id, source) =>
    match Template.parse? source with
    | some nodes => .ok (id, nodes)
    | none => .error (Error.unparsable id)
  return KeyMap.ofList parsed

def has (set : TemplateSet) (id : String) : Bool := (set.get? id).isSome

def render (set : TemplateSet) (id : String) (context : Template.Context) : Except Error String :=
  match set.get? id with
  | none => .error (.template ("Template '" ++ id ++ "' not found"))
  | some nodes =>
    match Template.renderNodes (Template.isMarkup id) { context } nodes with
    | some text => .ok text
    | none => .error (.unrenderable id)

end TemplateSet

end PlayScaffold
