import PlayScaffold.Template.Tag

/-!
# Trees of templates

The tags of a template, nested: every block that is opened is closed.  A condition has at most one
`else`; of several in a loop the last one counts.
-/

namespace PlayScaffold.Template

inductive Node where
  | text (s : String)
  | print (e : Expr)
  | branch (condition : Expr) (yes no : List Node)
  | loop (key : Option String) (name : String) (container : Expr) (body empty : List Node)

namespace Node

instance : Inhabited Node := ⟨.text ""⟩

mutual

/-- The nodes in front of a tag that closes or divides a block, and the tags from there on.  Every
step takes fuel, and two for each tag and one more are enough. -/
def ofTags? : Nat → List Tag → Option (List Node × List Tag)
  | 0, _ => none
  | _, [] => some ([], [])
  | fuel + 1, tag :: rest => do
    match tag with
    | .text cs =>
      let (later, behind) ← ofTags? fuel rest
      return (.text (String.ofList cs) :: later, behind)
    | .trim | .comment => ofTags? fuel rest
    | .print e =>
      let (later, behind) ← ofTags? fuel rest
      return (.print e :: later, behind)
    | .openIf condition =>
      let (node, behind) ← branch? fuel condition rest
      let (later, behind) ← ofTags? fuel behind
      return (node :: later, behind)
    | .openFor key name container =>
      let (body, behind) ← ofTags? fuel rest
      let (empty, behind) ← lastAlternative? fuel [] behind
      let (later, behind) ← ofTags? fuel behind
      return (.loop key name container body empty :: later, behind)
    | .elseIf _ | .otherwise | .closeIf | .closeFor => return ([], tag :: rest)

/-- The node of a condition up to its end. -/
def branch? (fuel : Nat) (condition : Expr) (tags : List Tag) : Option (Node × List Tag) :=
  match fuel with
  | 0 => none
  | fuel + 1 => do
    let (yes, behind) ← ofTags? fuel tags
    match behind with
    | .elseIf other :: behind =>
      let (no, behind) ← branch? fuel other behind
      return (.branch condition yes [no], behind)
    | .otherwise :: behind =>
      let (no, .closeIf :: behind) ← ofTags? fuel behind | none
      return (.branch condition yes no, behind)
    | .closeIf :: behind => return (.branch condition yes [], behind)
    | _ => none

/-- The nodes after the last `else` of a loop, up to its end. -/
def lastAlternative? (fuel : Nat) (nodes : List Node) (tags : List Tag) :
    Option (List Node × List Tag) :=
  match fuel, tags with
  | _, .closeFor :: behind => some (nodes, behind)
  | fuel + 1, .otherwise :: behind => do
    let (nodes, behind) ← ofTags? fuel behind
    lastAlternative? fuel nodes behind
  | _, _ => none

end

end Node

/-- The nodes of a template's source, if it is well formed. -/
def parse? (source : String) : Option (List Node) := do
  let cs := source.toList
  let tags ← Tag.scan? (cs.length + 1) cs
  match ← Node.ofTags? (2 * tags.length + 1) tags with
  | (nodes, []) => return nodes
  | _ => none

end PlayScaffold.Template
