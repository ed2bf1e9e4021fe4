import PlayScaffold.Yaml.Token

/-!
# YAML nodes

The tree of a document.  An alias is the node of its anchor; a node that is left out is the empty
scalar.
-/

namespace PlayScaffold.Yaml

inductive Node where
  /-- a scalar with its tag, if it has one; it is plain if it has neither quotes nor an indicator -/
  | scalar (tag : Option String) (isPlain : Bool) (text : String)
  | sequence (items : List Node)
  | mapping (entries : List (Node × Node))

namespace Node

instance : Inhabited Node := ⟨.scalar none true ""⟩

/-- The node that is left out. -/
def empty : Node := .scalar none true ""

/-- The state of reading: the tokens left, and the nodes of the anchors met so far. -/
structure Reader where
  tokens : List Token
  anchors : List (String × Node) := []
  /-- what the handles of tags stand for -/
  handles : List (String × String) := [("!", "!"), ("!!", "tag:yaml.org,2002:")]

/-- Reads from tokens, unless they do not fit. -/
abbrev Read (α : Type) := StateT Reader Option α

def peek : Read (Option Token) := return (← get).tokens.head?

def skip : Read Unit := modify fun r => { r with tokens := r.tokens.tail }

def skipIf (t : Token) : Read Bool := do
  if (← peek) == some t then
    skip
    return true
  else return false

def expect (t : Token) : Read Unit := do
  if !(← skipIf t) then failure

/-- Is the next token one of the given ones, or is there none? -/
def meets (ts : List Token) : Read Bool := do
  match ← peek with
  | some t => return ts.contains t
  | none => return true

/-- The properties in front of a node: its anchor and its tag, each at most once. -/
def properties : Read (Option String × Option String) := do
  match ← peek with
  | some (.anchor name) =>
    skip
    match ← peek with
    | some (.tag handle suffix) => return (some name, some (← resolve handle suffix))
    | _ => return (some name, none)
  | some (.tag handle suffix) =>
    let tag ← resolve handle suffix
    match ← peek with
    | some (.anchor name) =>
      skip
      return (some name, some tag)
    | _ => return (none, some tag)
  | _ => return (none, none)
where
  /-- The tag of a handle that is declared. -/
  resolve (handle suffix : String) : Read String := do
    skip
    if handle = "" then return suffix
    match (← get).handles.lookup handle with
    | some meaning => return meaning ++ suffix
    | none => failure

/-- Gives the node of an anchor its name. -/
def register (anchor : Option String) (node : Node) : Read Unit :=
  match anchor with
  | some name => modify fun r => { r with anchors := (name, node) :: r.anchors }
  | none => return

/-- Reads a node that ends up as a collection; inside it the anchor stands for an empty one. -/
def collection (anchor : Option String) (read : Read Node) : Read Node := do
  register anchor (.sequence [])
  let node ← read
  register anchor node
  return node

mutual

/-- A node.  Collections without brackets are read where `inBlock` holds, and a sequence that is
not indented where `indentless` holds as well. -/
def node (inBlock indentless : Bool) : Nat → Read Node
  | 0 => failure
  | fuel + 1 => do
    if let some (.alias name) ← peek then
      skip
      match (← get).anchors.lookup name with
      | some node => return node
      | none => failure
    let (anchor, tag) ← properties
    match ← peek with
    | some (.scalar isPlain text) =>
      skip
      let node := .scalar tag isPlain text
      register anchor node
      return node
    | some .openSequence =>
      skip
      collection anchor (do return .sequence (← flowItems true fuel))
    | some .openMapping =>
      skip
      collection anchor (do return .mapping (← flowEntries true fuel))
    | t =>
      if indentless && t == some .blockEntry then
        collection anchor (do return .sequence (← indentlessItems fuel))
      else if inBlock && t == some .blockSequence then
        skip
        collection anchor (do return .sequence (← blockItems fuel))
      else if inBlock && t == some .blockMapping then
        skip
        collection anchor (do return .mapping (← blockEntries fuel))
      else if anchor.isSome || tag.isSome then
        let node := .scalar tag true ""
        register anchor node
        return node
      else failure

def blockItems : Nat → Read (List Node)
  | 0 => failure
  | fuel + 1 => do
    if ← skipIf .blockEntry then
      let item ←
        if ← meets [.blockEntry, .blockEnd] then pure empty else node true false fuel
      return item :: (← blockItems fuel)
    expect .blockEnd
    return []

/-- The items of a sequence that stands at the indentation of its key. -/
def indentlessItems : Nat → Read (List Node)
  | 0 => failure
  | fuel + 1 => do
    if ← skipIf .blockEntry then
      let item ←
        if ← meets [.blockEntry, .key, .value, .blockEnd] then pure empty
        else node true false fuel
      return item :: (← indentlessItems fuel)
    return []

def blockEntries : Nat → Read (List (Node × Node))
  | 0 => failure
  | fuel + 1 => do
    if ← skipIf .key then
      let key ← if ← meets [.key, .value, .blockEnd] then pure empty else node true true fuel
      let value ←
        if ← skipIf .value then
          if ← meets [.key, .value, .blockEnd] then pure empty else node true true fuel
        else pure empty
      return (key, value) :: (← blockEntries fuel)
    expect .blockEnd
    return []

/-- The items of a sequence in brackets, with a comma before each but the first. -/
def flowItems (first : Bool) : Nat → Read (List Node)
  | 0 => failure
  | fuel + 1 => do
    if ← skipIf .closeSequence then return []
    if !first then
      expect .flowEntry
      if ← skipIf .closeSequence then return []
    if ← skipIf .key then
      let key ←
        if ← meets [.value, .flowEntry, .closeSequence] then
          -- a key that is left out takes the token after its question mark with it
          skip
          pure empty
        else node false false fuel
      let value ← flowValue .closeSequence fuel
      return .mapping [(key, value)] :: (← flowItems false fuel)
    let item ← node false false fuel
    return item :: (← flowItems false fuel)

/-- The entries of a mapping in brackets, with a comma before each but the first. -/
def flowEntries (first : Bool) : Nat → Read (List (Node × Node))
  | 0 => failure
  | fuel + 1 => do
    if ← skipIf .closeMapping then return []
    if !first then
      expect .flowEntry
      if ← skipIf .closeMapping then return []
    if ← skipIf .key then
      let key ←
        if ← meets [.value, .flowEntry, .closeMapping] then pure empty
        else node false false fuel
      let value ← flowValue .closeMapping fuel
      return (key, value) :: (← flowEntries false fuel)
    let key ← node false false fuel
    return (key, empty) :: (← flowEntries false fuel)

/-- The value after a key in brackets, which may be left out. -/
def flowValue (close : Token) : Nat → Read Node
  | 0 => failure
  | fuel + 1 => do
    if ← skipIf .value then
      if ← meets [.flowEntry, close] then return empty else node false false fuel
    else return empty

end

/-! ## Documents -/

/-- The directives in front of a document: a version at most once, and each handle at most once. -/
def directives (seenVersion : Bool) (seen : List String) : Nat → Read Unit
  | 0 => failure
  | fuel + 1 => do
    match ← peek with
    | some (.versionDirective known) =>
      if seenVersion || !known then failure
      skip
      directives true seen fuel
    | some (.tagDirective handle meaning) =>
      if seen.contains handle then failure
      skip
      modify fun r => { r with handles := (handle, meaning) :: r.handles }
      directives seenVersion (handle :: seen) fuel
    | _ => return

/-- The only document of a text, if there is one. -/
def document (fuel : Nat) : Read (Option Node) := do
  if (← peek).isNone then return none
  let node ← match ← peek with
    | some (.versionDirective _) | some (.tagDirective ..) | some .documentStart => do
      directives false [] fuel
      expect .documentStart
      if ← meets [.documentStart, .documentEnd] then pure empty
      else
        match ← peek with
        | some (.versionDirective _) | some (.tagDirective ..) => pure empty
        | _ => node true false fuel
    | some .documentEnd => failure
    | _ => node true false fuel
  modify fun r => { r with tokens := r.tokens.dropWhile (· == .documentEnd) }
  if (← peek).isSome then failure
  return some node

end Node

/-- The document of a YAML text, if the text is well formed and has no more than one. -/
def parse? (text : String) : Option (Option Node) := do
  let tokens ← scan? text
  let (node, _) ← (Node.document (2 * tokens.length + 2)).run { tokens }
  return node

end PlayScaffold.Yaml
