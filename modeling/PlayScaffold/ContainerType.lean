import PlayScaffold.Text.Trim

/-!
# Container types

`List<T>`, `Set<T>` and `Map<K, V>` are containers around an element type.  Brackets are counted,
so that the element may be a container itself; only the outermost container is read.
-/

namespace PlayScaffold

open Text

inductive ContainerKind where
  | list
  | map
  | set
deriving Repr, DecidableEq

namespace ContainerKind

def name : ContainerKind → String
  | .list => "List"
  | .map => "Map"
  | .set => "Set"

def all : List ContainerKind := [.list, .map, .set]

def ofName? (s : String) : Option ContainerKind := all.find? (·.name == s)

/-- What follows the container's name and its opening bracket in a type that starts with them. -/
def body? (kind : ContainerKind) (type : List Char) : Option (List Char) :=
  let opening := kind.name.toList ++ ['<']
  if opening.isPrefixOf type then some (type.drop opening.length) else none

end ContainerKind

/-- A container with its element type, and its key type where it is a map. -/
structure ContainerType where
  kind : ContainerKind
  key : Option String
  element : String
deriving Repr, DecidableEq

namespace ContainerType

/-! ## Brackets -/

/-- The text before and after the bracket that closes the outermost of `depth` open ones. -/
def splitAtClose (depth : Nat) : List Char → Option (List Char × List Char)
  | [] => none
  | c :: rest =>
    if c = '>' ∧ depth - 1 = 0 then some ([], rest)
    else
      let inner := if c = '<' then depth + 1 else if c = '>' then depth - 1 else depth
      (splitAtClose inner rest).map fun (before, after) => (c :: before, after)

/-- The text before and after the first comma outside all brackets, `depth` of which are open. -/
def splitAtComma (depth : Nat) : List Char → Option (List Char × List Char)
  | [] => none
  | c :: rest =>
    if c = ',' ∧ depth = 0 then some ([], rest)
    else
      let inner := if c = '<' then depth + 1 else if c = '>' then depth - 1 else depth
      (splitAtComma inner rest).map fun (before, after) => (c :: before, after)

/-! ## Reading -/

/-- The container and the text between its brackets, if nothing but white space follows them. -/
def body? (type : List Char) : Option (ContainerKind × List Char) := do
  let type := trim type
  let (kind, rest) ← ContainerKind.all.findSome? fun kind => (kind.body? type).map (kind, ·)
  let (inner, after) ← splitAtClose 1 rest
  if (trim after).isEmpty then some (kind, inner) else none

/-- The container that the text between the brackets makes: a map needs a key and a value, the
others an element. -/
def ofBody? (kind : ContainerKind) (inner : List Char) : Option ContainerType :=
  match kind with
  | .map => do
    let (key, element) ← splitAtComma 0 inner
    let key := trim key
    let element := trim element
    if key.isEmpty || element.isEmpty then none
    else some ⟨kind, some (String.ofList key), String.ofList element⟩
  | .list | .set =>
    let element := trim inner
    if element.isEmpty then none else some ⟨kind, none, String.ofList element⟩

def parse? (type : String) : Option ContainerType := do
  let (kind, inner) ← body? type.toList
  ofBody? kind inner

/-- Does the type begin like a container, after leading white space? -/
def isOpened (type : String) : Bool :=
  ContainerKind.all.any fun kind => (kind.body? (trimStart type.toList)).isSome

end ContainerType

end PlayScaffold
