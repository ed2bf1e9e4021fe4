import PlayScaffold.Json.Printer
import PlayScaffold.Template.Expr

/-!
# Variables of templates

A template is rendered with a context, a map of JSON values.  Inside a loop its variables hide those
outside, unless a path leads nowhere in them.
-/

namespace PlayScaffold.Template

/-- The values that a template is rendered with. -/
abbrev Context := KeyMap Json

/-- A step of a loop. -/
structure Frame where
  /-- the variable for the key, in a loop over an object -/
  key : Option (String × String) := none
  name : String
  value : Json
  index : Nat
  count : Nat

/-- What can be seen at a place in a template: the loops around it from the inside out, and the
context. -/
structure Scope where
  frames : List Frame := []
  context : Context

/-! ## Paths -/

/-- The number of a list's item, written without needless zeros. -/
def itemIndex? (key : String) : Option Nat :=
  match key.toList with
  | [] => none
  | cs =>
    if cs.all Char.isDigit && (cs == ['0'] || cs.head? != some '0') then
      some (cs.foldl (fun n d => 10 * n + (d.toNat - '0'.toNat)) 0)
    else none

def field? (j : Json) (key : String) : Option Json :=
  match j with
  | .obj fields => fields.lookup key
  | .arr items => (itemIndex? key).bind fun i => items[i]?
  | _ => none

def descend? (j : Json) (keys : List String) : Option Json := keys.foldlM field? j

namespace Frame

/-- What every loop knows about its step. -/
def progress? (f : Frame) : List String → Option Json
  | ["index"] => some (.num (.int (f.index + 1)))
  | ["index0"] => some (.num (.int f.index))
  | ["first"] => some (.bool (f.index == 0))
  | ["last"] => some (.bool (f.index + 1 == f.count))
  | _ => none

def bindings (f : Frame) : List (String × Json) :=
  (f.name, f.value) :: (f.key.map fun (name, key) => (name, .str key)).toList

/-- The value of a path that begins in a loop. -/
def lookup? (f : Frame) (root : String) (keys : List String) : Option Json :=
  (if root = "loop" then f.progress? keys else none)
    <|> (f.bindings.lookup root).bind (descend? · keys)

end Frame

namespace Scope

/-- The variable that holds all the others, as text. -/
def everything : String := "__tera_context"

def dump (s : Scope) : String :=
  (Json.ofFields (s.context.entries ++ s.frames.flatMap Frame.bindings)).pretty

/-- The value of a path with plain keys: in the loops from the inside out, then in the context. -/
def lookup? (s : Scope) (root : String) (keys : List String) : Option Json :=
  if root = everything ∧ keys = [] then some (.str s.dump)
  else
    s.frames.findSome? (·.lookup? root keys) <|> (s.context.get? root).bind (descend? · keys)

/-- The key that a value is, if it can be one. -/
def keyOfValue? : Json → Option String
  | .str s => some s
  | .num n => some n.text
  | _ => none

mutual

def key? (s : Scope) : Key → Option String
  | .name key => some key
  | .valueOf root keys => do keyOfValue? (← s.lookup? root (← keys? s keys))

def keys? (s : Scope) : List Key → Option (List String)
  | [] => some []
  | k :: rest => do return (← key? s k) :: (← keys? s rest)

end

def value? (s : Scope) (root : String) (keys : List Key) : Option Json := do
  s.lookup? root (← s.keys? keys)

end Scope

end PlayScaffold.Template
