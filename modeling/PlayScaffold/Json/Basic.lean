import PlayScaffold.Json.Number
import PlayScaffold.KeyMap

/-!
# JSON values

The values of a JSON document.  Objects are built by `Json.object`, which lists their fields by
ascending key, each key once.
-/

namespace PlayScaffold

inductive Json where
  | null
  | bool (b : Bool)
  | num (n : Json.Number)
  | str (s : String)
  | arr (items : List Json)
  | obj (fields : List (String × Json))

namespace Json

instance : Inhabited Json := ⟨.null⟩

def object (m : KeyMap Json) : Json := .obj m.entries

/-- The object of a list of fields in any order; of several values at one key the last one
counts. -/
def ofFields (fields : List (String × Json)) : Json := object (KeyMap.ofList fields)

/-- A text, or null where there is none. -/
def ofOption (s : Option String) : Json :=
  match s with
  | some s => .str s
  | none => .null

mutual

/-- Do two values agree, with numbers compared by what they stand for? -/
def sameValue : Json → Json → Bool
  | .null, .null => true
  | .bool a, .bool b => a == b
  | .num a, .num b => a.sameValue b
  | .str a, .str b => a == b
  | .arr as, .arr bs => sameItems as bs
  | .obj as, .obj bs => sameFields as bs
  | _, _ => false

def sameItems : List Json → List Json → Bool
  | [], [] => true
  | a :: as, b :: bs => sameValue a b && sameItems as bs
  | _, _ => false

def sameFields : List (String × Json) → List (String × Json) → Bool
  | [], [] => true
  | (k, a) :: as, (l, b) :: bs => k == l && sameValue a b && sameFields as bs
  | _, _ => false

end

instance : BEq Json := ⟨sameValue⟩

end Json

end PlayScaffold
