import PlayScaffold.Template.Scope

/-!
# Values of expressions

The value of an expression in a scope, if it has one.  Functions, tests and filters have no meaning
of their own, so an expression that calls one has no value.  A condition may ask for a variable that
is not defined; it does not hold then.
-/

namespace PlayScaffold.Template

/-- Does a condition hold of a value?  It does not of null, false, zero and what is empty. -/
def isTruthy : Json → Bool
  | .null => false
  | .bool b => b
  | .num n => !n.isZero
  | .str s => s != ""
  | .arr items => !items.isEmpty
  | .obj fields => !fields.isEmpty

/-- The text of a value that can be part of another one. -/
def partText? : Json → Option String
  | .str s => some s
  | .num n => some n.text
  | _ => none

def occursIn (part : List Char) : List Char → Bool
  | [] => part.isEmpty
  | c :: rest => part.isPrefixOf (c :: rest) || occursIn part rest

/-- Is a value in a text, in a list or among the keys of an object? -/
def isMember? (item : Json) : Json → Option Bool
  | .arr items => some (items.any (item == ·))
  | .str s =>
    match item with
    | .str part => some (occursIn part.toList s.toList)
    | _ => none
  | .obj fields =>
    match item with
    | .str key => some (fields.lookup key).isSome
    | _ => none
  | _ => none

/-- Are two values equal?  Numbers are compared as doubles and equal nothing else. -/
def areEqual (a b : Json) : Bool :=
  match a, b with
  | .num m, .num n =>
    match m.toReal?, n.toReal? with
    | some x, some y => x.sameValue y
    | _, _ => false
  | a, b => a == b

namespace Comparison

/-- Does an order of doubles hold? -/
def ofNumbers? (op : Comparison) (m n : Json.Number) : Option Bool := do
  let x ← m.toReal?
  let y ← n.toReal?
  match op with
  | .less => return Json.Number.isBelow false x y
  | .lessOrEqual => return Json.Number.isBelow true x y
  | .greater => return Json.Number.isBelow false y x
  | .greaterOrEqual => return Json.Number.isBelow true y x
  | .equal => return x.sameValue y
  | .different => return !x.sameValue y

/-- Does an equation or its contrary hold?  Neither does of a number and something else. -/
def ofValues (op : Comparison) (a b : Json) : Bool :=
  let mixed := match a, b with
    | .num _, .num _ => false
    | .num _, _ | _, .num _ => true
    | _, _ => false
  !mixed && (areEqual a b == (op == .equal))

def isOrder : Comparison → Bool
  | .equal | .different => false
  | _ => true

end Comparison

namespace Expr

/-- The number that an expression stands for in a calculation; inside, nothing stands for a result
that is no number. -/
def number? (s : Scope) : Expr → Option (Option Json.Number)
  | .literal (.num n) => some (some n)
  | .path root keys =>
    match s.value? root keys with
    | some (.num n) => some (some n)
    | _ => none
  | .arithmetic op l r => do
    match ← number? s l, ← number? s r with
    | some m, some n => op.result? m n
    | _, _ => return none
  | _ => none

/-- Does an expression hold as a condition, given its value?  A variable that is not defined and a
calculation without a number do not hold. -/
def holds? (e : Expr) (value : Option Json) : Option Bool :=
  match e, value with
  | .path _ _, v | .filtered (.path _ _) _, v => some (v.any isTruthy)
  | .arithmetic _ _ _, some (.str _) => some false
  | _, v => v.map isTruthy

mutual

def value? (s : Scope) : Expr → Option Json
  | .literal j => some j
  | .path root keys => s.value? root keys
  | .list items => (values? s items).map .arr
  | .joined parts => do
    let texts ← (← values? s parts).mapM partText?
    return .str (String.join texts)
  | .arithmetic op l r =>
    (number? s (.arithmetic op l r)).map fun n => (n.map .num).getD (.str "NaN")
  | .comparison op l r => do
    if op.isOrder then
      match ← number? s l, ← number? s r with
      | some m, some n => (op.ofNumbers? m n).map .bool
      | _, _ => none
    else return .bool (op.ofValues (← value? s l) (← value? s r))
  | .either l r => do
    let first ← holds? l (value? s l)
    if first then return .bool true else (holds? r (value? s r)).map .bool
  | .both l r => do
    let first ← holds? l (value? s l)
    if first then (holds? r (value? s r)).map .bool else return .bool false
  | .not e => (holds? e (value? s e)).map fun b => .bool !b
  | .isIn item container => do
    (isMember? (← value? s item) (← value? s container)).map .bool
  | .call _ => none
  | .filtered _ _ => none

def values? (s : Scope) : List Expr → Option (List Json)
  | [] => some []
  | e :: rest => do return (← value? s e) :: (← values? s rest)

end

end Expr

end PlayScaffold.Template
