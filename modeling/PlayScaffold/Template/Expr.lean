import PlayScaffold.Json.Arithmetic
import PlayScaffold.Json.Basic
import PlayScaffold.Template.Read

/-!
# Expressions in templates

What a tag prints, asks for or loops over.  A path leads to a variable; literals, arithmetic,
comparisons and words such as `and` are put around paths.  A literal truth value is told by its
first letters, so no variable that is looked up begins with `true` or `false`.
-/

namespace PlayScaffold.Template

/-- A step of a path: a key as it is written, or the value of another path. -/
inductive Key where
  | name (s : String)
  | valueOf (root : String) (keys : List Key)

inductive Comparison where
  | equal
  | different
  | less
  | lessOrEqual
  | greater
  | greaterOrEqual
deriving Repr, DecidableEq

inductive Expr where
  | literal (j : Json)
  | path (root : String) (keys : List Key)
  | list (items : List Expr)
  | joined (parts : List Expr)
  | arithmetic (op : Json.Number.Operator) (l r : Expr)
  | comparison (op : Comparison) (l r : Expr)
  | either (l r : Expr)
  | both (l r : Expr)
  | not (e : Expr)
  | isIn (item container : Expr)
  /-- the call of a function or a test -/
  | call (name : String)
  /-- a value that a filter changes -/
  | filtered (e : Expr) (filter : String)

namespace Expr

open Read

instance : Inhabited Expr := ⟨.literal .null⟩

/-! ## Literals -/

/-- A text between quotes of one of three kinds. -/
def quoted : Read String :=
  between '"' <|> between '\'' <|> between '\x60'
where
  between (quote : Char) : Read String := do
    mark (String.singleton quote)
    let cs ← takeWhile (· != quote)
    mark (String.singleton quote)
    return String.ofList cs

/-- The sign of a number; true stands for a minus. -/
def sign : Read Bool := (do mark "-"; return true) <|> pure false

/-- The digits of an integer: a zero, or digits in which no zero leads. -/
def wholeDigits : Read (List Char) :=
  (do mark "0"; return ['0']) <|> takeSome Char.isDigit

def digitsValue (ds : List Char) : Nat := ds.foldl (fun n d => 10 * n + (d.toNat - '0'.toNat)) 0

/-- A number, with digits after a point or without them.  Integers have sixty-four bits. -/
def number : Read Json.Number := do
  let negative ← sign
  let whole ← wholeDigits
  match ← possibly (do mark "."; takeSome Char.isDigit) with
  | some fraction =>
    match Decimal.Double.round? negative (digitsValue (whole ++ fraction))
        (Nat.pow 10 fraction.length) with
    | some d => return .real d
    | none => failure
  | none =>
    let n : Int := if negative then -(digitsValue whole : Int) else digitsValue whole
    if Json.Number.isSigned n then return .int n else failure

/-- A truth value, whatever follows it. -/
def boolean : Read Bool :=
  (do mark "true"; return true) <|> (do mark "True"; return true)
    <|> (do mark "false"; return false) <|> (do mark "False"; return false)

/-! ## Paths -/

mutual

/-- A name, and the keys that lead into its value. -/
def rootedPath : Nat → Read (String × List Key)
  | 0 => failure
  | fuel + 1 => do
    let root ← name
    return (root, ← many (key fuel))

/-- A key after a point or in brackets. -/
def key : Nat → Read Key
  | 0 => failure
  | fuel + 1 =>
    (do mark "."; return .name (String.ofList (← takeSome isNameChar)))
      <|> (do
        mark "["
        let k ← index
          <|> .name <$> quoted
          <|> (fun (root, keys) => .valueOf root keys) <$> rootedPath fuel
        mark "]"
        return k)
where
  /-- An integer as a key. -/
  index : Read Key := do
    let negative ← sign
    let ds ← wholeDigits
    return .name (String.ofList (if negative then '-' :: ds else ds))

end

def reference : Read Expr := do
  let (root, keys) ← rootedPath (2 * (← get).length + 1)
  return .path root keys

/-! ## Calls -/

def listOf (inner : Read Expr) : Read Expr := do
  mark "["
  blanks
  let items ← possibly do
    let items ← commaSeparated inner
    let _ ← possibly (spaced ",")
    return items
  blanks
  mark "]"
  return .list (items.getD [])

/-- A filter's name after a bar. -/
def filter (call : Read String) : Read String := do
  spaced "|"
  call <|> name

def withFilters (call : Read String) (e : Read Expr) : Read Expr := do
  let value ← e
  return (← many (filter call)).foldl .filtered value

/-- The name of a function with its arguments, each of which has a name too. -/
def functionCall (inner : Read Expr) : Read String := do
  let f ← name
  spaced "("
  let _ ← possibly do
    let _ ← commaSeparated do
      let _ ← name
      spaced "="
      inner <|> withFilters failure (listOf inner)
    possibly (spaced ",")
  blanks
  mark ")"
  return f

/-- The name of a function of a group, with its arguments. -/
def groupCall (inner : Read Expr) : Read String := do
  let group ← name
  spaced "::"
  return group ++ "::" ++ (← functionCall inner)

/-- The name of a test after the word `is`, which may be denied and may have arguments. -/
def testCall (inner : Read Expr) : Read String := do
  let _ ← reference
  spaced "is"
  (do mark "not"; blanks; test) <|> test
where
  /-- A test with its arguments. -/
  test : Read String := do
    let t ← name
    let _ ← possibly do
      spaced "("
      let _ ← commaSeparated (inner <|> withFilters failure (listOf inner))
      blanks
      mark ")"
    return t

/-! ## Arithmetic -/

def productOperator : Read (Expr → Expr → Expr) :=
  (do mark "*"; return .arithmetic .times) <|> (do mark "/"; return .arithmetic .divide)
    <|> (do mark "%"; return .arithmetic .modulo)

def sumOperator : Read (Expr → Expr → Expr) :=
  (do mark "+"; return .arithmetic .plus) <|> (do mark "-"; return .arithmetic .minus)

/-- A value without operators. -/
def atom (inner : Read Expr) : Read Expr :=
  (fun b => .literal (.bool b)) <$> boolean
    <|> .call <$> testCall inner
    <|> .call <$> groupCall inner
    <|> .call <$> functionCall inner
    <|> reference
    <|> (fun n => .literal (.num n)) <$> number

/-- A sum of products of values and of sums in brackets. -/
def sum (inner : Read Expr) : Nat → Read Expr
  | 0 => failure
  | fuel + 1 =>
    let bracketed : Read Expr := do
      mark "("
      blanks
      let e ← sum inner fuel
      blanks
      mark ")"
      return e
    chain sumOperator (chain productOperator (bracketed <|> atom inner))

/-! ## Texts -/

/-- A part of a text that is put together. -/
def textPart (inner : Read Expr) : Read Expr :=
  .call <$> functionCall inner
    <|> (fun n => .literal (.num n)) <$> number
    <|> (fun s => .literal (.str s)) <$> quoted
    <|> reference

/-- A text in quotes, or parts that are put together. -/
def text (inner : Read Expr) : Read Expr :=
  (do
    let first ← textPart inner
    let more ← many (do spaced "~"; textPart inner)
    if more.isEmpty then failure else return .joined (first :: more))
  <|> (fun s => .literal (.str s)) <$> quoted

/-! ## Conditions -/

/-- What stands on either side of a comparison. -/
def operand (inner : Read Expr) : Read Expr := do
  let size := (← get).length
  withFilters (functionCall inner) (text inner <|> sum inner (size + 1))

/-- What something can be in: a text, a list or the value of a path. -/
def container (inner : Read Expr) : Read Expr :=
  withFilters (functionCall inner) (text inner <|> listOf inner) <|> reference

def comparisonSign : Read Comparison :=
  (do mark "=="; return .equal) <|> (do mark "!="; return .different)
    <|> (do mark ">="; return .greaterOrEqual) <|> (do mark "<="; return .lessOrEqual)
    <|> (do mark ">"; return .greater) <|> (do mark "<"; return .less)

/-- An operand, or two of them that are compared, or one that is in something. -/
def compared (inner : Read Expr) : Read Expr := do
  let l ← operand inner
  membership l <|> comparison l <|> pure l
where
  /-- What it is in. -/
  membership (l : Expr) : Read Expr := do
    blanks
    let denied ← possibly (do word "not"; blanks)
    mark "in"
    blanks
    let e := Expr.isIn l (← container inner)
    return if denied.isSome then .not e else e
  /-- What it is compared with. -/
  comparison (l : Expr) : Read Expr := do
    blanks
    let op ← comparisonSign
    blanks
    return .comparison op l (← operand inner)

/-- A condition, which may be denied. -/
def condition (inner : Read Expr) : Read Expr := do
  let denied ← possibly (word "not")
  let e ← compared inner <|> (do mark "("; blanks; let e ← inner; blanks; mark ")"; return e)
  return if denied.isSome then .not e else e

/-- Conditions with words between them; `and` binds closer than `or`. -/
def conditions : Nat → Read Expr
  | 0 => failure
  | fuel + 1 =>
    let inner := conditions fuel
    chain (do word "or"; return .either)
      (chain (do word "and"; return .both) (condition inner))

/-- An expression that can be asked for. -/
def asked : Read Expr := do conditions ((← get).length + 1)

def printable : Read Expr :=
  asked <|> withFilters (functionCall asked) (listOf asked)

def looped : Read Expr := do
  let size := (← get).length
  withFilters (functionCall asked) (sum asked (size + 1) <|> listOf asked)

end Expr

end PlayScaffold.Template
