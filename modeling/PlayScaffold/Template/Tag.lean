import PlayScaffold.Template.Expr
import PlayScaffold.Text.CharClass

/-!
# Tags of a template

A template is text with tags: `{{ a.b }}` prints a value, `{% if a.b %}` and `{% for x in a.b %}`
open a block that `{% endif %}` and `{% endfor %}` close, `{% elif a.b %}` and `{% else %}` stand
between, and `{# … #}` is a comment.  Blanks inside a tag are optional, except around a word that
an expression follows.  A dash at either end of a tag takes away the white space outside it.
-/

namespace PlayScaffold.Template

/-- What a template consists of, from left to right. -/
inductive Tag where
  | text (cs : List Char)
  /-- white space in front of it is taken away -/
  | trim
  | comment
  | print (e : Expr)
  | openIf (condition : Expr)
  | elseIf (condition : Expr)
  /-- the variables for the key, if there is one, and for the value -/
  | openFor (key : Option String) (name : String) (container : Expr)
  | otherwise
  | closeIf
  | closeFor

namespace Tag

open Read

/-! ## Inside a tag -/

/-- The end of a tag.  After a dash the white space behind it is taken away. -/
def close (bracket : String) : Read Unit :=
  (do
    mark ("-" ++ bracket)
    let _ ← takeWhile Text.isWhiteSpace)
  <|> mark bracket

def printed : Read Tag := do
  blanks
  let e ← Expr.printable
  blanks
  close "\x7d\x7d"
  return .print e

/-- A tag that is a keyword alone. -/
def keyword (s : String) (tag : Tag) : Read Tag := do
  mark s
  blanks
  close "%\x7d"
  return tag

/-- A tag with a keyword and a condition. -/
def conditional (s : String) (tag : Expr → Tag) : Read Tag := do
  word s
  let e ← Expr.asked
  blanks
  close "%\x7d"
  return tag e

/-- A tag that opens a loop, with one variable or with one for the key and one for the value. -/
def openLoop : Read Tag := do
  word "for"
  let first ← name
  let second ← possibly (do mark ","; blanks; name)
  let _ ← takeSome isBlank
  word "in"
  let e ← Expr.looped
  blanks
  close "%\x7d"
  match second with
  | some value => return .openFor (some first) value e
  | none => return .openFor none first e

def block : Read Tag := do
  blanks
  conditional "if" .openIf <|> conditional "elif" .elseIf <|> openLoop
    <|> keyword "else" .otherwise <|> keyword "endif" .closeIf <|> keyword "endfor" .closeFor

/-- Passes over the text of a comment and its end. -/
def commentText : Nat → Read Unit
  | 0 => failure
  | fuel + 1 => do
    let _ :: rest ← get | failure
    set rest
    close "#\x7d" <|> commentText fuel

/-- A comment. -/
def remark : Read Tag := do
  match ← possibly (close "#\x7d") with
  -- an empty comment is none
  | some _ => failure
  | none =>
    commentText (← get).length
    return .comment

/-- A tag after its opening brackets; a dash comes first where white space in front of it is to be
taken away. -/
def opened (inside : Read Tag) : Read (List Tag) := do
  match ← possibly (mark "-") with
  | some _ => return [.trim, ← inside]
  | none => return [← inside]

/-! ## The whole text -/

def consChar (c : Char) : List Tag → List Tag
  | .text cs :: rest => .text (c :: cs) :: rest
  | .trim :: rest => if Text.isWhiteSpace c then .trim :: rest else .text [c] :: .trim :: rest
  | tags => .text [c] :: tags

/-- The tags of a text, if all of them are well formed.  Every step takes fuel, and one for each
character and one more are enough. -/
def scan? : Nat → List Char → Option (List Tag)
  | 0, _ => none
  | _, [] => some []
  | fuel + 1, c :: rest =>
    let tag (inside : Read Tag) : Option (List Tag) := do
      let (tags, behind) ← (opened inside).run rest.tail
      return tags ++ (← scan? fuel behind)
    match c, rest with
    | '\x7b', '\x7b' :: _ => tag printed
    | '\x7b', '%' :: _ => tag block
    | '\x7b', '#' :: _ => tag remark
    | _, _ => (scan? fuel rest).map (consChar c)

end Tag

end PlayScaffold.Template
