import PlayScaffold.Files
import PlayScaffold.Template.Render

/-!
# Directories of templates

Every file below a directory is a template.  Its id is its path from the directory on, written with
slashes.  Stars in the directory's name make it a pattern: the part in front of the first star
is the directory, and the rest says which files below it count.
-/

namespace PlayScaffold

/-! ## Patterns -/

/-- Which files below a directory count. -/
structure PathPattern where
  base : String
  /-- names with stars, or two stars for any number of names -/
  segments : List String
  /-- are there braces around alternatives, which no path below the directory itself fits? -/
  hasAlternatives : Bool

namespace PathPattern

/-- Does something hold of the list or of a rest of it? -/
def anySuffix {α : Type} (p : List α → Bool) : List α → Bool
  | [] => p []
  | a :: as => p (a :: as) || anySuffix p as

/-- Does a name fit a segment, in which a star stands for any characters and a question mark for
one? -/
def fitsName : List Char → List Char → Bool
  | [], name => name.isEmpty
  | '*' :: segment, name => anySuffix (fitsName segment) name
  | c :: segment, d :: name => (c == '?' || c == d) && fitsName segment name
  | _ :: _, [] => false

def fitsNames : List String → List String → Bool
  | [], names => names.isEmpty
  | segment :: segments, names =>
    if segment = "**" then anySuffix (fitsNames segments) names
    else
      match names with
      | name :: names => fitsName segment.toList name.toList && fitsNames segments names
      | [] => false

def fits (p : PathPattern) (path : String) : Bool :=
  !p.hasAlternatives && fitsNames p.segments (Path.parts path)

/-- Does every brace have its counterpart, inside so many open ones? -/
def isBalanced (depth : Nat) : List Char → Bool
  | [] => depth == 0
  | '\x7b' :: cs => isBalanced (depth + 1) cs
  | '\x7d' :: cs => depth != 0 && isBalanced (depth - 1) cs
  | _ :: cs => isBalanced depth cs

/-- The pattern of all files below a directory, if its braces are well formed. -/
def ofDirectory? (directory : String) : Option PathPattern :=
  let cs := directory.toList
  let starred := String.ofList (cs.dropWhile (· != '*'))
  if isBalanced 0 cs then
    some {
      base := String.ofList (cs.takeWhile (· != '*'))
      segments := Path.parts starred ++ ["**", "*"]
      hasAlternatives := cs.contains '\x7b' }
  else none

end PathPattern

/-! ## Loading -/

namespace TemplateSet

def idOfPath (path : String) : String :=
  String.ofList (path.toList.map fun c => if c = '\\' then '/' else c)

/-- The templates in the files of a directory. -/
def ofFiles (files : List (String × Contents)) : Except Error TemplateSet := do
  let sources ← files.mapM fun (path, contents) =>
    match contents.text with
    | .ok source => .ok (idOfPath path, source)
    -- a file that is no text counts as a template that is not well formed
    | .error _ => .error (Error.unparsable (idOfPath path))
  ofSources sources

end TemplateSet

end PlayScaffold
