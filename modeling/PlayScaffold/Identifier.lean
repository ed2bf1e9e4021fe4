import PlayScaffold.Text.Casing

/-!
# Identifiers: words and casing

An identifier is split into words at every character that is neither letter nor digit and at its
case steps (`petId`, `HTTPResponse`).  Route parameters take the words in camel case, classes in
proper case.
-/

namespace PlayScaffold.Identifier

open Text

/-! ## Words -/

/-- Does a word start at `c`, given the character of a word before it, if any, and the next one?
It does after no word, at a capital after a small letter or a digit, and at the last capital of
several when a small letter follows. -/
def startsWord (before : Option Char) (c : Char) (next : Option Char) : Bool :=
  match before with
  | none => true
  | some b =>
    isUppercase c && (isLowercase b || b.isDigit || (isUppercase b && next.any isLowercase))

/-- The rest of the word that `before` belongs to, and the words after it. -/
def wordsAfter (before : Option Char) : List Char → List Char × List (List Char)
  | [] => ([], [])
  | c :: rest =>
    if isAlphanumeric c then
      let (word, later) := wordsAfter (some c) rest
      if startsWord before c rest.head? then ([], (c :: word) :: later) else (c :: word, later)
    else ([], (wordsAfter none rest).2)

def words (cs : List Char) : List (List Char) := (wordsAfter none cs).2

/-! ## Casing -/

def mapFirst (f : Char → List Char) : List Char → List Char
  | [] => []
  | c :: rest => f c ++ rest

/-- The word in small letters with a capital in front. -/
def capitalize (word : List Char) : List Char := mapFirst upper (lowerWord word)

/-- The words joined, the first one with a small first letter and each later one with a capital;
all other letters keep their case. -/
def camel (cs : List Char) : List Char :=
  match words cs with
  | [] => []
  | first :: later => mapFirst lower first ++ later.flatMap (mapFirst upper)

/-- The words joined, each in small letters with a capital in front. -/
def proper (cs : List Char) : List Char := (words cs).flatMap capitalize

/-- `camelCase`, the form of route parameters. -/
def camelCase (s : String) : String := String.ofList (camel s.toList)

/-- `ProperCase`, the form of class names. -/
def properCase (s : String) : String := String.ofList (proper s.toList)

end PlayScaffold.Identifier
