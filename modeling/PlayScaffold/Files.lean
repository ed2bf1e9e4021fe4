/-!
# Files

What a run asks of a file system.  `Files m` are the questions, answered in a monad `m`;
`FileTree.files` answers them from a tree that is held as a list of paths, so that a run can be
looked at without any disk.
-/

namespace PlayScaffold

/-- Why a file cannot be read. -/
inductive FileFault where
  | missing
  | denied
  | notDirectory
  | isDirectory
  /-- another fault, with its number -/
  | other (reason : String) (code : Nat)
  /-- the file does not hold UTF-8 text -/
  | notText
deriving Repr, DecidableEq

namespace FileFault

def ofCode (code : Nat) (reason : String) : FileFault :=
  match code with
  | 2 => .missing
  | 13 => .denied
  | 20 => .notDirectory
  | 21 => .isDirectory
  | _ => .other reason code

def numbered (reason : String) (code : Nat) : String :=
  reason ++ " (os error " ++ toString code ++ ")"

def message : FileFault → String
  | .missing => numbered "No such file or directory" 2
  | .denied => numbered "Permission denied" 13
  | .notDirectory => numbered "Not a directory" 20
  | .isDirectory => numbered "Is a directory" 21
  | .other reason code => numbered reason code
  | .notText => "stream did not contain valid UTF-8"

end FileFault

/-- What a file holds, or why it cannot be read. -/
abbrev Contents := Except FileFault ByteArray

def Contents.text (contents : Contents) : Except FileFault String :=
  match contents with
  | .ok bytes => (String.fromUTF8? bytes).elim (.error .notText) .ok
  | .error fault => .error fault

/-- The files that a run can see. -/
structure Files (m : Type → Type) where
  /-- what the file at a path holds -/
  read : String → m Contents
  /-- the files below a directory by their paths from there; none if there is no such directory -/
  below : String → m (List (String × Contents))

/-! ## Paths -/

namespace Path

/-- The parts of a text between slashes. -/
def segments : List Char → List (List Char)
  | [] => [[]]
  | c :: rest =>
    if c = '/' then [] :: segments rest
    else
      match segments rest with
      | [] => [[c]]
      | part :: parts => (c :: part) :: parts

/-- The parts of a path that name something: neither empty parts nor single points do. -/
def parts (path : String) : List String :=
  ((segments path.toList).map String.ofList).filter fun part => part != "" && part != "."

def fileName? (path : String) : Option String :=
  match (parts path).getLast? with
  | some ".." => none
  | name => name

/-- What follows the last point of the file's name; a point at its start does not count. -/
def extension? (path : String) : Option String :=
  (fileName? path).bind fun name =>
    let reversed := name.toList.reverse
    match reversed.dropWhile (· != '.') with
    | '.' :: _ :: _ => some (String.ofList (reversed.takeWhile (· != '.')).reverse)
    | _ => none

end Path

/-! ## Trees -/

/-- Files by the parts of their paths.  Its directories are those that hold a file. -/
structure FileTree where
  entries : List (List String × ByteArray) := []

namespace FileTree

/-- What stands at a place: a file, a directory or nothing. -/
inductive Entry where
  | file (bytes : ByteArray)
  | directory
  | nothing

def ofList (files : List (String × ByteArray)) : FileTree :=
  ⟨files.map fun (path, bytes) => (Path.parts path, bytes)⟩

def entry (t : FileTree) (place : List String) : Entry :=
  match t.entries.lookup place with
  | some bytes => .file bytes
  | none =>
    if place.isEmpty || t.entries.any fun (path, _) => place.isPrefixOf path then .directory
    else .nothing

/-- Where a path leads from a place: every part but the last one has to be a directory. -/
def walk (t : FileTree) (place : List String) : List String → Except FileFault (List String)
  | [] => .ok place
  | part :: rest =>
    match t.entry place with
    | .directory =>
      if part = "" || part = "." then walk t place rest
      else if part = ".." then walk t place.dropLast rest
      else walk t (place ++ [part]) rest
    | .file _ => .error .notDirectory
    | .nothing => .error .missing

/-- Where a path leads from the root of the tree. -/
def locate (t : FileTree) (path : String) : Except FileFault (List String) :=
  t.walk [] ((Path.segments path.toList).map String.ofList)

def read (t : FileTree) (path : String) : Contents := do
  if path = "" then throw .missing
  match t.entry (← t.locate path) with
  | .file bytes => return bytes
  | .directory => throw .isDirectory
  | .nothing => throw .missing

def below (t : FileTree) (path : String) : List (String × Contents) :=
  match t.locate path with
  | .ok place =>
    t.entries.filterMap fun (parts, bytes) =>
      if place.isPrefixOf parts && place.length < parts.length then
        some ("/".intercalate (parts.drop place.length), .ok bytes)
      else none
  | .error _ => []

def files (t : FileTree) : Files Id := ⟨t.read, t.below⟩

end FileTree

end PlayScaffold
