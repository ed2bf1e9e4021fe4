import PlayScaffold.Toml.Scalar

/-!
# TOML documents

A document is a table of tables.  A table is defined once: by a header, by the points in a key, or
in braces; only tables that a longer header implies may get a header of their own later, and only
tables made by points may be extended by points.
-/

namespace PlayScaffold.Toml

/-- A value, of which only texts and truth values are told apart. -/
inductive Value where
  | string (s : String)
  | boolean (b : Bool)
  | other
deriving Repr, DecidableEq

/-- How a table has come about. -/
inductive Origin where
  | header
  /-- it stands in front of the last key of a header -/
  | implied
  /-- it stands in front of a point of a key -/
  | dotted
deriving Repr, DecidableEq

/-- What stands at a key. -/
inductive Item where
  | value (v : Value)
  | table (origin : Origin) (entries : List (String × Item))
  /-- the tables of a list, the last one first -/
  | tables (all : List (List (String × Item)))

instance : Inhabited Item := ⟨.value .other⟩

abbrev Entries := List (String × Item)

namespace Entries

/-! ## Defining -/

/-- The entries with another item at a key that is there. -/
def replace (es : Entries) (key : String) (item : Item) : Entries :=
  es.map fun (k, i) => if k = key then (k, item) else (k, i)

/-- The entries with a new item at a key that is not there yet. -/
def define? (es : Entries) (key : String) (item : Item) : Option Entries :=
  if (es.lookup key).isSome then none else some (es ++ [(key, item)])

/-- The entries after a change of the table that keys lead to, by points where `dotted` holds. -/
def within? (dotted : Bool) (change : Origin → Entries → Option Entries) :
    List String → Origin → Entries → Option Entries
  | [], origin, es => change origin es
  | key :: keys, _, es =>
    match es.lookup key with
    | none => do
      -- tables on the way are made
      let origin := if dotted then .dotted else .implied
      let inner ← within? dotted change keys origin []
      return es ++ [(key, .table origin inner)]
    | some (.value _) => none
    | some (.table origin inner) => do
      if dotted && origin == .header then none
      else
        let inner ← within? dotted change keys origin inner
        return es.replace key (.table origin inner)
    -- the last table of a list stands for the list
    | some (.tables (last :: others)) => do
      let last ← within? dotted change keys .header last
      return es.replace key (.tables (last :: others))
    | some (.tables []) => none

/-- The table with a value at a key with points. -/
def assign? (keys : List String) (item : Item) (origin : Origin) (es : Entries) :
    Option Entries :=
  within? true (fun origin inner =>
    if (origin == .dotted) == keys.dropLast.isEmpty then none
    else keys.getLast?.bind fun key => inner.define? key item) keys.dropLast origin es

/-- The document with the table of a header. -/
def openTable? (keys : List String) (es : Entries) : Option Entries :=
  within? false (fun _ inner =>
    keys.getLast?.bind fun key =>
      match inner.lookup key with
      | none => some (inner ++ [(key, .table .header [])])
      | some (.table .implied entries) => some (inner.replace key (.table .header entries))
      | _ => none) keys.dropLast .header es

/-- The document with one more table in the list of a header. -/
def openTables? (keys : List String) (es : Entries) : Option Entries :=
  within? false (fun _ inner =>
    keys.getLast?.bind fun key =>
      match inner.lookup key with
      | none => some (inner ++ [(key, .tables [[]])])
      | some (.tables all) => some (inner.replace key (.tables ([] :: all)))
      | _ => none) keys.dropLast .header es

end Entries

/-! ## Reading -/

def afterWord? (word : String) (cs : List Char) : Option (List Char) :=
  if word.toList.isPrefixOf cs then some (cs.drop word.length) else none

mutual

/-- A value and the rest, where lists and tables may still go down `depth` levels. -/
def value? (depth : Nat) : Nat → List Char → Option (Value × List Char)
  | 0, _ => none
  | _, [] => none
  | fuel + 1, c :: rest =>
    if c == '"' || c == '\'' then
      (string? (c :: rest)).map fun (s, rest) => (.string s, rest)
    else if (c == '[' || c == '\x7b') && depth == 0 then none
    else if c == '[' then (afterItems? (depth - 1) fuel rest).map fun rest => (.other, rest)
    else if c == '\x7b' then
      match skipBlanks rest with
      | '\x7d' :: rest => some (.other, rest)
      | rest => (afterEntries? (depth - 1) [] fuel rest).map fun rest => (.other, rest)
    else if c == 't' then (afterWord? "rue" rest).map fun rest => (.boolean true, rest)
    else if c == 'f' then (afterWord? "alse" rest).map fun rest => (.boolean false, rest)
    else (afterNumber? (c :: rest)).map fun rest => (.other, rest)
termination_by structural fuel => fuel

/-- The text after the items of a list, which may stand on several lines, and its bracket. -/
def afterItems? (depth : Nat) : Nat → List Char → Option (List Char)
  | 0, _ => none
  | fuel + 1, cs =>
    match skipLines cs.length cs with
    | ']' :: rest => some rest
    | cs => do
      let (_, rest) ← value? depth fuel cs
      match skipLines rest.length rest with
      | ']' :: rest => some rest
      | ',' :: rest => afterItems? depth fuel rest
      | _ => none
termination_by structural fuel => fuel

/-- The text after the entries of a table in braces, which stand on one line, and its brace. -/
def afterEntries? (depth : Nat) (es : Entries) : Nat → List Char → Option (List Char)
  | 0, _ => none
  | fuel + 1, cs => do
    let (keys, v, rest) ← entry? depth fuel cs
    let es ← es.assign? keys (.value v) .header
    match skipBlanks rest with
    | '\x7d' :: rest => some rest
    | ',' :: rest => afterEntries? depth es fuel rest
    | _ => none
termination_by structural fuel => fuel

def entry? (depth : Nat) : Nat → List Char → Option (List String × Value × List Char)
  | 0, _ => none
  | fuel + 1, cs => do
    let (keys, rest) ← key? depthLimit cs
    let '=' :: rest := rest | none
    let (v, rest) ← value? depth fuel (skipBlanks rest)
    return (keys, v, rest)
termination_by structural fuel => fuel

end

/-- A header after its opening brackets: its keys, and the text from the next line on. -/
def header? (close : String) (cs : List Char) : Option (List String × List Char) := do
  let (keys, rest) ← key? depthLimit cs
  let rest ← afterWord? close rest
  let rest ← nextLine? rest
  return (keys, rest)

/-- The document of the lines of a text, where `current` leads to the table of the last header. -/
def lines (current : List String) (es : Entries) : Nat → List Char → Option Entries
  | 0, _ => none
  | fuel + 1, cs =>
    match skipBlanks cs with
    | [] => some es
    | '[' :: '[' :: rest => do
      let (keys, rest) ← header? "]]" rest
      lines keys (← es.openTables? keys) fuel rest
    | '[' :: rest => do
      let (keys, rest) ← header? "]" rest
      lines keys (← es.openTable? keys) fuel rest
    | c :: rest =>
      if c == '#' || (afterNewline? (c :: rest)).isSome then do
        lines current es fuel (← nextLine? (c :: rest))
      else do
        let (keys, v, rest) ← entry? depthLimit (cs.length + 1) (c :: rest)
        let rest ← nextLine? rest
        let es ← es.within? false (fun origin inner =>
          inner.assign? keys (.value v) origin) current .header
        lines current es fuel rest

def parse? (text : String) : Option Entries :=
  let cs := match text.toList with
    | '\ufeff' :: cs => cs
    | cs => cs
  lines [] [] (cs.length + 1) cs

end PlayScaffold.Toml
