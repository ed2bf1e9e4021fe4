import PlayScaffold.Operation.Parameter

/-!
# Parameter lists with shared records

An operation lists its parameters twice: all of them, and those of its form.  A form field stands
in both lists as one record, so that an edit through either list is seen through the other.  Records
are numbered; a list holds their numbers.
-/

namespace PlayScaffold

/-- The parameter records of an operation and the two lists that refer to them. -/
structure ParameterLists where
  records : List Parameter := []
  /-- the numbers of all parameters -/
  all : List Nat := []
  /-- the numbers of the form parameters -/
  form : List Nat := []
  inRange : ∀ i ∈ all ++ form, i < records.length := by simp

/-- The two lists. -/
inductive ParameterView where
  | all
  | form
deriving Repr, DecidableEq

namespace ParameterLists

def empty : ParameterLists := {}

instance : Inhabited ParameterLists := ⟨empty⟩

/-! ## Looking -/

def record (ls : ParameterLists) (i : Nat) : Parameter := ls.records.getD i {}

def numbers (ls : ParameterLists) : ParameterView → List Nat
  | .all => ls.all
  | .form => ls.form

def values (ls : ParameterLists) (view : ParameterView) : List Parameter :=
  (ls.numbers view).map ls.record

/-- For each form parameter, the place of its record among all parameters. -/
def links (ls : ParameterLists) : List (Option Nat) := ls.form.map fun i => ls.all.idxOf? i

/-! ## Changing -/

def editRecord (ls : ParameterLists) (i : Nat) (f : Parameter → Parameter) : ParameterLists where
  records := ls.records.modify i f
  all := ls.all
  form := ls.form
  inRange := by simpa using ls.inRange

/-- The lists with the record changed that stands at a place of one of them. -/
def edit (ls : ParameterLists) (view : ParameterView) (place : Nat) (f : Parameter → Parameter) :
    ParameterLists :=
  match (ls.numbers view)[place]? with
  | some i => ls.editRecord i f
  | none => ls

/-- The lists with a new record that neither of them holds yet. -/
def withRecord (ls : ParameterLists) (p : Parameter) : ParameterLists where
  records := ls.records ++ [p]
  all := ls.all
  form := ls.form
  inRange i h := by have := ls.inRange i h; simp; omega

/-- The lists with a number at the end of one of them. -/
def list (ls : ParameterLists) (view : ParameterView) (i : Nat) (h : i < ls.records.length) :
    ParameterLists :=
  match view with
  | .all =>
    { records := ls.records, all := ls.all ++ [i], form := ls.form,
      inRange := by
        intro j hj
        have := ls.inRange j
        simp only [List.mem_append, List.mem_singleton] at this hj
        rcases hj with (hj | rfl) | hj
        · exact this (.inl hj)
        · exact h
        · exact this (.inr hj) }
  | .form =>
    { records := ls.records, all := ls.all, form := ls.form ++ [i],
      inRange := by
        intro j hj
        have := ls.inRange j
        simp only [List.mem_append, List.mem_singleton] at this hj
        rcases hj with hj | hj | rfl
        · exact this (.inl hj)
        · exact this (.inr hj)
        · exact h }

/-- The lists with a new record at the end of one of them. -/
def push (ls : ParameterLists) (view : ParameterView) (p : Parameter) : ParameterLists :=
  (ls.withRecord p).list view ls.records.length (by simp [withRecord])

/-- The lists with a new parameter; a form field is listed twice, as one record. -/
def add (ls : ParameterLists) (p : Parameter) : ParameterLists :=
  let pushed := ls.push .all p
  if p.isFormParam then
    pushed.list .form ls.records.length (by simp [pushed, push, list, withRecord])
  else pushed

/-- The lists with one more form parameter: the record at a place among all parameters if a place
is given, and a new record otherwise. -/
def addForm (ls : ParameterLists) (place : Option Nat) (p : Parameter) : ParameterLists :=
  match place with
  | some k =>
    if h : k < ls.all.length then
      ls.list .form ls.all[k] (ls.inRange _ (by simp))
    else ls.push .form p
  | none => ls.push .form p

/-! ## Building and copying -/

/-- New records for all parameters, and no form yet. -/
def ofAll (all : List Parameter) : ParameterLists := all.foldl (fun ls p => ls.push .all p) .empty

/-- The place among all parameters of the form field with a name. -/
def placeOf (all : List Parameter) (name : String) : Option Nat :=
  all.findIdx? fun p => p.isFormParam && p.baseName == name

/-- Lists from separate descriptions: a form parameter is the first form field of its name among
all parameters, and has a record of its own if there is none. -/
def ofValues (all form : List Parameter) : ParameterLists :=
  form.foldl (fun ls p => ls.addForm (placeOf all p.baseName) p) (ofAll all)

/-- The same lists over new records, shared alike. -/
def copy (ls : ParameterLists) : ParameterLists :=
  ls.form.foldl (fun c i => c.addForm (ls.all.idxOf? i) (ls.record i)) (ofAll (ls.values .all))

end ParameterLists

end PlayScaffold
