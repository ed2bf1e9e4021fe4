import PlayScaffold.ApiModel
import PlayScaffold.Operation.InPlace

/-!
# Sessions

A session edits several operations in place, over one store of parameter records.  A slot holds
numbers of records, and any list of any slot may hold the number of any record; a step on one slot
is seen in every slot that shares a record with it.  A copy gets records of its own.
-/

namespace PlayScaffold

/-- An operation whose parameter records stand in a store. -/
structure Slot where
  /-- all but its parameters -/
  fields : Operation
  /-- the numbers of all parameters -/
  all : List Nat
  /-- the numbers of the form parameters -/
  form : List Nat

/-- The slot of an operation whose records are those of the store. -/
def Slot.of (op : Operation) : Slot := ⟨op.fields, op.params.all, op.params.form⟩

/-- Operations over one store of records. -/
structure Session where
  records : List Parameter := []
  slots : List Slot := []
  inRange : ∀ slot ∈ slots, ∀ i ∈ slot.all ++ slot.form, i < records.length := by simp

namespace Session

/-! ## Looking and putting back -/

/-- The operation of a slot, over the records of the whole store. -/
def operation? (s : Session) (k : Nat) : Option Operation :=
  if h : k < s.slots.length then
    let slot := s.slots[k]
    some { slot.fields with
      params := ⟨s.records, slot.all, slot.form, s.inRange slot (List.getElem_mem h)⟩ }
  else none

def operations (s : Session) : List Operation :=
  (List.range s.slots.length).filterMap s.operation?

theorem records_of_operation? (s : Session) (k : Nat) (op : Operation)
    (h : s.operation? k = some op) : op.params.records = s.records := by
  unfold operation? at h
  split at h
  · rw [← Option.some.inj h]
  · cases h

/-- The session with an operation over its records, which may be more by now, in a slot. -/
def put (s : Session) (k : Nat) (op : Operation) (h : s.records.length ≤ op.params.records.length) :
    Session where
  records := op.params.records
  slots := s.slots.set k (.of op)
  inRange := by
    intro slot hslot i hi
    rcases List.mem_or_eq_of_mem_set hslot with hslot | rfl
    · exact Nat.lt_of_lt_of_le (s.inRange slot hslot i hi) h
    · exact op.params.inRange i hi

/-- The session with one more slot for an operation that has records of its own. -/
def adopt (s : Session) (op : Operation) : Session where
  records := s.records ++ op.params.records
  slots := s.slots ++ [.of { op with params := op.params.behind s.records }]
  inRange := by
    intro slot hslot i hi
    rcases List.mem_append.mp hslot with hslot | hslot
    · have := s.inRange slot hslot i hi
      rw [List.length_append]
      omega
    · rw [List.mem_singleton.mp hslot] at hi
      exact (op.params.behind s.records).inRange i hi

def empty : Session := {}

/-- A session of operations that have records of their own. -/
def ofOperations (operations : List Operation) : Session := operations.foldl adopt empty

/-! ## Commands -/

/-- Puts back what a step has left of the operation of a slot. -/
def finish (s : Session) (k : Nat) : (done : EStateM.Result Error (Logged Operation) Unit) →
    s.records.length ≤ (InPlace.stateOf done).value.params.records.length →
    EStateM.Result Error (Logged Session) Unit
  | .ok _ st, h => .ok () ⟨s.put k st.value h, st.warnings⟩
  | .error e st, h => .error e ⟨s.put k st.value h, st.warnings⟩

theorem length_le_stateOf_act (s : Session) (k : Nat) (step : Step) (st : Logged Operation)
    (h : s.operation? k = some st.value) :
    s.records.length ≤ (InPlace.stateOf (step.act st)).value.params.records.length := by
  rw [Step.value_act, ← s.records_of_operation? k st.value h]
  exact step.records_le st.value

/-- Runs a step on the operation of a slot. -/
def perform (k : Nat) (step : Step) : InPlace Session Unit := fun st =>
  match h : st.value.operation? k with
  | none => .ok () st
  | some op => st.value.finish k (step.act ⟨op, st.warnings⟩)
    (st.value.length_le_stateOf_act k step ⟨op, st.warnings⟩ h)

/-- Copies the operation of a slot into a slot of its own. -/
def copy (s : Session) (k : Nat) : Session :=
  match s.operation? k with
  | none => s
  | some op => s.adopt op.copy

/-- What can be asked of a session. -/
inductive Command where
  /-- a step on the operation of a slot -/
  | on (slot : Nat) (step : Step)
  /-- a copy of the operation of a slot, in a slot of its own -/
  | copy (slot : Nat)

def Command.slot : Command → Nat
  | .on slot _ => slot
  | .copy slot => slot

def Command.at (slot : Nat) : Command → Command
  | .on _ step => .on slot step
  | .copy _ => .copy slot

def Command.act : Command → InPlace Session Unit
  | .on slot step => perform slot step
  | .copy slot => InPlace.edit fun s => pure (s.copy slot)

/-- The session that a command leaves, whether it fails or not. -/
def after (s : Session) (c : Command) : Session :=
  (InPlace.stateOf (c.act ⟨s, []⟩)).value

/-- The session after a list of commands; one that fails does not stop those behind it. -/
def afterAll (s : Session) (commands : List Command) : Session :=
  commands.foldl after s

/-! ## Runs -/

/-- Takes the operations of some slots through all passes; the first one without a proper route ends
the run. -/
def generate (primitives : List String) (slots : List Nat) (schemes : List SecurityScheme) :
    InPlace Session (List DecoratedScheme) := do
  slots.forM fun k => perform k (.transform primitives)
  let decorated ← InPlace.log (schemes.mapM DecoratedScheme.decorate)
  slots.forM fun k => perform k (.resolve decorated)
  return decorated

end Session

end PlayScaffold
