import PlayScaffold.Operation.Form
import PlayScaffold.Operation.Passes

/-!
# Editing an operation in place

A step edits an operation where it stands: its own fields, and the parameter records that its lists
refer to.  What was done before a step fails stays done.  A step may add records but takes none
away, so that other lists over the same records stay what they are (`Step.records_le`).
-/

namespace PlayScaffold

/-! ## Programs in place -/

/-- A program that edits a state and may stop with an error; the state is kept as it is then, with
the warnings noted so far. -/
abbrev InPlace (σ α : Type) := EStateM Error (Logged σ) α

namespace InPlace

variable {σ α β : Type}

def edit (f : σ → Logged σ) : InPlace σ Unit := modify (· >>= f)

/-- Notes the warnings of a value and goes on with it. -/
def log (x : Logged α) : InPlace σ α :=
  modifyGet fun st => (x.value, ⟨st.value, st.warnings ++ x.warnings⟩)

/-- Goes on with a result, or stops with its error. -/
def require : Except Error α → InPlace σ α
  | .ok a => pure a
  | .error e => throw e

/-- The state that a program leaves, whether it has come to its end or not. -/
def stateOf : EStateM.Result Error (Logged σ) α → Logged σ
  | .ok _ st => st
  | .error _ st => st

theorem bind_of_ok (p : InPlace σ α) (f : α → InPlace σ β) (st st' : Logged σ) (a : α)
    (h : p st = .ok a st') : (p >>= f) st = f a st' := by
  show EStateM.bind p f st = f a st'
  rw [EStateM.bind, h]

theorem bind_of_error (p : InPlace σ α) (f : α → InPlace σ β) (st st' : Logged σ) (e : Error)
    (h : p st = .error e st') : (p >>= f) st = .error e st' := by
  show EStateM.bind p f st = .error e st'
  rw [EStateM.bind, h]

end InPlace

/-- The transformation in place: the route is written if it is one, and then the rest. -/
def Operation.transformInPlace (primitives : List String) : InPlace Operation Unit := do
  let op := (← get).value
  let path ← InPlace.require (Route.normalize op.operationId op.path)
  InPlace.edit fun op => pure { op with path }
  InPlace.edit (Operation.simplify primitives)

/-! ## Records -/

namespace ParameterLists

/-- The lists with their records behind those of a store. -/
def behind (ls : ParameterLists) (store : List Parameter) : ParameterLists where
  records := store ++ ls.records
  all := ls.all.map (store.length + ·)
  form := ls.form.map (store.length + ·)
  inRange i h := by
    rw [← List.map_append, List.mem_map] at h
    obtain ⟨j, hj, rfl⟩ := h
    have := ls.inRange j hj
    simp; omega

theorem length_edit (ls : ParameterLists) (view : ParameterView) (place : Nat)
    (f : Parameter → Parameter) : (ls.edit view place f).records.length = ls.records.length := by
  unfold edit
  split
  · simp [editRecord]
  · rfl

theorem records_list (ls : ParameterLists) (view : ParameterView) (i : Nat)
    (h : i < ls.records.length) : (ls.list view i h).records = ls.records := by
  cases view <;> rfl

theorem records_push (ls : ParameterLists) (view : ParameterView) (p : Parameter) :
    (ls.push view p).records = ls.records ++ [p] := by
  unfold push
  rw [records_list]
  rfl

theorem records_add (ls : ParameterLists) (p : Parameter) :
    (ls.add p).records = ls.records ++ [p] := by
  simp only [add]
  split
  · rw [records_list, records_push]
  · rw [records_push]

theorem length_foldl_editRecord (f : Parameter → Parameter) (numbers : List Nat) :
    ∀ ls : ParameterLists,
      (numbers.foldl (fun acc i => acc.editRecord i f) ls).records.length = ls.records.length := by
  induction numbers with
  | nil => intro ls; rfl
  | cons i rest ih =>
    intro ls
    rw [List.foldl_cons, ih]
    simp [editRecord]

theorem length_substituteUploads (ls : ParameterLists) :
    ls.substituteUploads.records.length = ls.records.length := by
  unfold substituteUploads
  rw [length_foldl_editRecord, length_foldl_editRecord]

end ParameterLists

namespace Operation

/-- The operation without its parameters. -/
def fields (op : Operation) : Operation := { op with params := .empty }

theorem params_annotate (op : Operation) : op.annotate.params = op.params := by
  unfold annotate
  split <;> rfl

theorem fields_annotate (op : Operation) : op.annotate.fields = op.fields.annotate := by
  simp only [annotate, fields]
  split <;> rfl

theorem unwrap_eq (op : Operation) :
    op.unwrap.value = { op.fields.unwrap.value with params := op.params } := by
  simp only [unwrap, fields]
  split
  · rfl
  · split
    · rfl
    · split <;> rfl

theorem simplify_eq (primitives : List String) (op : Operation) :
    (simplify primitives op).value =
      { (simplify primitives op.fields).value with params := op.params.substituteUploads } := by
  have hparams : op.annotate.params = op.params := params_annotate op
  have hfields : op.annotate.fields = op.fields.annotate := fields_annotate op
  show ({ op.annotate.unwrap.value with
      returnTypeIsPrimitive := isPrimitive primitives op.annotate.unwrap.value.returnType
      params := op.annotate.unwrap.value.params.substituteUploads } : Operation) = _
  rw [unwrap_eq op.annotate, hfields, hparams]
  rfl

/-- The transformation in place leaves an operation without a proper route as it was. -/
theorem transformInPlace_eq (primitives : List String) (st : Logged Operation) :
    transformInPlace primitives st =
      match Route.normalize st.value.operationId st.value.path with
      | .ok path => .ok () (st >>= fun op => simplify primitives { op with path })
      | .error e => .error e st := by
  unfold transformInPlace
  show EStateM.bind (InPlace.require (Route.normalize st.value.operationId st.value.path)) _ st = _
  cases Route.normalize st.value.operationId st.value.path with
  | error e => rfl
  | ok path =>
    let done := simplify primitives { st.value with path }
    show EStateM.Result.ok () (Logged.mk done.value (st.warnings ++ [] ++ done.warnings)) =
      EStateM.Result.ok () (Logged.mk done.value (st.warnings ++ done.warnings))
    rw [List.append_nil]

end Operation

/-! ## Steps -/

/-- What can be done to an operation in place. -/
inductive Step where
  /-- edits the record at a place of one of the lists -/
  | edit (view : ParameterView) (place : Nat) (f : Parameter → Parameter)
  /-- adds a new record to one of the lists -/
  | push (view : ParameterView) (p : Parameter)
  /-- adds a parameter, as `Operation.withParam` does -/
  | add (p : Parameter)
  /-- sets fields other than the parameters -/
  | set (f : Operation → Operation)
  /-- becomes the operation of a record -/
  | become (r : OperationRecord)
  | simplify (primitives : List String)
  | transform (primitives : List String)
  | resolve (schemes : List DecoratedScheme)

namespace Step

def act : Step → InPlace Operation Unit
  | .edit view place f =>
    InPlace.edit fun op => pure { op with params := op.params.edit view place f }
  | .push view p => InPlace.edit fun op => pure { op with params := op.params.push view p }
  | .add p => InPlace.edit fun op => pure (op.withParam p)
  | .set f => InPlace.edit fun op => pure { f op.fields with params := op.params }
  | .become r => InPlace.edit fun op =>
    let new := r.toOperation
    pure { new with params := new.params.behind op.params.records }
  | .simplify primitives => InPlace.edit (Operation.simplify primitives)
  | .transform primitives => Operation.transformInPlace primitives
  | .resolve schemes => InPlace.edit (Operation.resolve schemes)

/-- The operation that a step leaves. -/
def result (step : Step) (op : Operation) : Operation :=
  (InPlace.stateOf (step.act ⟨op, []⟩)).value

/-- What a step makes of the parameters of an operation with these fields. -/
def paramsAfter (step : Step) (fields : Operation) (ls : ParameterLists) : ParameterLists :=
  match step with
  | .edit view place f => ls.edit view place f
  | .push view p => ls.push view p
  | .add p => ls.add p
  | .become r => r.toOperation.params.behind ls.records
  | .simplify _ => ls.substituteUploads
  | .transform _ =>
    match Route.normalize fields.operationId fields.path with
    | .ok _ => ls.substituteUploads
    | .error _ => ls
  | .set _ | .resolve _ => ls

/-- A step does to the fields what it does without parameters, and the rest to the parameters. -/
theorem result_eq (step : Step) (op : Operation) :
    step.result op =
      { step.result op.fields with
        params := step.paramsAfter op.fields op.params } := by
  cases step with
  | edit view place f => rfl
  | push view p => rfl
  | add p => rfl
  | set f => rfl
  | become r => rfl
  | simplify primitives => exact Operation.simplify_eq primitives op
  | transform primitives =>
    have hroute : Route.normalize op.operationId op.path =
      Route.normalize op.fields.operationId op.fields.path := rfl
    simp only [result, act, Operation.transformInPlace_eq, paramsAfter, hroute]
    cases Route.normalize op.fields.operationId op.fields.path with
    | ok path => exact Operation.simplify_eq primitives { op with path }
    | error e => rfl
  | resolve schemes => rfl

theorem length_paramsAfter (step : Step) (fields : Operation) (ls : ParameterLists) :
    ls.records.length ≤ (step.paramsAfter fields ls).records.length := by
  cases step with
  | edit view place f => exact Nat.le_of_eq (ls.length_edit view place f).symm
  | push view p => simp [paramsAfter, ParameterLists.records_push]
  | add p => simp [paramsAfter, ParameterLists.records_add]
  | become r => simp [paramsAfter, ParameterLists.behind]
  | simplify primitives => exact Nat.le_of_eq ls.length_substituteUploads.symm
  | transform primitives =>
    simp only [paramsAfter]
    split
    · exact Nat.le_of_eq ls.length_substituteUploads.symm
    · exact Nat.le_refl _
  | set f => exact Nat.le_refl _
  | resolve schemes => exact Nat.le_refl _

/-- A step takes no record away. -/
theorem records_le (step : Step) (op : Operation) :
    op.params.records.length ≤ (step.result op).params.records.length := by
  rw [result_eq]
  exact length_paramsAfter step op.fields op.params

theorem value_act (step : Step) (st : Logged Operation) :
    (InPlace.stateOf (step.act st)).value = step.result st.value := by
  cases step with
  | transform primitives =>
    simp only [result, act, Operation.transformInPlace_eq]
    cases Route.normalize st.value.operationId st.value.path <;> rfl
  | _ => rfl

end Step

end PlayScaffold
