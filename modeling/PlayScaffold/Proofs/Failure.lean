import PlayScaffold.Proofs.InPlaceRun
import PlayScaffold.Proofs.RouteSyntax

/-!
# How a run fails

Nothing fails but the routes.  A run ends with the first operation whose path is no route, with its
identifier, its path as it was given and the first fault of the path; and a transformation that
fails has changed nothing.

    run options primitives model = .error e ↔ FirstMisrouted model.operations e     (run_fails)

The same holds of a run in place, whichever records its operations share.
-/

namespace PlayScaffold

/-! ## Operations without a route -/

namespace Operation

def Routed (op : Operation) : Prop := Route.WellFormed op.path.toList

/-- The error of an operation whose path is no route. -/
def Misrouted (op : Operation) (e : Error) : Prop :=
  ¬ op.Routed ∧ ∃ fault, Route.convert op.path.toList = .error fault ∧
    e = .malformedPath op.operationId op.path fault.reason

theorem transform_ok_iff (primitives : List String) (op : Operation) :
    (∃ done, op.transform primitives = .ok done) ↔ op.Routed := by
  rw [Routed, ← Route.convert_ok_iff]
  simp only [transform_eq_ok_iff]
  constructor
  · rintro ⟨_, path, hpath, -⟩
    exact ⟨path, hpath⟩
  · rintro ⟨path, hpath⟩
    exact ⟨_, path, hpath, rfl⟩

theorem transform_error_iff (primitives : List String) (op : Operation) (e : Error) :
    op.transform primitives = .error e ↔ op.Misrouted e := by
  have hrouted : op.Routed ↔ ∃ out, Route.convert op.path.toList = .ok out :=
    (Route.convert_ok_iff op.path.toList).symm
  rw [Misrouted, hrouted, transform, Route.normalize]
  cases Route.convert op.path.toList with
  | ok text => simp [bind, Except.bind, pure, Except.pure]
  | error fault => simp [bind, Except.bind, eq_comm]

/-- The error of the first operation without a route. -/
def FirstMisrouted (operations : List Operation) (e : Error) : Prop :=
  ∃ before op after, operations = before ++ op :: after ∧ (∀ o ∈ before, o.Routed) ∧ op.Misrouted e

theorem mapM_transform_error_iff (primitives : List String) (operations : List Operation)
    (e : Error) :
    operations.mapM (transform primitives) = .error e ↔ FirstMisrouted operations e := by
  simp only [mapM_eq_error_iff, transform_ok_iff, transform_error_iff, FirstMisrouted]

theorem mapM_transform_ok_iff (primitives : List String) (operations : List Operation) :
    (∃ done, operations.mapM (transform primitives) = .ok done) ↔ ∀ op ∈ operations, op.Routed := by
  simp only [exists_mapM_ok_iff, transform_ok_iff]

theorem eq_of_lists (op other : Operation) (hfields : other.fields = op.fields)
    (hrecords : other.params.records = op.params.records) (hall : other.params.all = op.params.all)
    (hform : other.params.form = op.params.form) : other = op := by
  have hparams : other.params = op.params := ParameterLists.eq_of_parts _ _ hrecords hall hform
  show { other.fields with params := other.params } = { op.fields with params := op.params }
  rw [hfields, hparams]

end Operation

open Operation (FirstMisrouted)

/-! ## In place -/

namespace Session

theorem eq_of_rel_sameLists {before after : Option Operation}
    (h : Option.Rel SameLists before after) (hrecords : ∀ op other, before = some op →
      after = some other → other.params.records = op.params.records) : after = before := by
  cases h with
  | none => rfl
  | some hsame =>
    rw [Operation.eq_of_lists _ _ hsame.fields (hrecords _ _ rfl rfl) hsame.all hsame.form]

/-- Putting an operation back where it stands changes nothing. -/
theorem operation?_put_back (s : Session) (k : Nat) (op : Operation)
    (hop : s.operation? k = some op) (h : s.records.length ≤ op.params.records.length) (j : Nat) :
    (s.put k op h).operation? j = s.operation? j := by
  by_cases hj : j = k
  · subst hj
    rw [operation?_put_self s j op h (s.lt_of_operation? j op hop), hop]
  · refine eq_of_rel_sameLists (operation?_put_of_ne s k op h j hj) fun before after hb ha => ?_
    calc after.params.records
        = (s.put k op h).records := records_of_operation? _ j after ha
      _ = s.records := s.records_of_operation? k op hop
      _ = before.params.records := (s.records_of_operation? j before hb).symm

/-- The same operations over the same records, with the same warnings noted. -/
structure Unchanged (st st' : Logged Session) : Prop where
  records : st'.value.records = st.value.records
  operations : ∀ j, st'.value.operation? j = st.value.operation? j
  warnings : st'.warnings = st.warnings

/-- A transformation that fails has changed nothing. -/
theorem unchanged_of_transform_error (primitives : List String) (k : Nat) (st st' : Logged Session)
    (e : Error) (h : perform k (.transform primitives) st = .error e st') : Unchanged st st' := by
  cases hop : st.value.operation? k with
  | none =>
    rw [perform_of_none k _ st hop] at h
    cases h
  | some op =>
    have hact := (Step.does_transform primitives).act ⟨op, st.warnings⟩
    cases hpass : op.transform primitives with
    | ok done =>
      simp only [hpass] at hact
      obtain ⟨_, hperform⟩ := perform_of_act k _ st op hop _ hact
      cases hperform.symm.trans h
    | error e' =>
      simp only [hpass] at hact
      obtain ⟨hle, hperform⟩ := perform_of_act k _ st op hop _ hact
      cases hperform.symm.trans h
      exact ⟨st.value.records_of_operation? k op hop, st.value.operation?_put_back k op hop hle,
        rfl⟩

theorem forall₂_hasFields_operations (s : Session) :
    List.Forall₂ s.HasFields (List.range s.slots.length) s.operations := by
  have hall : (List.range s.slots.length).filter (fun k => (s.operation? k).isSome) =
      List.range s.slots.length :=
    List.filter_eq_self.mpr fun k hk => (s.operation?_isSome_iff k).mpr (List.mem_range.mp hk)
  have hfound := forall₂_filterMap s.operation? _ (fun _ => rfl) (List.range s.slots.length)
  rw [hall] at hfound
  exact hfound.imp fun k op hop => ⟨op, hop, rfl⟩

end Session

/-! ## Runs -/

namespace Bundle

/-- A run succeeds where every path is a route. -/
theorem run_ok_iff (options : Options) (primitives : List String) (model : ApiModel) :
    (∃ done, run options primitives model = .ok done) ↔ ∀ op ∈ model.operations, op.Routed := by
  rw [← Operation.mapM_transform_ok_iff primitives]
  cases h : model.operations.mapM (Operation.transform primitives) with
  | error e => simp [run_of_error options primitives model e h]
  | ok transformed =>
    obtain ⟨done, hdone, -⟩ := run_of_ok options primitives model transformed h
    simp [hdone]

theorem run_error_iff (options : Options) (primitives : List String) (model : ApiModel)
    (e : Error) :
    run options primitives model = .error e ↔ FirstMisrouted model.operations e := by
  rw [← Operation.mapM_transform_error_iff primitives]
  cases h : model.operations.mapM (Operation.transform primitives) with
  | error e' => simp [run_of_error options primitives model e' h]
  | ok transformed =>
    obtain ⟨done, hdone, -⟩ := run_of_ok options primitives model transformed h
    simp [hdone]

end Bundle

namespace Session

/-- A run in place fails where a run on its operations does. -/
theorem generate_error_iff (primitives : List String) (schemes : List SecurityScheme)
    (st : Logged Session) (e : Error) :
    (∃ st', generate primitives (List.range st.value.slots.length) schemes st = .error e st') ↔
      FirstMisrouted st.value.operations e := by
  let model : ApiModel := { operations := st.value.operations, securitySchemes := schemes }
  have hreports := generate_reports {} primitives model (List.range st.value.slots.length) st
    List.nodup_range st.value.forall₂_hasFields_operations
  rw [← Bundle.run_error_iff {} primitives model]
  cases hrun : Bundle.run {} primitives model with
  | error e' =>
    rw [hrun] at hreports
    obtain ⟨st', hst'⟩ := hreports
    have hgenerate : generate primitives (List.range st.value.slots.length) schemes st =
      .error e' st' := hst'
    simp [hgenerate]
  | ok done =>
    rw [hrun] at hreports
    obtain ⟨st', hst', -⟩ := hreports
    have hgenerate : generate primitives (List.range st.value.slots.length) schemes st =
      .ok done.value.securitySchemes st' := hst'
    simp [hgenerate]

end Session

namespace Bundle

/-- **A run fails exactly where a path is no route**, with the error of the first such operation; so
does a run in place, whichever records are shared; and a transformation that fails in place has
changed nothing. -/
theorem run_fails (options : Options) (primitives : List String) (model : ApiModel) :
    ((∃ e, run options primitives model = .error e) ↔ ∃ op ∈ model.operations, ¬ op.Routed) ∧
    (∀ e, run options primitives model = .error e ↔ FirstMisrouted model.operations e) ∧
    (∀ (schemes : List SecurityScheme) (st : Logged Session) (e : Error),
      (∃ st', Session.generate primitives (List.range st.value.slots.length) schemes st =
        .error e st') ↔ FirstMisrouted st.value.operations e) ∧
    ∀ (k : Nat) (st st' : Logged Session) (e : Error),
      Session.perform k (.transform primitives) st = .error e st' → Session.Unchanged st st' := by
  refine ⟨?_, run_error_iff options primitives model,
    Session.generate_error_iff primitives, Session.unchanged_of_transform_error primitives⟩
  have herror : (∃ e, run options primitives model = .error e) ↔
      ¬ ∃ done, run options primitives model = .ok done := by
    cases run options primitives model <;> simp
  rw [herror, run_ok_iff]
  simp

/-- Three operations, two of them without a route. -/
def misroutedModel : ApiModel where
  operations := [Operation.new "listPets" "GET" "/pets",
    Operation.new "addPet" "POST" "/pets/\x7bid", Operation.new "getPet" "GET" "/pets/\x7b\x7d"]

/-- The first path that is no route is reported. -/
theorem run_fails_misrouted :
    run {} defaultPrimitives misroutedModel = .error
      (.malformedPath "addPet" "/pets/\x7bid" "unclosed '\x7b' at byte 6") ∧
    ∃ op ∈ misroutedModel.operations, ¬ op.Routed :=
  ⟨rfl, (run_fails {} defaultPrimitives misroutedModel).1.mp ⟨_, rfl⟩⟩

end Bundle

end PlayScaffold
