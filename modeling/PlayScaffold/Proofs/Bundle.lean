import PlayScaffold.Bundle
import PlayScaffold.Proofs.Artifact
import PlayScaffold.Proofs.Passes

/-!
# What a run makes of a model

A run that succeeds finishes each operation by itself: its route is converted, its return type and
uploads are simplified, and its security requirements are looked up among the decorated schemes.

    run options primitives model = .ok done →
      List.Forall₂ (Operation.FinishesAs primitives (decoratedSchemes model.securitySchemes))
        model.operations done.value.operations                       (run_eq_ok)

The files of a bundle are those of its plan for the classes of its operations.  Two of them meet
only where the documentation is served and a class is named like its controller:

    (done.value.bindings.map (·.destination)).Nodup ↔
      ¬ (options.useSwaggerUI = true ∧ ∃ op ∈ model.operations, op.apiClass = "ApiDoc")
                                                                     (run_nodup_destinations_iff)
-/

namespace PlayScaffold

/-! ## Looking up schemes -/

namespace Operation

theorem value_authMethodsFor (operationId : String) (schemes : List DecoratedScheme)
    (security : List SecurityRequirement) :
    (authMethodsFor operationId schemes security).value =
      security.filterMap (schemeFor? schemes) := by
  induction security with
  | nil => rfl
  | cons r rest ih =>
    unfold authMethodsFor
    cases hr : schemeFor? schemes r with
    | some s =>
      rw [List.filterMap_cons_some hr, ← ih]
      rfl
    | none =>
      rw [List.filterMap_cons_none hr, ← ih]
      rfl

/-- The operation that a run makes of one with this route. -/
def finished (primitives : List String) (schemes : List DecoratedScheme) (path : String)
    (op : Operation) : Operation :=
  { simplified primitives { op with path } with
    authMethods := op.security.filterMap (schemeFor? schemes) }

theorem value_resolve (schemes : List DecoratedScheme) (op : Operation) :
    (resolve schemes op).value =
      { op with authMethods := op.security.filterMap (schemeFor? schemes) } := by
  rw [resolve, Logged.value_bind, Logged.value_pure, value_authMethodsFor]

/-- Is the second operation the first one with its route, its return type and its schemes
finished? -/
def FinishesAs (primitives : List String) (schemes : List DecoratedScheme) (op out : Operation) :
    Prop :=
  ∃ path, Route.convert op.path.toList = .ok path ∧
    out = op.finished primitives schemes (String.ofList path)

theorem finishesAs_of_transform (primitives : List String) (schemes : List DecoratedScheme)
    (op : Operation) (once : Logged Operation) (h : op.transform primitives = .ok once) :
    op.FinishesAs primitives schemes (resolve schemes once.value).value := by
  obtain ⟨path, hpath, rfl⟩ := (transform_eq_ok_iff primitives op once).mp h
  refine ⟨path, hpath, ?_⟩
  rw [value_simplify, value_resolve]
  rfl

theorem apiClass_finished (primitives : List String) (schemes : List DecoratedScheme)
    (op out : Operation) (h : op.FinishesAs primitives schemes out) :
    out.apiClass = op.apiClass := by
  obtain ⟨path, -, rfl⟩ := h
  rfl

end Operation

namespace Bundle

/-! ## The run -/

def decoratedSchemes (schemes : List SecurityScheme) : List DecoratedScheme :=
  schemes.map fun s => (DecoratedScheme.decorate s).value

theorem value_secure (operations : List (Logged Operation)) (schemes : List SecurityScheme) :
    (secure operations schemes).value =
      (operations.map fun op => (Operation.resolve (decoratedSchemes schemes) op.value).value,
        decoratedSchemes schemes) := by
  unfold secure decoratedSchemes
  simp only [Logged.value_bind, Logged.value_pure, Logged.value_mapM, List.map_map]
  rfl

/-- What a successful run returns, part by part. -/
theorem run_eq_ok (options : Options) (primitives : List String) (model : ApiModel)
    (done : Logged Bundle) (h : run options primitives model = .ok done) :
    done.value.options = options ∧
    done.value.plan = Plan.assemble options ∧
    done.value.document = model.document ∧
    done.value.securitySchemes = decoratedSchemes model.securitySchemes ∧
    List.Forall₂ (Operation.FinishesAs primitives (decoratedSchemes model.securitySchemes))
      model.operations done.value.operations := by
  unfold run at h
  obtain ⟨transformed, htransformed, h⟩ := (bind_eq_ok_iff _ _ _).mp h
  cases h
  simp only [Logged.value_bind, Logged.value_pure, value_secure]
  refine ⟨trivial, trivial, trivial, trivial, ?_⟩
  rw [List.forall₂_map_right_iff]
  exact ((mapM_eq_ok_iff _ _ _).mp htransformed).imp fun op once =>
    Operation.finishesAs_of_transform primitives _ op once

/-! ## Classes -/

theorem nodup_classesOf (operations : List Operation) : (classesOf operations).Nodup :=
  KeyMap.nodup_keys _

theorem mem_classesOf (operations : List Operation) (c : String) :
    c ∈ classesOf operations ↔ ∃ op ∈ operations, op.apiClass = c := by
  rw [classesOf, KeyMap.mem_keys_ofList, List.map_map, List.mem_map]
  rfl

/-- A run keeps the classes of its operations. -/
theorem mem_apiClasses_run (options : Options) (primitives : List String) (model : ApiModel)
    (done : Logged Bundle) (h : run options primitives model = .ok done) (c : String) :
    c ∈ done.value.apiClasses ↔ ∃ op ∈ model.operations, op.apiClass = c := by
  obtain ⟨-, -, -, -, hops⟩ := run_eq_ok options primitives model done h
  have hclass : List.Forall₂ (· = ·) (model.operations.map Operation.apiClass)
      (done.value.operations.map Operation.apiClass) := by
    rw [List.forall₂_map_left_iff, List.forall₂_map_right_iff]
    exact hops.imp fun op out hop => (Operation.apiClass_finished _ _ op out hop).symm
  rw [List.forall₂_eq_eq_eq] at hclass
  rw [apiClasses, mem_classesOf, ← List.mem_map, ← hclass, List.mem_map]

/-! ## Destinations -/

/-- **No file is written over another** unless the documentation is served and an operation is of
the class `ApiDoc`.  Even then the controller of the documentation is the only file that meets
another one. -/
theorem run_nodup_destinations_iff (options : Options) (primitives : List String)
    (model : ApiModel) (done : Logged Bundle) (h : run options primitives model = .ok done) :
    ((done.value.bindings.map (·.destination)).Nodup ↔
      ¬ (options.useSwaggerUI = true ∧ ∃ op ∈ model.operations, op.apiClass = "ApiDoc")) ∧
    ((done.value.bindings.filter Plan.isOrdinary).map (·.destination)).Nodup := by
  obtain ⟨-, hplan, -, -, -⟩ := run_eq_ok options primitives model done h
  have hnodup : done.value.apiClasses.Nodup := nodup_classesOf done.value.operations
  rw [bindings, hplan]
  refine ⟨?_, Plan.nodup_ordinary options done.value.apiClasses hnodup⟩
  rw [Plan.nodup_destinations_iff options done.value.apiClasses hnodup,
    mem_apiClasses_run options primitives model done h]

/-- Three operations in two classes have all their files to themselves. -/
theorem run_nodup_destinations_pets : ∃ done,
    run {} defaultPrimitives
      { operations := [(Operation.new "listPets" "GET" "/pets").withBaseName "pet",
          (Operation.new "addPet" "POST" "/pets").withBaseName "pet",
          Operation.new "health" "GET" "/health"] } = .ok done ∧
    done.value.apiClasses = ["Default", "Pet"] ∧
    (done.value.bindings.map (·.destination)).Nodup := by
  refine ⟨_, rfl, by decide, (run_nodup_destinations_iff {} defaultPrimitives
    { operations := [(Operation.new "listPets" "GET" "/pets").withBaseName "pet",
        (Operation.new "addPet" "POST" "/pets").withBaseName "pet",
        Operation.new "health" "GET" "/health"] } _ rfl).1.mpr ?_⟩
  rintro ⟨-, op, hop, hclass⟩
  revert op
  decide

/-- Not every run keeps its files apart: the controller of the group `api-doc` is written where that
of the documentation is. -/
theorem not_forall_run_nodup :
    ¬ ∀ (options : Options) (primitives : List String) (model : ApiModel) (done : Logged Bundle),
      run options primitives model = .ok done →
        (done.value.bindings.map (·.destination)).Nodup := by
  intro h
  have hnodup := h {} defaultPrimitives
    { operations := [(Operation.new "getDoc" "GET" "/doc").withBaseName "api-doc"] } _ rfl
  exact absurd hnodup (by decide)

end Bundle

end PlayScaffold
