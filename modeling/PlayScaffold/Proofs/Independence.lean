import PlayScaffold.Proofs.Failure

/-!
# Operations are transformed independently

A run makes of each operation what a run on it alone does.  It succeeds where all of these do, and
another order of the operations gives the same ones in that order, with the same classes and files.
In place, where the operations share one store, the slots show the same operations.

    arrange order model.operations  ↦  arrange order done.value.operations      (run_independent)
-/

namespace PlayScaffold

/-! ## Orders -/

/-- The items of a list in another order: at each place stands the item of the place that the order
names. -/
def arrange {α : Type} (order : List Nat) (xs : List α) : List α := order.filterMap (xs[·]?)

section Orders

variable {α β : Type}

theorem arrange_range (xs : List α) : arrange (List.range xs.length) xs = xs := by
  unfold arrange
  induction xs with
  | nil => rfl
  | cons x xs ih =>
    rw [List.length_cons, List.range_succ_eq_map, List.filterMap_cons_some (by rfl),
      List.filterMap_map]
    exact congrArg (x :: ·) ih

theorem perm_arrange (order : List Nat) (xs : List α) (h : order.Perm (List.range xs.length)) :
    (arrange order xs).Perm xs := by
  have hperm := h.filterMap (xs[·]?)
  rwa [← arrange, ← arrange, arrange_range] at hperm

theorem forall₂_arrange (R : α → β → Prop) (order : List Nat) (xs : List α) (ys : List β)
    (h : List.Forall₂ R xs ys) : List.Forall₂ R (arrange order xs) (arrange order ys) := by
  unfold arrange
  induction order with
  | nil => exact List.Forall₂.nil
  | cons i rest ih =>
    by_cases hi : i < xs.length
    · have hi' : i < ys.length := h.length_eq ▸ hi
      rw [List.filterMap_cons_some (List.getElem?_eq_getElem hi),
        List.filterMap_cons_some (List.getElem?_eq_getElem hi')]
      exact List.Forall₂.cons (h.get hi hi') ih
    · have hi' : ¬ i < ys.length := h.length_eq ▸ hi
      rw [List.filterMap_cons_none (List.getElem?_eq_none (Nat.le_of_not_lt hi)),
        List.filterMap_cons_none (List.getElem?_eq_none (Nat.le_of_not_lt hi'))]
      exact ih

end Orders

/-! ## One operation at a time -/

namespace Operation

/-- What an operation finishes as is one operation. -/
theorem FinishesAs.unique (primitives : List String) (schemes : List DecoratedScheme) :
    Relator.RightUnique (FinishesAs primitives schemes) := by
  rintro op out other ⟨path, hpath, rfl⟩ ⟨path', hpath', rfl⟩
  rw [Except.ok.inj (hpath.symm.trans hpath')]

end Operation

namespace Bundle

/-- The classes of operations do not depend on their order. -/
theorem classesOf_perm (operations others : List Operation) (h : operations.Perm others) :
    classesOf operations = classesOf others := by
  refine KeyMap.keys_eq_of_mem_iff _ _ fun c => ?_
  show c ∈ classesOf operations ↔ c ∈ classesOf others
  simp only [mem_classesOf, h.mem_iff]

/-- The only operation of a run on one. -/
theorem run_alone (options : Options) (primitives : List String) (model : ApiModel)
    (op out : Operation)
    (h : op.FinishesAs primitives (decoratedSchemes model.securitySchemes) out) :
    ∃ one, run options primitives { model with operations := [op] } = .ok one ∧
      one.value.operations = [out] := by
  have hrouted : op.Routed := by
    obtain ⟨path, hpath, -⟩ := h
    exact (Route.convert_ok_iff op.path.toList).mp ⟨path, hpath⟩
  obtain ⟨one, hone⟩ := (run_ok_iff options primitives { model with operations := [op] }).mpr
    (by simpa using hrouted)
  obtain ⟨-, -, -, -, hops⟩ := run_eq_ok options primitives _ one hone
  refine ⟨one, hone, ?_⟩
  exact (Operation.FinishesAs.unique primitives _).forall₂ hops
    (List.Forall₂.cons h List.Forall₂.nil)

/-- The operations of a run in another order are those of the run in that order. -/
theorem run_arrange (options : Options) (primitives : List String) (model : ApiModel)
    (done : Logged Bundle) (h : run options primitives model = .ok done) (order : List Nat)
    (horder : order.Perm (List.range model.operations.length)) :
    ∃ other, run options primitives
        { model with operations := arrange order model.operations } = .ok other ∧
      other.value.operations = arrange order done.value.operations ∧
      other.value.apiClasses = done.value.apiClasses ∧
      other.value.bindings = done.value.bindings := by
  have hperm := perm_arrange order model.operations horder
  have hrouted := (run_ok_iff options primitives model).mp ⟨done, h⟩
  obtain ⟨other, hother⟩ := (run_ok_iff options primitives
    { model with operations := arrange order model.operations }).mpr
    fun op hop => hrouted op (hperm.mem_iff.mp hop)
  obtain ⟨-, hplan, -, -, hops⟩ := run_eq_ok options primitives model done h
  obtain ⟨-, hplan', -, -, hops'⟩ := run_eq_ok options primitives _ other hother
  have hoperations : other.value.operations = arrange order done.value.operations :=
    (Operation.FinishesAs.unique primitives _).forall₂ hops' (forall₂_arrange _ order _ _ hops)
  have hlength : model.operations.length = done.value.operations.length := hops.length_eq
  have hclasses : other.value.apiClasses = done.value.apiClasses := by
    rw [apiClasses, apiClasses, hoperations]
    exact classesOf_perm _ _ (perm_arrange order done.value.operations (hlength ▸ horder))
  refine ⟨other, hother, hoperations, hclasses, ?_⟩
  rw [bindings, bindings, hplan, hplan', hclasses]

end Bundle

/-! ## Over one store -/

namespace Session

theorem shows_adopt (s : Session) (op : Operation) : (s.adopt op).Shows s.slots.length op :=
  ⟨_, operation?_adopt_last s op, rfl, ParameterLists.alike_behind op.params s.records⟩

theorem ofOperations_concat (operations : List Operation) (op : Operation) :
    ofOperations (operations ++ [op]) = (ofOperations operations).adopt op :=
  List.foldl_concat adopt empty op operations

theorem length_slots_ofOperations (operations : List Operation) :
    (ofOperations operations).slots.length = operations.length := by
  induction operations using List.reverseRecOn with
  | nil => rfl
  | append_singleton operations op ih =>
    rw [ofOperations_concat, List.length_append, ← ih]
    exact List.length_append

/-- In a session of operations with records of their own each slot shows one.  Induction from the
end: the last operation is adopted into a session of the others. -/
theorem forall₂_shows_ofOperations (operations : List Operation)
    (h : ∀ op ∈ operations, op.params.Linked) :
    List.Forall₂ (ofOperations operations).Shows (List.range operations.length) operations := by
  induction operations using List.reverseRecOn with
  | nil => exact List.Forall₂.nil
  | append_singleton operations op ih =>
    have hop := h op (by simp)
    have hothers : ∀ o ∈ operations, o.params.Linked := fun o ho => h o (by simp [ho])
    have hseparate := separate_ofOperations operations hothers
    have hlength := length_slots_ofOperations operations
    have hlast := shows_adopt (ofOperations operations) op
    have hkept := changed_adopt (ofOperations operations) op hop
    rw [hlength] at hlast hkept
    rw [ofOperations_concat, List.length_append, List.length_singleton, List.range_succ]
    refine List.rel_append ?_ (List.Forall₂.cons hlast List.Forall₂.nil)
    have hlisted := (List.forall₂_and_left (List.range operations.length) operations).mpr
      ⟨fun j hj => List.mem_range.mp hj, ih hothers⟩
    refine hlisted.imp fun j o hjo => hjo.2.changed hseparate hkept ?_
    omega

end Session

namespace Bundle

/-- **Operations are transformed independently.**  A run succeeds where the runs on each operation
alone do, and makes of each what these do; another order of the operations gives the same ones in
that order, with the same classes and files.  In place, over one store of records, the slots show
the same operations. -/
theorem run_independent (options : Options) (primitives : List String) (model : ApiModel) :
    ((∃ done, run options primitives model = .ok done) ↔ ∀ op ∈ model.operations,
      ∃ one, run options primitives { model with operations := [op] } = .ok one) ∧
    ∀ done, run options primitives model = .ok done →
      List.Forall₂ (fun op out => ∃ one,
          run options primitives { model with operations := [op] } = .ok one ∧
          one.value.operations = [out]) model.operations done.value.operations ∧
      (∀ order : List Nat, order.Perm (List.range model.operations.length) → ∃ other,
        run options primitives { model with operations := arrange order model.operations } =
          .ok other ∧
        other.value.operations = arrange order done.value.operations ∧
        other.value.apiClasses = done.value.apiClasses ∧
        other.value.bindings = done.value.bindings) ∧
      ∀ origins : List Origin, model.operations = origins.map Origin.operation → ∃ st,
        Session.generate primitives (List.range model.operations.length) model.securitySchemes
          ⟨Session.ofOrigins origins, []⟩ = .ok done.value.securitySchemes st ∧
        List.Forall₂ st.value.Shows (List.range model.operations.length)
          done.value.operations := by
  refine ⟨?_, fun done h => ⟨?_, run_arrange options primitives model done h,
    fun origins horigins => ?_⟩⟩
  · rw [run_ok_iff]
    refine forall₂_congr fun op _ => ?_
    rw [run_ok_iff]
    simp
  · obtain ⟨-, -, -, -, hops⟩ := run_eq_ok options primitives model done h
    exact hops.imp fun op out => run_alone options primitives model op out
  · have hshows : List.Forall₂ (Session.ofOrigins origins).Shows
        (List.range model.operations.length) model.operations := by
      rw [horigins]
      refine Session.forall₂_shows_ofOperations _ fun op hop => ?_
      obtain ⟨o, -, rfl⟩ := List.mem_map.mp hop
      exact o.linked
    have hrun := Session.generate_eq_run options primitives model
      (List.range model.operations.length) ⟨Session.ofOrigins origins, []⟩ List.nodup_range
      (Session.separate_ofOrigins origins) hshows
    rw [h] at hrun
    obtain ⟨st, hst, hshows', -⟩ := hrun
    exact ⟨st, hst, hshows'⟩

/-- Three operations, one with an upload. -/
def petModel : ApiModel where
  operations := [(Operation.new "listPets" "GET" "/pets").withBaseName "pet",
    Session.photoUpload.toOperation, Operation.new "health" "GET" "/health"]

/-- In another order the pet store has the same operations, classes and files. -/
theorem run_independent_pets : ∃ done other,
    run {} defaultPrimitives petModel = .ok done ∧
    run {} defaultPrimitives { petModel with
      operations := arrange [2, 0, 1] petModel.operations } = .ok other ∧
    other.value.operations = arrange [2, 0, 1] done.value.operations ∧
    other.value.operations.map (·.operationId) = ["health", "listPets", "addPhoto"] ∧
    other.value.bindings = done.value.bindings := by
  obtain ⟨-, hall⟩ := run_independent {} defaultPrimitives petModel
  obtain ⟨-, hordered, -⟩ := hall _ rfl
  obtain ⟨other, hother, hoperations, -, hbindings⟩ := hordered [2, 0, 1] (by decide)
  exact ⟨_, other, rfl, hother, hoperations, by rw [hoperations]; rfl, hbindings⟩

end Bundle

end PlayScaffold
