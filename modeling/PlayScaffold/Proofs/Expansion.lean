import PlayScaffold.Proofs.Artifact

/-!
# Bindings, place by place

The bindings of a plan stand in blocks: first one for each supporting file, and then for each class
a block with one for each planned artifact.  So the place of a binding tells the class and the
artifact, and the other way round:

    (p.bindings classes)[n + (i * m + j)]? = the artifact at j for the class at i
                                                                        (getElem?_bindings_class)

The bindings of one class are its block alone if no class is listed twice, and as destinations tell
classes and artifacts too, no two blocks share a file (`bindings_expand`).
-/

namespace PlayScaffold

/-! ## Blocks of equal length -/

section Blocks

variable {α β : Type} (f : α → List β) (n : Nat) (hf : ∀ x, (f x).length = n)

include hf

theorem length_flatMap_blocks (xs : List α) : (xs.flatMap f).length = xs.length * n := by
  induction xs with
  | nil => simp
  | cons x xs ih =>
    rw [List.flatMap_cons, List.length_append, hf, ih, List.length_cons, Nat.succ_mul, Nat.add_comm]

/-- The item at a place of a block. -/
theorem getElem?_flatMap_blocks (j : Nat) (hj : j < n) (xs : List α) :
    ∀ i, (xs.flatMap f)[i * n + j]? = xs[i]?.bind fun x => (f x)[j]? := by
  induction xs with
  | nil => intro i; simp
  | cons x xs ih =>
    intro i
    cases i with
    | zero =>
      rw [List.flatMap_cons, Nat.zero_mul, Nat.zero_add,
        List.getElem?_append_left (by rw [hf]; exact hj)]
      rfl
    | succ i =>
      have hplace : (i + 1) * n + j = n + (i * n + j) := by rw [Nat.succ_mul]; omega
      rw [List.flatMap_cons, hplace, List.getElem?_append_right (by rw [hf]; omega), hf,
        Nat.add_sub_cancel_left, ih, List.getElem?_cons_succ]

end Blocks

/-- Templates tell artifacts apart. -/
theorem ApiArtifact.eq_of_template (a b : ApiArtifact) (h : a.template = b.template) : a = b := by
  revert h
  cases a <;> cases b <;> decide

namespace Plan

/-! ## Places -/

section Places

variable (p : Plan) (classes : List String)

theorem length_bindings : (p.bindings classes).length =
    p.supportingFiles.length + classes.length * p.apiArtifacts.length := by
  rw [bindings, List.length_append, List.length_map,
    length_flatMap_blocks _ p.apiArtifacts.length fun c => List.length_map (p.classBinding c)]

theorem getElem?_bindings_supporting (i : Nat) (hi : i < p.supportingFiles.length) :
    (p.bindings classes)[i]? = some (supportingBinding p.supportingFiles[i]) := by
  rw [bindings, List.getElem?_append_left (by rwa [List.length_map]), List.getElem?_map,
    List.getElem?_eq_getElem hi]
  rfl

theorem getElem?_bindings_class (i : Nat) (hi : i < classes.length) (j : Nat)
    (hj : j < p.apiArtifacts.length) :
    (p.bindings classes)[p.supportingFiles.length + (i * p.apiArtifacts.length + j)]? =
      some (p.classBinding classes[i] p.apiArtifacts[j]) := by
  have hblock : ∀ c, (p.apiArtifacts.map (p.classBinding c)).length = p.apiArtifacts.length :=
    fun c => List.length_map (p.classBinding c)
  have hplace : (p.supportingFiles.map supportingBinding).length ≤
      p.supportingFiles.length + (i * p.apiArtifacts.length + j) := by
    rw [List.length_map]
    exact Nat.le_add_right _ _
  rw [bindings, List.getElem?_append_right hplace, List.length_map, Nat.add_sub_cancel_left,
    getElem?_flatMap_blocks _ _ hblock j hj, List.getElem?_eq_getElem hi, Option.bind_some,
    List.getElem?_map, List.getElem?_eq_getElem hj, Option.map_some]

end Places

/-! ## Blocks of classes -/

/-- Of the bindings with some classes, those classes have their whole blocks. -/
theorem filter_bindings (p : Plan) (classes : List String) (test : Option String → Bool)
    (hnone : test none = false) : (p.bindings classes).filter (fun b => test b.apiClass) =
      (classes.filter fun c => test (some c)).flatMap fun c =>
        p.apiArtifacts.map (p.classBinding c) := by
  have hsupporting : (p.supportingFiles.map supportingBinding).filter
      (fun b => test b.apiClass) = [] := by
    refine List.filter_eq_nil_iff.mpr fun b hb => ?_
    obtain ⟨f, -, rfl⟩ := List.mem_map.mp hb
    exact ne_true_of_eq_false hnone
  have hblock : ∀ c, (p.apiArtifacts.map (p.classBinding c)).filter (fun b => test b.apiClass) =
      if test (some c) then p.apiArtifacts.map (p.classBinding c) else [] := by
    intro c
    have hclass : ∀ b ∈ p.apiArtifacts.map (p.classBinding c), b.apiClass = some c := by
      intro b hb
      obtain ⟨a, -, rfl⟩ := List.mem_map.mp hb
      rfl
    split
    · next htest => exact List.filter_eq_self.mpr fun b hb => by rw [hclass b hb, htest]
    · next htest => exact List.filter_eq_nil_iff.mpr fun b hb => by rwa [hclass b hb]
  rw [bindings, List.filter_append, hsupporting, List.nil_append, List.filter_flatMap]
  simp only [hblock]
  induction classes with
  | nil => rfl
  | cons c rest ih =>
    rw [List.flatMap_cons, ih, List.filter_cons]
    split <;> rfl

/-- The bindings that belong to a class are those of its block. -/
theorem filter_bindings_class (p : Plan) (classes : List String) (hc : classes.Nodup) (c : String)
    (hmem : c ∈ classes) : (p.bindings classes).filter (fun b => b.apiClass = some c) =
      p.apiArtifacts.map (p.classBinding c) := by
  have hclass : classes.filter (fun d => decide (some d = some c)) = [c] := by
    simp only [Option.some.injEq]
    rw [List.filter_eq, List.count_eq_one_of_mem hc hmem, List.replicate_one]
  rw [p.filter_bindings classes (fun found => decide (found = some c)) rfl, hclass,
    List.flatMap_singleton]

/-- One binding is written for each planned artifact of a class, and none for the others. -/
theorem countP_bindings (o : Options) (classes : List String) (hc : classes.Nodup) (c : String)
    (hmem : c ∈ classes) (a : ApiArtifact) :
    ((assemble o).bindings classes).countP
        (fun b => b.apiClass = some c ∧ b.template = a.template) =
      if (assemble o).hasApiArtifact a then 1 else 0 := by
  have hcount : ((assemble o).bindings classes).countP
      (fun b => b.apiClass = some c ∧ b.template = a.template) =
      (((assemble o).bindings classes).filter fun b => b.apiClass = some c).countP
        (fun b => b.template = a.template) := by
    rw [List.countP_filter]
    refine List.countP_congr fun b _ => ?_
    simp [and_comm]
  have htemplate : (fun b : ApiArtifact => decide (b.template = a.template)) = (· == a) := by
    funext b
    refine Bool.eq_iff_iff.mpr ⟨fun h => ?_, fun h => ?_⟩
    · exact beq_iff_eq.mpr (ApiArtifact.eq_of_template b a (of_decide_eq_true h))
    · exact decide_eq_true (congrArg ApiArtifact.template (beq_iff_eq.mp h))
  rw [hcount, filter_bindings_class _ classes hc c hmem, List.countP_map]
  show (assemble o).apiArtifacts.countP (fun b => decide (b.template = a.template)) = _
  rw [htemplate]
  show (assemble o).apiArtifacts.count a = _
  rw [(nodup_apiArtifacts o).count, hasApiArtifact, List.contains_eq_mem]
  simp only [decide_eq_true_iff]

/-- The destinations of the bindings that belong to classes. -/
theorem destinations_of_classes (p : Plan) (classes : List String) :
    ((p.bindings classes).filter (·.apiClass.isSome)).map (·.destination) =
      p.classDestinations classes := by
  have hall : classes.filter (fun c => (some c).isSome) = classes :=
    List.filter_eq_self.mpr fun c _ => rfl
  rw [p.filter_bindings classes Option.isSome rfl, hall, List.map_flatMap]
  simp only [List.map_map]
  rfl

/-! ## All bindings -/

/-- **The expansion of a plan.**  The supporting files come first, in order and without a class.
Then come the classes in order, each with one binding for every planned artifact in order, and with
no other.  A destination tells the class and the artifact, whatever the class is called, so that no
two files of classes meet. -/
theorem bindings_expand (o : Options) (classes : List String) (hc : classes.Nodup) :
    let p := assemble o
    let n := p.supportingFiles.length
    let m := p.apiArtifacts.length
    (p.bindings classes).length = n + classes.length * m ∧
    (∀ i (hi : i < n), (p.bindings classes)[i]? = some
      { template := p.supportingFiles[i].template
        destination := p.supportingFiles[i].destination
        apiClass := none }) ∧
    (∀ i (hi : i < classes.length) j (hj : j < m), (p.bindings classes)[n + (i * m + j)]? = some
      { template := p.apiArtifacts[j].template
        destination := p.apiDestination p.apiArtifacts[j] classes[i]
        apiClass := some classes[i] }) ∧
    (∀ c ∈ classes, ∀ a, (p.bindings classes).countP
        (fun b => b.apiClass = some c ∧ b.template = a.template) =
      if p.hasApiArtifact a then 1 else 0) ∧
    (∀ a b c d, p.apiDestination a c = p.apiDestination b d → c = d ∧ a = b) ∧
    (((p.bindings classes).filter (·.apiClass.isSome)).map (·.destination)).Nodup := by
  intro p n m
  refine ⟨p.length_bindings classes, fun i hi => p.getElem?_bindings_supporting classes i hi,
    fun i hi j hj => p.getElem?_bindings_class classes i hi j hj,
    fun c hmem a => countP_bindings o classes hc c hmem a, fun a b c d h => ?_, ?_⟩
  · exact (p.apiDestination_injective a b c d h).symm
  · rw [destinations_of_classes]
    exact nodup_classDestinations p classes (nodup_apiArtifacts o) hc

/-- Two classes, one of which is called like a controller of the other.  The implementation of the
second one is the last but one of all bindings, and it is the only file of its destination. -/
theorem bindings_expand_controllers :
    let p := assemble {}
    let classes := ["Pet", "PetController"]
    classes.Nodup ∧ p.supportingFiles.length = 15 ∧ (p.bindings classes).length = 15 + 2 * 3 ∧
    (p.bindings classes)[15 + (1 * 3 + 1)]? = some
      { template := "newApi.tera"
        destination := "app/controllers/PetControllerControllerImp.java"
        apiClass := some "PetController" } ∧
    (((p.bindings classes).filter (·.apiClass.isSome)).map (·.destination)).Nodup := by
  have hclasses : ["Pet", "PetController"].Nodup := by decide
  obtain ⟨hlength, -, hplace, -, -, hnodup⟩ := bindings_expand {} ["Pet", "PetController"] hclasses
  exact ⟨hclasses, rfl, hlength, hplace 1 (by decide) 1 (by decide), hnodup⟩

end Plan

end PlayScaffold
