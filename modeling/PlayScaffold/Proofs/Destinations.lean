import PlayScaffold.Files
import PlayScaffold.Proofs.Bundle
import PlayScaffold.Proofs.Casing

/-!
# Files stay below the output root

The options and the names of groups are free texts, and both are part of the paths that are
written.  Dots of a package become slashes, so that no part of its folder holds a dot; the name of a
class holds neither dots nor slashes, so that its file is the last part of the path.  Hence no path
leads out of the output root (`Path.StaysBelow`):

    run options primitives model = .ok done →
      ∀ b ∈ done.value.bindings, Path.StaysBelow b.destination        (run_destinations_stay_below)
-/

namespace PlayScaffold

/-! ## Parts of paths -/

namespace Path

/-- The path is relative, and none of its parts stands for its own folder or the one above. -/
structure StaysBelow (path : String) : Prop where
  relative : path.toList.head? ≠ some '/'
  parts : ∀ part ∈ segments path.toList, part ≠ ['.'] ∧ part ≠ ['.', '.']

instance (path : String) : Decidable (StaysBelow path) :=
  decidable_of_iff (path.toList.head? ≠ some '/' ∧
      ∀ part ∈ segments path.toList, part ≠ ['.'] ∧ part ≠ ['.', '.'])
    ⟨fun h => ⟨h.1, h.2⟩, fun h => ⟨h.relative, h.parts⟩⟩

theorem segments_cons_of_ne (c : Char) (cs part : List Char) (parts : List (List Char))
    (hc : c ≠ '/') (h : segments cs = part :: parts) :
    segments (c :: cs) = (c :: part) :: parts := by
  rw [segments, if_neg hc, h]

theorem segments_ne_nil (cs : List Char) : segments cs ≠ [] := by
  cases cs with
  | nil => simp [segments]
  | cons c cs =>
    rw [segments]
    split
    · exact List.cons_ne_nil _ _
    · split
      · exact List.cons_ne_nil _ _
      · exact List.cons_ne_nil _ _

/-- A slash parts what stands before it from what stands behind it. -/
theorem segments_append_slash (cs ds : List Char) :
    segments (cs ++ '/' :: ds) = segments cs ++ segments ds := by
  induction cs with
  | nil => rfl
  | cons c cs ih =>
    by_cases hc : c = '/'
    · rw [List.cons_append, segments, if_pos hc, segments, if_pos hc, ih]
      rfl
    · obtain ⟨part, parts, hparts⟩ := List.exists_cons_of_ne_nil (segments_ne_nil cs)
      rw [hparts] at ih
      rw [List.cons_append, segments_cons_of_ne c _ part _ hc ih,
        segments_cons_of_ne c cs part parts hc hparts]
      rfl

theorem segments_of_slashless (cs : List Char) (h : '/' ∉ cs) : segments cs = [cs] := by
  induction cs with
  | nil => rfl
  | cons c cs ih =>
    simp only [List.mem_cons, not_or] at h
    obtain ⟨hc, hcs⟩ := h
    exact segments_cons_of_ne c cs cs [] (Ne.symm hc) (ih hcs)

theorem mem_of_mem_segments (cs part : List Char) (h : part ∈ segments cs) (d : Char)
    (hd : d ∈ part) : d ∈ cs := by
  induction cs generalizing part with
  | nil =>
    rw [List.mem_singleton.mp h] at hd
    exact hd
  | cons c cs ih =>
    by_cases hc : c = '/'
    · rw [segments, if_pos hc] at h
      rcases List.mem_cons.mp h with rfl | h
      · cases hd
      · exact List.mem_cons_of_mem c (ih part h hd)
    · obtain ⟨first, parts, hparts⟩ := List.exists_cons_of_ne_nil (segments_ne_nil cs)
      rw [segments_cons_of_ne c cs first parts hc hparts] at h
      rcases List.mem_cons.mp h with rfl | h
      · rcases List.mem_cons.mp hd with rfl | hd
        · exact List.mem_cons_self
        · exact List.mem_cons_of_mem c (ih first (by rw [hparts]; exact List.mem_cons_self) hd)
      · exact List.mem_cons_of_mem c (ih part (by rw [hparts]; exact List.mem_cons_of_mem _ h) hd)

/-- A part without dots and a long one stand for no other folder. -/
theorem ne_dots_of_not_mem (part : List Char) (h : '.' ∉ part) :
    part ≠ ['.'] ∧ part ≠ ['.', '.'] := by
  constructor
  · rintro rfl
    exact h List.mem_cons_self
  · rintro rfl
    exact h List.mem_cons_self

theorem ne_dots_of_length (part : List Char) (h : 2 < part.length) :
    part ≠ ['.'] ∧ part ≠ ['.', '.'] := by
  constructor
  · rintro rfl
    simp at h
  · rintro rfl
    simp at h

end Path

/-! ## Names of classes -/

/-- The name of a class holds no punctuation. -/
theorem Operation.unpunctuated_of_mem_apiClass (op : Operation) (d : Char)
    (hd : d ∈ op.apiClass.toList) : Text.Unpunctuated d := by
  unfold apiClass at hd
  simp only at hd
  split at hd
  · have hall : defaultClass.toList.all (fun c => decide (Text.Unpunctuated c)) = true := by decide
    exact of_decide_eq_true (List.all_eq_true.mp hall d hd)
  · rw [Identifier.properCase, String.toList_ofList] at hd
    exact Identifier.unpunctuated_of_mem_proper _ d hd

theorem Operation.slash_not_mem_apiClass (op : Operation) : '/' ∉ op.apiClass.toList := by
  intro hmem
  exact (op.unpunctuated_of_mem_apiClass '/' hmem).ne '/' '/' rfl rfl rfl

/-! ## Folders and files -/

namespace Plan

theorem toList_packageFolder (package : String) : (packageFolder package).toList =
    "app/".toList ++ package.toList.map fun c => if c = '.' then '/' else c := by
  simp only [packageFolder, String.toList_append, String.toList_ofList]

/-- No dot is left of a package. -/
theorem dot_not_mem_packageFolder (package : String) : '.' ∉ (packageFolder package).toList := by
  rw [toList_packageFolder, List.mem_append, List.mem_map]
  rintro (h | ⟨c, -, h⟩)
  · revert h
    decide
  · split at h
    · exact absurd h (by decide)
    · next hc => exact hc h

theorem suffix_slashless (a : ApiArtifact) :
    '/' ∉ a.suffix.toList ∧ 2 < a.suffix.toList.length := by
  cases a <;> decide

/-- The file of a class is the last part of its path. -/
theorem segments_apiDestination (p : Plan) (a : ApiArtifact) (c : String)
    (hc : '/' ∉ c.toList) :
    Path.segments (p.apiDestination a c).toList =
      Path.segments p.apiFolder.toList ++ [(c ++ a.suffix).toList] := by
  have hfile : '/' ∉ (c ++ a.suffix).toList := by
    rw [String.toList_append, List.mem_append]
    exact not_or.mpr ⟨hc, (suffix_slashless a).1⟩
  have hlist : (p.apiDestination a c).toList =
      p.apiFolder.toList ++ '/' :: (c ++ a.suffix).toList := by
    rw [apiDestination_toList, String.toList_append, String.toList_append, List.append_assoc]
    rfl
  rw [hlist, Path.segments_append_slash, Path.segments_of_slashless _ hfile]

theorem app_prefix_apiDestination (o : Options) (a : ApiArtifact) (c : String) :
    "app/".toList <+: ((assemble o).apiDestination a c).toList := by
  rw [apiDestination_toList, String.toList_append, List.append_assoc]
  show "app/".toList <+: (packageFolder o.apiPackage).toList ++ _
  rw [toList_packageFolder, List.append_assoc]
  exact List.prefix_append _ _

theorem staysBelow_apiDestination (o : Options) (a : ApiArtifact) (c : String)
    (hc : '/' ∉ c.toList) : Path.StaysBelow ((assemble o).apiDestination a c) := by
  refine ⟨?_, fun part hpart => ?_⟩
  · obtain ⟨rest, hrest⟩ := app_prefix_apiDestination o a c
    rw [← hrest]
    show some 'a' ≠ some '/'
    decide
  · rw [segments_apiDestination _ a c hc] at hpart
    rcases List.mem_append.mp hpart with hfolder | hfile
    · apply Path.ne_dots_of_not_mem
      intro hdot
      exact dot_not_mem_packageFolder o.apiPackage
        (Path.mem_of_mem_segments _ part hfolder '.' hdot)
    · rw [List.mem_singleton.mp hfile]
      apply Path.ne_dots_of_length
      have hlength := (suffix_slashless a).2
      rw [String.toList_append, List.length_append]
      omega

theorem staysBelow_fixedDestinations
    (withInterfaces handleExceptions wrapCalls useSwaggerUI : Bool) (s : String)
    (h : s ∈ fixedDestinations withInterfaces handleExceptions wrapCalls useSwaggerUI) :
    Path.StaysBelow s := by
  revert s
  revert withInterfaces handleExceptions wrapCalls useSwaggerUI
  decide

/-- **No file of a plan is written outside**, if the names of the classes hold no slash. -/
theorem staysBelow_destination (o : Options) (classes : List String)
    (hclasses : ∀ c ∈ classes, '/' ∉ c.toList) (b : Binding)
    (hb : b ∈ (assemble o).bindings classes) : Path.StaysBelow b.destination := by
  have hdestination : b.destination ∈ ((assemble o).bindings classes).map (·.destination) :=
    List.mem_map_of_mem hb
  rw [map_destination_bindings, List.mem_append, List.mem_append] at hdestination
  rcases hdestination with (hplain | hdocumentation) | hclass
  · exact staysBelow_fixedDestinations _ _ _ _ _ hplain
  · unfold only at hdocumentation
    split at hdocumentation
    · rw [List.mem_singleton.mp hdocumentation]
      exact staysBelow_apiDestination o .controller "ApiDoc" (by decide)
    · cases hdocumentation
  · obtain ⟨c, hc, a, -, hac⟩ := (mem_classDestinations _ _ _).mp hclass
    rw [← hac]
    exact staysBelow_apiDestination o a c (hclasses c hc)

/-- The bindings of classes are those of the planned artifacts for each class. -/
theorem mem_bindings_of_class (p : Plan) (classes : List String) (b : Binding) (c : String)
    (hc : b.apiClass = some c) :
    b ∈ p.bindings classes ↔ c ∈ classes ∧ ∃ a ∈ p.apiArtifacts, b = p.classBinding c a := by
  unfold bindings
  rw [List.mem_append, List.mem_flatMap]
  constructor
  · rintro (hsupporting | ⟨d, hd, hclass⟩)
    · obtain ⟨f, -, rfl⟩ := List.mem_map.mp hsupporting
      cases hc
    · obtain ⟨a, ha, rfl⟩ := List.mem_map.mp hclass
      cases hc
      exact ⟨hd, a, ha, rfl⟩
  · rintro ⟨hmem, a, ha, rfl⟩
    exact Or.inr ⟨c, hmem, List.mem_map.mpr ⟨a, ha, rfl⟩⟩

end Plan

/-! ## Runs -/

namespace Bundle

theorem slash_not_mem_apiClasses (b : Bundle) (c : String) (hc : c ∈ b.apiClasses) :
    '/' ∉ c.toList := by
  obtain ⟨op, -, rfl⟩ := (mem_classesOf b.operations c).mp hc
  exact op.slash_not_mem_apiClass

/-- **No file is written outside the output root.**  The file of a class stands below the folder of
the application, and is named by the class and what its artifact is called; each class has a file
for every planned artifact. -/
theorem run_destinations_stay_below (options : Options) (primitives : List String)
    (model : ApiModel) (done : Logged Bundle) (h : run options primitives model = .ok done) :
    (∀ b ∈ done.value.bindings, Path.StaysBelow b.destination) ∧
    (∀ b ∈ done.value.bindings, ∀ c, b.apiClass = some c →
      ∃ a ∈ done.value.plan.apiArtifacts, b.template = a.template ∧
        "app/".toList <+: b.destination.toList ∧
        (Path.segments b.destination.toList).getLast? = some (c ++ a.suffix).toList) ∧
    ∀ op ∈ model.operations, ∀ a ∈ done.value.plan.apiArtifacts,
      ∃ b ∈ done.value.bindings, b.apiClass = some op.apiClass ∧ b.template = a.template := by
  obtain ⟨-, hplan, -, -, -⟩ := run_eq_ok options primitives model done h
  have hslashless := done.value.slash_not_mem_apiClasses
  unfold bindings
  rw [hplan]
  refine ⟨Plan.staysBelow_destination options done.value.apiClasses hslashless, ?_, ?_⟩
  · intro b hb c hc
    obtain ⟨hmem, a, ha, rfl⟩ := (Plan.mem_bindings_of_class _ _ b c hc).mp hb
    refine ⟨a, ha, rfl, Plan.app_prefix_apiDestination options a c, ?_⟩
    show (Path.segments ((Plan.assemble options).apiDestination a c).toList).getLast? = _
    rw [Plan.segments_apiDestination _ a c (hslashless c hmem), List.getLast?_concat]
  · intro op hop a ha
    have hclass : op.apiClass ∈ done.value.apiClasses :=
      (mem_apiClasses_run options primitives model done h op.apiClass).mpr ⟨op, hop, rfl⟩
    exact ⟨(Plan.assemble options).classBinding op.apiClass a,
      (Plan.mem_bindings_of_class _ _ _ op.apiClass rfl).mpr ⟨hclass, a, ha, rfl⟩, rfl, rfl⟩

/-- A package and a group that both try to leave the root. -/
theorem run_destinations_stay_below_climbing : ∃ done,
    run { apiPackage := "../../etc" } defaultPrimitives
      { operations := [(Operation.new "getPet" "GET" "/pet").withBaseName "../../pet"] } =
        .ok done ∧
    "app///////etc/PetController.java" ∈ done.value.bindings.map (·.destination) ∧
    ∀ b ∈ done.value.bindings, Path.StaysBelow b.destination :=
  ⟨_, rfl, by decide, (run_destinations_stay_below { apiPackage := "../../etc" } defaultPrimitives
    { operations := [(Operation.new "getPet" "GET" "/pet").withBaseName "../../pet"] } _ rfl).1⟩

end Bundle

end PlayScaffold
