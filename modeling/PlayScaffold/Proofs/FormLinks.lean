import PlayScaffold.Proofs.OperationRoundTrip

/-!
# Form fields, added and read

A form field that is added stands in both lists as one record.  A form field that is read is looked
up by its name, and the first form field of that name among all parameters is taken for it.  So the
two ways of building an operation agree exactly where no name is given to two form fields:

    SameView (ofValues ps (formFields ps)) (addAll ps) ↔ (formNames ps).Nodup
                                                                     (sameView_ofValues_addAll_iff)

Otherwise a later field of the same name is lost from the form: the first one stands there again.
-/

namespace PlayScaffold

namespace ParameterLists

/-! ## Added one by one -/

def addAll (ps : List Parameter) : ParameterLists := ps.foldl add .empty

def formFields (ps : List Parameter) : List Parameter := ps.filter (·.isFormParam)

def formNames (ps : List Parameter) : List String := (formFields ps).map (·.baseName)

def formPlaces (ps : List Parameter) : List Nat := ps.findIdxs (·.isFormParam)

theorem addAll_concat (ps : List Parameter) (p : Parameter) :
    addAll (ps ++ [p]) = (addAll ps).add p := by
  rw [addAll, List.foldl_append]
  rfl

theorem records_addAll (ps : List Parameter) : (addAll ps).records = ps := by
  induction ps using List.reverseRecOn with
  | nil => rfl
  | append_singleton ps p ih => rw [addAll_concat, records_add, ih]

theorem all_addAll (ps : List Parameter) : (addAll ps).all = List.range ps.length := by
  induction ps using List.reverseRecOn with
  | nil => rfl
  | append_singleton ps p ih =>
    rw [addAll_concat, all_add, ih, records_addAll, List.length_append, List.length_singleton,
      List.range_succ]

theorem form_addAll (ps : List Parameter) : (addAll ps).form = formPlaces ps := by
  induction ps using List.reverseRecOn with
  | nil => rfl
  | append_singleton ps p ih =>
    rw [addAll_concat, form_add, ih, records_addAll, formPlaces, formPlaces, List.findIdxs_append]
    by_cases hp : p.isFormParam = true
    · simp [hp]
    · simp [hp]

theorem mem_formPlaces_iff (ps : List Parameter) (i : Nat) :
    i ∈ formPlaces ps ↔ ∃ h : i < ps.length, ps[i].isFormParam = true := by
  rw [formPlaces, List.mem_findIdxs_iff_exists_getElem_pos]

theorem getD_of_lt (ps : List Parameter) (i : Nat) (h : i < ps.length) : ps.getD i {} = ps[i] := by
  rw [List.getD_eq_getElem?_getD, List.getElem?_eq_getElem h, Option.getD_some]

/-- The form fields, found by their places. -/
theorem map_formPlaces (ps : List Parameter) :
    (formPlaces ps).map (fun i => ps.getD i {}) = formFields ps := by
  refine List.ext_getElem ?_ fun k hk hk' => ?_
  · rw [List.length_map, formPlaces, formFields, List.length_findIdxs, List.countP_eq_length_filter]
  · have hplace : k < (formPlaces ps).length := by simpa using hk
    obtain ⟨hlt, -⟩ := (mem_formPlaces_iff ps _).mp (List.getElem_mem hplace)
    rw [List.getElem_map, getD_of_lt ps _ hlt]
    exact (List.getElem_filter_eq_getElem_getElem_findIdxs hk').symm

theorem values_all_addAll (ps : List Parameter) : (addAll ps).values .all = ps :=
  values_all_of_records _ ps (all_addAll ps) (by rw [records_addAll])

theorem values_form_addAll (ps : List Parameter) : (addAll ps).values .form = formFields ps := by
  have hrecord : (addAll ps).record = fun i => ps.getD i {} := by
    funext i
    rw [record, records_addAll]
  show (addAll ps).form.map (addAll ps).record = formFields ps
  rw [form_addAll, hrecord, map_formPlaces]

/-- Each form field is linked to the place where it was added. -/
theorem links_addAll (ps : List Parameter) : (addAll ps).links = (formPlaces ps).map some := by
  rw [links, form_addAll, all_addAll]
  refine List.map_congr_left fun i hi => ?_
  exact idxOf?_range_of_lt _ i ((mem_formPlaces_iff ps i).mp hi).1

/-! ## Read and linked by name -/

theorem ofValues_concat (all form : List Parameter) (p : Parameter) :
    ofValues all (form ++ [p]) = (ofValues all form).addForm (placeOf all p.baseName) p := by
  rw [ofValues, List.foldl_append]
  rfl

theorem values_form_list (ls : ParameterLists) (i : Nat) (h : i < ls.records.length) :
    (ls.list .form i h).values .form = ls.values .form ++ [ls.record i] := by
  show (ls.form ++ [i]).map ls.record = _
  rw [List.map_append]
  rfl

theorem values_form_push (ls : ParameterLists) (p : Parameter) :
    (ls.push .form p).values .form = ls.values .form ++ [p] := by
  have hold : ls.form.map (ls.push .form p).record = ls.form.map ls.record :=
    List.map_congr_left fun i hi =>
      record_push_of_lt ls .form p i (ls.inRange i (List.mem_append_right _ hi))
  show (ls.form ++ [ls.records.length]).map (ls.push .form p).record = _
  rw [List.map_append, hold, List.map_singleton, record_push_self]
  rfl

/-- A form parameter without a place among all parameters holds what was read of it, any other what
stands at its place. -/
theorem values_form_ofValues (all form : List Parameter) : (ofValues all form).values .form =
    form.map fun p => (placeOf all p.baseName).elim p fun k => all.getD k {} := by
  induction form using List.reverseRecOn with
  | nil => rw [ofValues, List.foldl_nil, values, numbers, form_ofAll]; rfl
  | append_singleton form p ih =>
    have hlinked := linkedByName_ofValues all form
    rw [ofValues_concat, List.map_append, ← ih]
    generalize ofValues all form = ls at hlinked
    cases hplace : placeOf all p.baseName with
    | some k =>
      obtain ⟨hk, -, hk', hadd⟩ := hlinked.addForm_some p k hplace
      rw [hadd, values_form_list, ls.record_of_prefix all hlinked.records k hk, List.map_singleton,
        hplace, Option.elim_some, getD_of_lt all k hk]
    | none =>
      rw [addForm, values_form_push, List.map_singleton, hplace, Option.elim_none]

/-- Whichever record is taken for it, a form parameter has the name that was read. -/
theorem names_ofValues (all form : List Parameter) :
    ((ofValues all form).values .form).map (·.baseName) = form.map (·.baseName) := by
  rw [values_form_ofValues, List.map_map]
  refine List.map_congr_left fun p _ => ?_
  rw [Function.comp_apply]
  cases hplace : placeOf all p.baseName with
  | some k =>
    obtain ⟨hk, hfound, -⟩ := List.findIdx?_eq_some_iff_getElem.mp hplace
    rw [Option.elim_some, getD_of_lt all k hk]
    simpa using (Bool.and_eq_true_iff.mp hfound).2
  | none => rfl

/-- A form parameter is linked to the first form field of its name among all parameters. -/
theorem links_ofValues (all form : List Parameter) :
    (ofValues all form).links = form.map fun p => placeOf all p.baseName := by
  have hnames := namesLinks_ofValues all form
  have hvalues := (linkedByName_ofValues all form).values
  calc (ofValues all form).links
      = ((ofValues all form).values .form).map fun p => placeOf all p.baseName := by
        rw [values, List.map_map, links]
        refine List.map_congr_left fun i hi => ?_
        rw [← hnames i hi, hvalues]
        rfl
    _ = (((ofValues all form).values .form).map (·.baseName)).map (placeOf all) := by
        rw [List.map_map]
        rfl
    _ = form.map fun p => placeOf all p.baseName := by
        rw [names_ofValues, List.map_map]
        rfl

/-! ## Where both agree -/

/-- What is seen of two pairs of lists is the same: the parameters, and which of all parameters each
form parameter is. -/
structure SameView (ls ks : ParameterLists) : Prop where
  all : ls.values .all = ks.values .all
  form : ls.values .form = ks.values .form
  links : ls.links = ks.links

/-- Among the form fields no name comes twice if each field is the first of its name. -/
theorem nodup_formNames_iff (ps : List Parameter) : (formNames ps).Nodup ↔
    ∀ i ∈ formPlaces ps, placeOf ps (ps.getD i {}).baseName = some i := by
  have hnodup : (formNames ps).Nodup ↔ ∀ i j (_ : i < ps.length) (_ : j < ps.length), i < j →
      ps[i].isFormParam = true → ps[j].isFormParam = true → ps[i].baseName ≠ ps[j].baseName := by
    rw [formNames, formFields, List.Nodup, List.pairwise_map, List.pairwise_filter,
      List.pairwise_iff_getElem]
  rw [hnodup]
  constructor
  · intro h i hi
    obtain ⟨hlt, hform⟩ := (mem_formPlaces_iff ps i).mp hi
    rw [getD_of_lt ps i hlt, placeOf, List.findIdx?_eq_some_iff_getElem]
    refine ⟨hlt, by simp [hform], fun j hj hfound => ?_⟩
    obtain ⟨hjform, hjname⟩ := Bool.and_eq_true_iff.mp hfound
    exact h j i (by omega) hlt hj hjform hform (by simpa using hjname)
  · intro h i j hi hj hlt hiform hjform hname
    have hplace := h j ((mem_formPlaces_iff ps j).mpr ⟨hj, hjform⟩)
    rw [getD_of_lt ps j hj, placeOf, List.findIdx?_eq_some_iff_getElem] at hplace
    obtain ⟨_, -, hfirst⟩ := hplace
    exact hfirst i hlt (by simp [hiform, hname])

/-- Links to places of all parameters tell the records. -/
theorem form_eq_of_links (ls : ParameterLists) (n : Nat) (places : List Nat)
    (hall : ls.all = List.range n) (h : ls.links = places.map some) : ls.form = places := by
  have hplaces : List.Forall₂ (· = ·) (ls.form.map fun i => ls.all.idxOf? i) (places.map some) := by
    rw [List.forall₂_eq_eq_eq]
    exact h
  rw [List.forall₂_map_left_iff, List.forall₂_map_right_iff] at hplaces
  rw [← List.forall₂_eq_eq_eq]
  refine hplaces.imp fun i k hik => ?_
  obtain ⟨hk, hget, -⟩ := List.idxOf?_eq_some_iff.mp hik
  simp only [hall, List.getElem_range] at hget
  exact hget.symm

/-- **Reading and adding agree** exactly where no two form fields have the same name. -/
theorem sameView_ofValues_addAll_iff (ps : List Parameter) :
    SameView (ofValues ps (formFields ps)) (addAll ps) ↔ (formNames ps).Nodup := by
  have hlinked := linkedByName_ofValues ps (formFields ps)
  have hlinks : (ofValues ps (formFields ps)).links = (addAll ps).links ↔ (formNames ps).Nodup := by
    rw [links_ofValues, links_addAll, ← map_formPlaces, List.map_map, List.map_inj_left,
      nodup_formNames_iff]
    rfl
  constructor
  · intro h
    exact hlinks.mp h.links
  · intro h
    have hplaces : (ofValues ps (formFields ps)).form = formPlaces ps :=
      form_eq_of_links _ ps.length _ hlinked.all ((hlinks.mpr h).trans (links_addAll ps))
    refine ⟨by rw [hlinked.values, values_all_addAll], ?_, hlinks.mpr h⟩
    rw [values_form_addAll, values, numbers, hplaces]
    refine (List.map_congr_left fun i hi => ?_).trans (map_formPlaces ps)
    obtain ⟨hlt, -⟩ := (mem_formPlaces_iff ps i).mp hi
    have hrecord := record_of_prefix _ ps hlinked.records i hlt
    rw [hrecord, getD_of_lt ps i hlt]

end ParameterLists

/-! ## Operations -/

namespace Operation

open ParameterLists (addAll formFields formNames formPlaces placeOf SameView)

def withParams (op : Operation) (ps : List Parameter) : Operation := ps.foldl withParam op

theorem params_withParams (op : Operation) (ps : List Parameter) (h : op.params = .empty) :
    (op.withParams ps).params = addAll ps := by
  induction ps using List.reverseRecOn with
  | nil => exact h
  | append_singleton ps p ih =>
    rw [withParams, List.foldl_append, ParameterLists.addAll_concat, ← ih]
    rfl

section

variable {δ : Type} [Document δ]

/-- **An operation that is read and one whose parameters are added one by one.**  Both have the same
parameters; one by one, each form field is linked to the place where it was added; read, it is
linked to the first form field of its name.  They look the same exactly where no two form fields
have the same name.  Every list of parameters can be read: it is what is written of the operation
that has them added. -/
theorem read_sameView_iff (ps : List Parameter) (start : Operation)
    (hstart : start.params = .empty) :
    (∀ (d : δ) (r : OperationRecord), OperationRecord.form.read d = .ok r → r.allParams = ps →
      r.formParams = formFields ps → ∃ op, Operation.read d = .ok op ∧
        op.params.values .all = ps ∧
        (op.params.values .form).map (·.baseName) = formNames ps ∧
        op.params.links = (formFields ps).map (fun p => placeOf ps p.baseName) ∧
        (SameView op.params (start.withParams ps).params ↔ (formNames ps).Nodup)) ∧
    (start.withParams ps).params.values .all = ps ∧
    (start.withParams ps).params.values .form = formFields ps ∧
    (start.withParams ps).params.links = (formPlaces ps).map some ∧
    ∃ r, OperationRecord.form.read (start.withParams ps).toJson = .ok r ∧ r.allParams = ps ∧
      r.formParams = formFields ps := by
  have hbuilt := params_withParams start ps hstart
  refine ⟨fun d r hread hall hform => ?_, ?_, ?_, ?_, ?_⟩
  · have hparams : r.toOperation.params = ParameterLists.ofValues ps (formFields ps) := by
      rw [OperationRecord.toOperation, hall, hform]
    refine ⟨r.toOperation, by rw [Operation.read, hread]; rfl, ?_, ?_, ?_, ?_⟩
    · rw [hparams, (ParameterLists.linkedByName_ofValues ps _).values]
    · rw [hparams, ParameterLists.names_ofValues]
      rfl
    · rw [hparams, ParameterLists.links_ofValues]
    · rw [hparams, hbuilt, ParameterLists.sameView_ofValues_addAll_iff]
  · rw [hbuilt, ParameterLists.values_all_addAll]
  · rw [hbuilt, ParameterLists.values_form_addAll]
  · rw [hbuilt, ParameterLists.links_addAll]
  · refine ⟨_, read_record _, ?_, ?_⟩
    · show (start.withParams ps).params.values .all = ps
      rw [hbuilt, ParameterLists.values_all_addAll]
    · show (start.withParams ps).params.values .form = formFields ps
      rw [hbuilt, ParameterLists.values_form_addAll]

end

/-- A parameter of the path, and two form fields of different names. -/
def uploadParams : List Parameter := [
  { baseName := "petId", dataType := "Long", isPathParam := true },
  { baseName := "file", dataType := "File", isFormParam := true, isFile := true },
  { baseName := "caption", dataType := "String", isFormParam := true }]

/-- The form fields are linked to the second and the third parameter, read or added. -/
theorem read_sameView_upload :
    let built := (new "uploadFile" "POST" "/pet").withParams uploadParams
    (formNames uploadParams).Nodup ∧ built.params.links = [some 1, some 2] ∧
    ∃ op, Operation.read built.toJson = .ok op ∧ SameView op.params built.params := by
  obtain ⟨hread, -, -, hlinks, r, hr, hall, hform⟩ :=
    @read_sameView_iff Json _ uploadParams (new "uploadFile" "POST" "/pet") rfl
  obtain ⟨op, hop, -, -, -, hsame⟩ := hread _ r hr hall hform
  have hnames : (formNames uploadParams).Nodup := by decide
  exact ⟨hnames, hlinks, op, hop, hsame.mpr hnames⟩

/-- Two form fields of one name and of different types. -/
def twinDocument : Json :=
  let tag (type : String) : Json :=
    .obj [("baseName", .str "tag"), ("dataType", .str type), ("isFormParam", .bool true)]
  .obj [("allParams", .arr [tag "Integer", tag "String"]),
    ("formParams", .arr [tag "Integer", tag "String"])]

/-- The second field is linked to the first one when it is read. -/
theorem not_forall_read_sameView :
    ¬ ∀ (d : Json) (r : OperationRecord) (start op : Operation), start.params = .empty →
      OperationRecord.form.read d = .ok r → r.formParams = formFields r.allParams →
      Operation.read d = .ok op → SameView op.params (start.withParams r.allParams).params := by
  intro h
  have hsame := h twinDocument _ (new "addTags" "POST" "/tags") _ rfl rfl rfl rfl
  exact absurd hsame.links (by decide)

end Operation

end PlayScaffold
