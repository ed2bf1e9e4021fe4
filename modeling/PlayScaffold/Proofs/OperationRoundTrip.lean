import PlayScaffold.Proofs.Derived
import PlayScaffold.Proofs.ReadBack
import PlayScaffold.Proofs.Renaming

/-!
# Operations survive writing and reading

Which parameters share a record is not written.  It is found again by name: a form parameter is the
first form field of its name among all parameters.  Lists that were linked by name are linked in the
same way then, whatever names occur twice; and they stay so, since uploads are substituted without a
look at names and flags:

    ls.NamesLinks → ofValues (ls.values .all) (ls.values .form) = ls.copy      (ofValues_values)

So what is read of an operation is a copy of it without its derived fields
(`Operation.read_toJson`).
-/

namespace PlayScaffold

open Reading (option_ofOption map_object list_toJson)

/-! ## Links by name -/

namespace ParameterLists

/-- The name of a form parameter leads to its place among all parameters, or to none if it has
none there. -/
def NamesLinks (ls : ParameterLists) : Prop :=
  ∀ i ∈ ls.form, placeOf (ls.values .all) (ls.record i).baseName = ls.all.idxOf? i

/-- Linking the parameters again links them like a copy. -/
theorem ofValues_values (ls : ParameterLists) (h : ls.NamesLinks) :
    ofValues (ls.values .all) (ls.values .form) = ls.copy := by
  have hvalues : ls.values .form = ls.form.map ls.record := rfl
  rw [ofValues, copy, hvalues, List.foldl_map]
  refine List.foldl_ext _ _ _ fun c i hi => ?_
  rw [h i hi]

/-! ### Linking -/

theorem idxOf?_range_of_lt (n i : Nat) (h : i < n) : (List.range n).idxOf? i = some i := by
  rw [List.idxOf?_eq_some_iff]
  refine ⟨by rwa [List.length_range], List.getElem_range _, fun j hj => ?_⟩
  rw [List.getElem_range]
  omega

theorem idxOf?_range_of_le (n i : Nat) (h : n ≤ i) : (List.range n).idxOf? i = none := by
  rw [List.idxOf?_eq_none_iff, List.mem_range]
  omega

/-- All parameters have records of their own, in order, and records behind these belong to the
form.  So far the name of each form parameter leads to its record. -/
structure LinkedByName (values : List Parameter) (ls : ParameterLists) : Prop where
  all : ls.all = List.range values.length
  records : values <+: ls.records
  form : ∀ i ∈ ls.form,
    placeOf values (ls.record i).baseName = (List.range values.length).idxOf? i

theorem record_of_prefix (ls : ParameterLists) (all : List Parameter) (h : all <+: ls.records)
    (k : Nat) (hk : k < all.length) : ls.record k = all[k] := by
  obtain ⟨own, hown⟩ := h
  rw [record, List.getD_eq_getElem?_getD, ← hown, List.getElem?_append_left hk,
    List.getElem?_eq_getElem hk, Option.getD_some]

theorem ofAll_concat (all : List Parameter) (p : Parameter) :
    ofAll (all ++ [p]) = (ofAll all).push .all p := by
  rw [ofAll, List.foldl_append]
  rfl

theorem records_ofAll (all : List Parameter) : (ofAll all).records = all := by
  induction all using List.reverseRecOn with
  | nil => rfl
  | append_singleton all p ih => rw [ofAll_concat, records_push, ih]

theorem all_ofAll (all : List Parameter) : (ofAll all).all = List.range all.length := by
  induction all using List.reverseRecOn with
  | nil => rfl
  | append_singleton all p ih =>
    rw [ofAll_concat, all_push_all, ih, records_ofAll, List.length_append, List.length_singleton,
      List.range_succ]

theorem form_ofAll (all : List Parameter) : (ofAll all).form = [] := by
  induction all using List.reverseRecOn with
  | nil => rfl
  | append_singleton all p ih => rw [ofAll_concat, form_push_all, ih]

theorem linkedByName_ofAll (all : List Parameter) : LinkedByName all (ofAll all) where
  all := all_ofAll all
  records := by rw [records_ofAll]
  form := by simp [form_ofAll]

/-- A new record leaves the others as they are. -/
theorem record_push_of_lt (ls : ParameterLists) (view : ParameterView) (p : Parameter) (i : Nat)
    (h : i < ls.records.length) : (ls.push view p).record i = ls.record i := by
  rw [record, record, records_push, List.getD_eq_getElem?_getD, List.getD_eq_getElem?_getD,
    List.getElem?_append_left h]

theorem record_push_self (ls : ParameterLists) (view : ParameterView) (p : Parameter) :
    (ls.push view p).record ls.records.length = p := by
  rw [record, records_push, List.getD_eq_getElem?_getD]
  simp

/-- A form parameter with a place is the parameter there, which has its name. -/
theorem LinkedByName.addForm_some {all : List Parameter} {ls : ParameterLists}
    (h : LinkedByName all ls) (p : Parameter) (k : Nat)
    (hplace : placeOf all p.baseName = some k) : k < all.length ∧
      (ls.record k).baseName = p.baseName ∧ ∃ hk, ls.addForm (some k) p = ls.list .form k hk := by
  obtain ⟨hk, hfound, -⟩ := List.findIdx?_eq_some_iff_getElem.mp hplace
  have hname : all[k].baseName = p.baseName := by simpa using (Bool.and_eq_true_iff.mp hfound).2
  have hk' : k < ls.all.length := by rwa [h.all, List.length_range]
  have hnumber : ls.all[k] = k := by simp [h.all]
  refine ⟨hk, ?_, Nat.lt_of_lt_of_le hk h.records.length_le, ?_⟩
  · rw [ls.record_of_prefix all h.records k hk, hname]
  · rw [ParameterLists.addForm, dif_pos hk']
    simp only [hnumber]

/-- One more form parameter is linked by its name. -/
theorem LinkedByName.addForm {all : List Parameter} {ls : ParameterLists} (h : LinkedByName all ls)
    (p : Parameter) : LinkedByName all (ls.addForm (placeOf all p.baseName) p) := by
  have hlength : all.length ≤ ls.records.length := h.records.length_le
  cases hplace : placeOf all p.baseName with
  | some k =>
    obtain ⟨hk, hname, hk', hadd⟩ := h.addForm_some p k hplace
    rw [hadd]
    refine ⟨h.all, h.records, fun i hi => ?_⟩
    rw [form_list_form, List.mem_append, List.mem_singleton] at hi
    rcases hi with hi | rfl
    · exact h.form i hi
    · show placeOf all (ls.record i).baseName = _
      rw [hname, hplace, idxOf?_range_of_lt _ i hk]
  | none =>
    rw [ParameterLists.addForm]
    refine ⟨h.all, ?_, fun i hi => ?_⟩
    · rw [records_push]
      exact h.records.trans (List.prefix_append _ _)
    · rw [form_push_form, List.mem_append, List.mem_singleton] at hi
      rcases hi with hi | rfl
      · rw [record_push_of_lt ls .form p i (ls.inRange i (List.mem_append_right _ hi))]
        exact h.form i hi
      · rw [record_push_self, hplace, idxOf?_range_of_le _ _ hlength]

theorem linkedByName_ofValues (all form : List Parameter) :
    LinkedByName all (ofValues all form) := by
  unfold ofValues
  have hstart := linkedByName_ofAll all
  generalize ofAll all = ls at hstart
  induction form generalizing ls with
  | nil => exact hstart
  | cons p form ih => exact ih _ (hstart.addForm p)

theorem values_all_of_records (ls : ParameterLists) (all : List Parameter)
    (hall : ls.all = List.range all.length) (hrecords : all <+: ls.records) :
    ls.values .all = all := by
  show ls.all.map ls.record = all
  rw [hall]
  refine List.ext_getElem (by simp) fun k hk hk' => ?_
  rw [List.getElem_map, List.getElem_range, ls.record_of_prefix all hrecords k hk']

theorem LinkedByName.values {all : List Parameter} {ls : ParameterLists} (h : LinkedByName all ls) :
    ls.values .all = all := ls.values_all_of_records all h.all h.records

theorem namesLinks_ofValues (all form : List Parameter) : (ofValues all form).NamesLinks := by
  have h := linkedByName_ofValues all form
  intro i hi
  rw [h.values, h.all]
  exact h.form i hi

/-! ### Uploads -/

/-- An upload keeps its name and its flags. -/
theorem record_substituteUploads (ls : ParameterLists) (i : Nat) :
    ∃ type, ls.substituteUploads.record i = { ls.record i with dataType := type } := by
  rw [record, record, List.getD_eq_getElem?_getD, List.getD_eq_getElem?_getD,
    records_substituteUploads]
  cases ls.records[i]? with
  | none => exact ⟨_, rfl⟩
  | some p =>
    by_cases hp : ls.Uploaded i p
    · exact ⟨multipartFileType, by rw [Option.map_some, if_pos hp]; rfl⟩
    · exact ⟨p.dataType, by rw [Option.map_some, if_neg hp]; rfl⟩

theorem namesLinks_substituteUploads (ls : ParameterLists) (h : ls.NamesLinks) :
    ls.substituteUploads.NamesLinks := by
  have hplace : ∀ name, placeOf (ls.substituteUploads.values .all) name =
      placeOf (ls.values .all) name := by
    intro name
    show placeOf (ls.substituteUploads.all.map ls.substituteUploads.record) name =
      placeOf (ls.all.map ls.record) name
    rw [all_substituteUploads, placeOf, placeOf, List.findIdx?_map, List.findIdx?_map]
    congr 1
    funext i
    obtain ⟨type, htype⟩ := ls.record_substituteUploads i
    rw [Function.comp_apply, Function.comp_apply, htype]
  intro i hi
  rw [form_substituteUploads] at hi
  obtain ⟨type, htype⟩ := ls.record_substituteUploads i
  rw [hplace, all_substituteUploads, htype]
  exact h i hi

end ParameterLists

/-! ## Records -/

theorem SecurityRequirement.read_toJson (r : SecurityRequirement) :
    form.read r.encode.toJson = .ok r := by
  refine RecordForm.read_of_fills rfl (Encoding.fieldsToJson _)
    [("scheme", .str r.scheme), ("scopes", (Encoding.list (r.scopes.map .str)).toJson)] r ?_ ?_ ?_
  · simp only [Encoding.fieldsToJson, KeyMap.entries_ofList_cons, KeyMap.entries_ofList_nil,
      KeyMap.insertEntry, String.reduceLT, String.reduceEq, reduceIte]
    rfl
  · exact List.forall_mem_singleton.mpr List.mem_cons_self
  · exact .cons rfl <| .cons (bind_of_ok (list_toJson Reading.string .str (fun _ => rfl) _) _) <|
      .nil _

theorem Parameter.read_toJson (p : Parameter) : form.read p.encode.toJson = .ok p := by
  refine RecordForm.read_of_fills rfl (Encoding.fieldsToJson _) [
    ("baseName", .str p.baseName), ("dataType", .str p.dataType),
    ("description", Json.ofOption p.description), ("isBodyParam", .bool p.isBodyParam),
    ("isFile", .bool p.isFile), ("isFormParam", .bool p.isFormParam),
    ("isHeaderParam", .bool p.isHeaderParam), ("isPathParam", .bool p.isPathParam),
    ("isQueryParam", .bool p.isQueryParam), ("paramName", .str p.paramName),
    ("required", .bool p.required), ("vendorExtensions", .object p.vendorExtensions)] p ?_ ?_ ?_
  · simp only [Encoding.fieldsToJson, KeyMap.entries_ofList_cons, KeyMap.entries_ofList_nil,
      KeyMap.insertEntry, String.reduceLT, String.reduceEq, reduceIte]
    rfl
  · simp [form]
  · exact .cons rfl <| .cons rfl <| .cons (bind_of_ok (option_ofOption _) _) <|
      .cons rfl <| .cons rfl <| .cons rfl <| .cons rfl <| .cons rfl <| .cons rfl <| .cons rfl <|
      .cons rfl <| .cons (bind_of_ok (map_object _) _) <| .nil _

namespace Operation

/-- What is read of an operation that is written: its fields, with the two lists apart. -/
def record (op : Operation) : OperationRecord where
  operationId := op.operationId
  httpMethod := op.httpMethod
  path := op.path
  baseName := op.baseName
  summary := op.summary
  notes := op.notes
  allParams := op.params.values .all
  formParams := op.params.values .form
  returnType := op.returnType
  security := op.security
  vendorExtensions := op.vendorExtensions

/-- The derived fields are written between the others and passed over. -/
theorem read_record (op : Operation) : OperationRecord.form.read op.toJson = .ok op.record := by
  refine RecordForm.read_of_fills rfl (Encoding.fieldsToJson _) [
    ("allParams", (Encoding.list ((op.params.values .all).map Parameter.encode)).toJson),
    ("authMethods", (Encoding.list (op.authMethods.map DecoratedScheme.encode)).toJson),
    ("baseName", .str op.baseName),
    ("formParams", (Encoding.list ((op.params.values .form).map Parameter.encode)).toJson),
    ("httpMethod", .str op.httpMethod), ("notes", Json.ofOption op.notes),
    ("operationId", .str op.operationId), ("path", .str op.path),
    ("returnContainer", Json.ofOption (op.returnContainer.map ContainerKind.name)),
    ("returnType", Json.ofOption op.returnType),
    ("returnTypeIsPrimitive", .bool op.returnTypeIsPrimitive),
    ("security", (Encoding.list (op.security.map SecurityRequirement.encode)).toJson),
    ("summary", Json.ofOption op.summary), ("vendorExtensions", .object op.vendorExtensions)]
    op.record ?_ ?_ ?_
  · simp only [Encoding.fieldsToJson, KeyMap.entries_ofList_cons, KeyMap.entries_ofList_nil,
      KeyMap.insertEntry, String.reduceLT, String.reduceEq, reduceIte]
    rfl
  · simp [OperationRecord.form]
  · exact .cons (bind_of_ok (list_toJson _ _ Parameter.read_toJson _) _) <| .cons rfl <|
      .cons (bind_of_ok (list_toJson _ _ Parameter.read_toJson _) _) <| .cons rfl <|
      .cons (bind_of_ok (option_ofOption _) _) <| .cons rfl <| .cons rfl <|
      .cons (bind_of_ok (option_ofOption _) _) <|
      .cons (bind_of_ok (list_toJson _ _ SecurityRequirement.read_toJson _) _) <|
      .cons (bind_of_ok (option_ofOption _) _) <| .cons (bind_of_ok (map_object _) _) <| .nil _

/-- What is read is a copy of the operation without its derived fields. -/
theorem read_toJson (op : Operation) (h : op.params.NamesLinks) :
    Operation.read op.toJson = .ok { op.copy with
      returnContainer := none
      returnTypeIsPrimitive := false
      authMethods := [] } := by
  rw [Operation.read, op.read_record]
  show Except.ok op.record.toOperation = _
  rw [OperationRecord.toOperation, copy, ← op.params.ofValues_values h]
  rfl

/-- **What survives of an operation**: everything but its derived fields. -/
structure Survives (op out : Operation) : Prop where
  operationId : out.operationId = op.operationId
  httpMethod : out.httpMethod = op.httpMethod
  path : out.path = op.path
  baseName : out.baseName = op.baseName
  summary : out.summary = op.summary
  notes : out.notes = op.notes
  allParams : out.params.values .all = op.params.values .all
  formParams : out.params.values .form = op.params.values .form
  links : out.params.links = op.params.links
  returnType : out.returnType = op.returnType
  security : out.security = op.security
  vendorExtensions : out.vendorExtensions = op.vendorExtensions
  returnContainer : out.returnContainer = none
  returnTypeIsPrimitive : out.returnTypeIsPrimitive = false
  authMethods : out.authMethods = []

/-- Is the operation read back from what is written of it? -/
def ReadsBack (op : Operation) : Prop :=
  ∃ out, Operation.read op.toJson = .ok out ∧ op.Survives out

theorem readsBack_of_namesLinks (op : Operation) (hnames : op.params.NamesLinks)
    (hlinked : op.params.Linked) : op.ReadsBack := by
  have halike : op.params.Alike op.copy.params := op.params.alike_copy hlinked
  refine ⟨_, op.read_toJson hnames, ?_⟩
  constructor
  case allParams => exact (halike.values .all).symm
  case formParams => exact (halike.values .form).symm
  case links => exact halike.links.symm
  all_goals rfl

theorem readsBack_toOperation (r : OperationRecord) : r.toOperation.ReadsBack :=
  readsBack_of_namesLinks _ (ParameterLists.namesLinks_ofValues r.allParams r.formParams)
    (ParameterLists.linked_ofValues r.allParams r.formParams)

/-- A run substitutes uploads and does nothing else to the parameters. -/
theorem readsBack_of_finishesAs (primitives : List String) (schemes : List DecoratedScheme)
    (r : OperationRecord) (out : Operation)
    (h : r.toOperation.FinishesAs primitives schemes out) : out.ReadsBack := by
  obtain ⟨path, -, rfl⟩ := h
  let ls := ParameterLists.ofValues r.allParams r.formParams
  have hlinked : ls.substituteUploads.Linked :=
    (ParameterLists.linked_ofValues r.allParams r.formParams).congr ls _ ls.all_substituteUploads
      ls.form_substituteUploads
  exact readsBack_of_namesLinks _ (ls.namesLinks_substituteUploads
    (ParameterLists.namesLinks_ofValues r.allParams r.formParams)) hlinked

end Operation

/-! ## Runs -/

namespace Bundle

variable {δ : Type} [Document δ]

/-- **Operations survive writing and reading**: those that are read, from a JSON value or the draft
of a text, and those of any run on a model that is read. -/
theorem operations_read_back :
    (∀ (d : δ) (op : Operation), Operation.read d = .ok op → op.ReadsBack) ∧
    ∀ (d : δ) (options : Options) (primitives : List String) (model : ApiModel)
      (done : Logged Bundle), ApiModel.form.read d = .ok model →
        run options primitives model = .ok done → ∀ op ∈ done.value.operations, op.ReadsBack := by
  constructor
  · intro d op h
    obtain ⟨r, -, rfl⟩ := (map_eq_ok_iff _ _ _).mp h
    exact Operation.readsBack_toOperation r
  · intro d options primitives model done hread hrun out hout
    obtain ⟨-, -, -, -, hops⟩ := run_eq_ok options primitives model done hrun
    obtain ⟨op, hop, hfinished⟩ := exists_of_mem_right hops out hout
    obtain ⟨r, rfl⟩ := ApiModel.exists_record_of_read d model hread op hop
    exact Operation.readsBack_of_finishesAs primitives _ r out hfinished

/-- A model with an upload whose name stands twice among all parameters, once without its flag, and
three times in the form next to a name that stands nowhere else. -/
def uploadDocument : Json :=
  let field (name : String) (flags : List (String × Json)) : Json :=
    .obj (("baseName", .str name) :: flags)
  let file := field "file" [("isFormParam", .bool true), ("isFile", .bool true)]
  .obj [("operations", .arr [.obj [("operationId", .str "upload"), ("path", .str "/pets"),
    ("allParams", .arr [field "file" [], file, file]),
    ("formParams", .arr [file, field "caption" [], field "file" []])]])]

/-- After a run the uploads are of the type of a file, and what is written is linked again to the
first form field of its name. -/
theorem operations_read_back_upload : ∃ model done,
    ApiModel.form.read uploadDocument = .ok model ∧ run {} defaultPrimitives model = .ok done ∧
    (done.value.operations.map fun op =>
        (op.params.links, (op.params.values .all).map (·.dataType))) =
      [([some 1, none, some 1], ["", multipartFileType, multipartFileType])] ∧
    ∀ op ∈ done.value.operations, op.ReadsBack :=
  ⟨_, _, rfl, rfl, rfl, operations_read_back.2 uploadDocument {} defaultPrimitives _ _ rfl rfl⟩

end Bundle

end PlayScaffold
