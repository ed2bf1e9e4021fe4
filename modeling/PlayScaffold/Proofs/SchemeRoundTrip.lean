import PlayScaffold.Proofs.AuthMethods
import PlayScaffold.Proofs.ReadBack

/-!
# Schemes survive writing and reading

The fields of a mechanism stand among those of the scheme in one object.  Their keys tell them
apart again: the base fields are read as they come, all others are kept, and of these the mechanism
takes its own.  So a scheme is read back, whatever other fields are written with it:

    SecurityScheme.read (Json.ofFields (Encoding.fieldsToJson s.encodeFields ++ others)) = .ok s
                                                                             (read_encodeFields)

A decorated scheme is written with two fields more.  What is read of it is its base, and decorating
that again gives the scheme itself, even where it was narrowed to some scopes: narrowing and
decorating commute (`decorate_filterByScopes`).
-/

namespace PlayScaffold

open Reading (option_ofOption map_object list_toJson)

theorem OAuthScope.read_toJson (s : OAuthScope) : form.read s.encode.toJson = .ok s := by
  refine RecordForm.read_of_fills rfl (Encoding.fieldsToJson _)
    [("description", Json.ofOption s.description), ("name", .str s.name)] s ?_ ?_ ?_
  · simp only [Encoding.fieldsToJson, KeyMap.entries_ofList_cons, KeyMap.entries_ofList_nil,
      KeyMap.insertEntry, String.reduceLT, String.reduceEq, reduceIte]
    rfl
  · exact List.forall_mem_singleton.mpr (List.mem_cons_of_mem _ List.mem_cons_self)
  · exact .cons (bind_of_ok (option_ofOption _) _) <| .cons rfl <| .nil _

/-! ## Mechanisms -/

namespace Mechanism

/-- The fields of a mechanism but for its kind, as they are read. -/
def written : Mechanism → List (String × Json)
  | .apiKey param location => [("keyParamName", .str param), ("location", .str location.name)]
  | .http scheme format => [("bearerFormat", Json.ofOption format), ("scheme", .str scheme)]
  | .oauth2 flow authorizationUrl tokenUrl refreshUrl =>
    [("authorizationUrl", Json.ofOption authorizationUrl), ("flow", Json.ofOption flow),
      ("refreshUrl", Json.ofOption refreshUrl), ("tokenUrl", Json.ofOption tokenUrl)]
  | .openIdConnect url => [("openIdConnectUrl", .str url)]

theorem choice_location (location : KeyLocation) :
    Reading.choice Reading.isNullOrEmpty KeyLocation.all KeyLocation.name (.str location.name) =
      .ok location := by
  cases location <;> rfl

theorem fills_written (m : Mechanism) : (form m.kind).Fills m.kind.initial m.written m := by
  cases m with
  | apiKey param location =>
    exact .cons rfl <| .cons (bind_of_ok (choice_location location) _) <| .nil _
  | http scheme format => exact .cons (bind_of_ok (option_ofOption _) _) <| .cons rfl <| .nil _
  | oauth2 flow authorizationUrl tokenUrl refreshUrl =>
    exact .cons (bind_of_ok (option_ofOption _) _) <| .cons (bind_of_ok (option_ofOption _) _) <|
      .cons (bind_of_ok (option_ofOption _) _) <|
      .cons (bind_of_ok (option_ofOption _) _) <| .nil _
  | openIdConnect url => exact .cons rfl <| .nil _

theorem known_encodeFields (m : Mechanism) :
    (form m.kind).known (KeyMap.ofList (Encoding.fieldsToJson m.encodeFields)).entries =
      m.written := by
  cases m <;>
    simp only [encodeFields, Encoding.fieldsToJson, KeyMap.entries_ofList_cons,
      KeyMap.entries_ofList_nil, KeyMap.insertEntry, String.reduceLT, String.reduceEq,
      reduceIte] <;>
    rfl

theorem required_written (m : Mechanism) :
    ∀ name ∈ (form m.kind).required, name ∈ m.written.map (·.1) := by
  cases m <;> simp [form, kind, MechanismKind.fieldNames, written]

end Mechanism

theorem lookup_filter (key : String) (fields : List (String × Json)) :
    (fields.filter fun f => f.1 == key).lookup key = fields.lookup key := by
  induction fields with
  | nil => rfl
  | cons f rest ih =>
    obtain ⟨k, j⟩ := f
    by_cases hk : k = key
    · subst hk
      simp
    · have hne : (key == k) = false := beq_eq_false_iff_ne.mpr fun h => hk h.symm
      rw [List.filter_cons_of_neg (by simpa using hk), ih, List.lookup_cons, hne]

/-- The kind of a mechanism depends on the fields at its key alone. -/
theorem MechanismKind.ofFields_filter (fields : List (String × Json)) :
    ofFields (fields.filter fun f => f.1 == "type") = ofFields fields := by
  induction fields with
  | nil => rfl
  | cons f rest ih =>
    obtain ⟨k, j⟩ := f
    by_cases hk : k = "type"
    · subst hk
      rw [List.filter_cons_of_pos (by simp)]
      simp only [ofFields, if_true, lookup_filter]
    · rw [List.filter_cons_of_neg (by simpa using hk), ih, ofFields, if_neg hk]

theorem MechanismKind.read_name (kind : MechanismKind) : read (.str kind.name) = .ok kind := by
  cases kind <;> rfl

/-- A mechanism is read back from its fields, whatever other fields stand among them. -/
theorem Mechanism.ofFields_encodeFields (m : Mechanism) (others : List (String × Json))
    (hothers : ∀ f ∈ others, f.1 ∉ "type" :: m.kind.fieldNames.1) :
    ofFields (KeyMap.ofList (Encoding.fieldsToJson m.encodeFields ++ others)).entries = .ok m := by
  -- no other field is called `type`, so that of the mechanism decides the kind
  have htype : others.filter (fun f => f.1 == "type") = [] := by
    rw [List.filter_eq_nil_iff]
    intro f hf heq
    exact hothers f hf (by rw [beq_iff_eq.mp heq]; exact List.mem_cons_self)
  have hkind : MechanismKind.ofFields
      (KeyMap.ofList (Encoding.fieldsToJson m.encodeFields ++ others)).entries = .ok m.kind := by
    rw [← MechanismKind.ofFields_filter, KeyMap.filter_entries_ofList _ (· == "type"),
      List.filter_append, htype, List.append_nil, ← m.kind.read_name]
    cases m <;> rfl
  have hknown : (form m.kind).known
      (KeyMap.ofList (Encoding.fieldsToJson m.encodeFields ++ others)).entries = m.written := by
    rw [RecordForm.known_entries_ofList, RecordForm.known_append,
      ← RecordForm.known_entries_ofList, m.known_encodeFields]
    exact fun f hf hmem => hothers f hf (List.mem_cons_of_mem _ hmem)
  have hobject := RecordForm.readObject_of_fills (RecordForm.notes_ignore rfl)
    (KeyMap.ofList (Encoding.fieldsToJson m.encodeFields ++ others)) m
    (by rw [hknown]; exact m.required_written) (by rw [hknown]; exact m.fills_written)
  rw [ofFields, hkind, bind_of_ok rfl, hobject, List.foldl_fixed]

/-! ## Schemes -/

namespace SecurityScheme

def Parts.noted (p : Parts) (f : String × Json) : Parts := { p with others := p.others ++ [f] }

theorem Parts.put_noted (p after : Parts) (key : String) (j : Json) (f : String × Json)
    (h : p.put key j = .ok after) : (p.noted f).put key j = .ok (after.noted f) := by
  unfold Parts.put at h ⊢
  split at h
  case h_5 =>
    cases h
    rfl
  all_goals
    -- the value that is read does not depend on what was kept before
    obtain ⟨value, hvalue, h⟩ := (bind_eq_ok_iff _ _ _).mp h
    cases h
    exact bind_of_ok hvalue _

theorem Parts.notes : (Parts.form (δ := Json)).Notes Parts.noted where
  other _ _ _ := rfl
  put := Parts.put_noted

theorem Parts.foldl_noted (fields : List (String × Json)) :
    ∀ p : Parts, fields.foldl Parts.noted p = { p with others := p.others ++ fields } := by
  induction fields with
  | nil => intro p; rw [List.foldl_nil, List.append_nil]
  | cons f rest ih =>
    intro p
    rw [List.foldl_cons, ih, Parts.noted, List.append_assoc]
    rfl

def written (s : SecurityScheme) : List (String × Json) :=
  [("description", Json.ofOption s.description), ("name", .str s.name),
    ("scopes", (Encoding.list (s.scopes.map OAuthScope.encode)).toJson),
    ("vendorExtensions", .object s.vendorExtensions)]

theorem fills_written (s : SecurityScheme) : (Parts.form (δ := Json)).Fills {} s.written
    ⟨s.name, s.description, s.scopes, s.vendorExtensions, []⟩ :=
  .cons (bind_of_ok (option_ofOption _) _) <| .cons rfl <|
    .cons (bind_of_ok (list_toJson _ _ OAuthScope.read_toJson _) _) <|
    .cons (bind_of_ok (map_object _) _) <| .nil _

theorem known_encodeFields (s : SecurityScheme) :
    (Parts.form (δ := Json)).known (KeyMap.ofList (Encoding.fieldsToJson s.encodeFields)).entries =
      s.written := by
  have hbase : (Parts.form (δ := Json)).known (Encoding.fieldsToJson s.encodeFields) =
      [("name", .str s.name), ("description", Json.ofOption s.description),
        ("scopes", (Encoding.list (s.scopes.map OAuthScope.encode)).toJson),
        ("vendorExtensions", .object s.vendorExtensions)] := by
    obtain ⟨name, description, mechanism, scopes, vendorExtensions⟩ := s
    cases mechanism <;> rfl
  rw [RecordForm.known_entries_ofList, hbase]
  simp only [KeyMap.entries_ofList_cons, KeyMap.entries_ofList_nil, KeyMap.insertEntry,
    String.reduceLT, String.reduceEq, reduceIte]
  rfl

theorem unknown_encodeFields (s : SecurityScheme) :
    (Parts.form (δ := Json)).unknown (Encoding.fieldsToJson s.encodeFields) =
      Encoding.fieldsToJson s.mechanism.encodeFields := by
  obtain ⟨name, description, mechanism, scopes, vendorExtensions⟩ := s
  cases mechanism <;> rfl

/-- **A scheme is read back**, whatever other fields are written with it. -/
theorem read_encodeFields (s : SecurityScheme) (others : List (String × Json))
    (hbase : ∀ f ∈ others, f.1 ∉ (Parts.form (δ := Json)).fields)
    (hmechanism : ∀ f ∈ others, f.1 ∉ "type" :: s.mechanism.kind.fieldNames.1) :
    read (Json.ofFields (Encoding.fieldsToJson s.encodeFields ++ others)) = .ok s := by
  -- the object falls apart into the base fields and all others, each part in the order of its keys
  let m := KeyMap.ofList (Encoding.fieldsToJson s.encodeFields ++ others)
  have hknown : (Parts.form (δ := Json)).known m.entries = s.written := by
    rw [RecordForm.known_entries_ofList, RecordForm.known_append _ _ _ hbase,
      ← RecordForm.known_entries_ofList, s.known_encodeFields]
  have hunknown : (Parts.form (δ := Json)).unknown m.entries =
      (KeyMap.ofList (Encoding.fieldsToJson s.mechanism.encodeFields ++ others)).entries := by
    rw [RecordForm.unknown_entries_ofList, RecordForm.unknown_append _ _ _ hbase,
      s.unknown_encodeFields]
  have hparts := RecordForm.readObject_of_fills Parts.notes m
    ⟨s.name, s.description, s.scopes, s.vendorExtensions, []⟩
    (by rw [hknown]; simp [Parts.form, written]) (by rw [hknown]; exact s.fills_written)
  rw [hunknown, Parts.foldl_noted] at hparts
  refine (bind_of_ok hparts ofParts).trans ?_
  rw [ofParts, List.nil_append, bind_of_ok (s.mechanism.ofFields_encodeFields others hmechanism)]
  rfl

theorem read_toJson (s : SecurityScheme) : read s.encode.toJson = .ok s := by
  have hread := s.read_encodeFields [] (by simp) (by simp)
  rwa [List.append_nil] at hread

end SecurityScheme

/-! ## Decorated schemes -/

namespace DecoratedScheme

/-- The two URLs are no fields of a scheme. -/
theorem read_toJson (d : DecoratedScheme) : SecurityScheme.read d.encode.toJson = .ok d.base := by
  have hfields : Encoding.fieldsToJson (d.base.encodeFields ++
        [("jwksUrl", .option d.jwksUrl), ("tokenIntrospectUrl", .option d.tokenIntrospectUrl)]) =
      Encoding.fieldsToJson d.base.encodeFields ++
        [("jwksUrl", Json.ofOption d.jwksUrl),
          ("tokenIntrospectUrl", Json.ofOption d.tokenIntrospectUrl)] := by
    rw [Encoding.fieldsToJson_eq_map, Encoding.fieldsToJson_eq_map, List.map_append]
    rfl
  rw [encode, Encoding.toJson_record, hfields]
  refine d.base.read_encodeFields _ (by simp [SecurityScheme.Parts.form]) ?_
  cases d.base.mechanism <;> simp [Mechanism.kind, MechanismKind.fieldNames]

/-- Decorating does not look at the scopes. -/
theorem decorate_filterByScopes (s : SecurityScheme) (names : List String) :
    (decorate (s.filterByScopes names)).value = (decorate s).value.filterByScopes names := rfl

theorem decorate_narrow (r : SecurityRequirement) (s : SecurityScheme) :
    (decorate (r.narrow (decorate s).value).base).value = r.narrow (decorate s).value := by
  rw [SecurityRequirement.narrow_eq]
  split
  · exact decorate_filterByScopes s r.scopes
  · rfl

end DecoratedScheme

namespace Bundle

/-- Every scheme of a run is the decoration of its base. -/
theorem decorate_base_of_mem (options : Options) (primitives : List String) (model : ApiModel)
    (done : Logged Bundle) (h : run options primitives model = .ok done) :
    ∀ d ∈ done.value.allSchemes, (DecoratedScheme.decorate d.base).value = d := by
  obtain ⟨-, -, -, hschemes, hops⟩ := run_eq_ok options primitives model done h
  intro d hd
  rcases List.mem_append.mp hd with hd | hd
  · rw [hschemes] at hd
    obtain ⟨s, -, rfl⟩ := List.mem_map.mp hd
    rfl
  · obtain ⟨out, hout, hd⟩ := List.mem_flatMap.mp hd
    obtain ⟨op, -, path, -, rfl⟩ := exists_of_mem_right hops out hout
    obtain ⟨r, -, hr⟩ := List.mem_filterMap.mp hd
    obtain ⟨-, s, -, -, -, -, rfl⟩ := (Operation.schemeFor?_eq_some_iff _ r d).mp hr
    exact DecoratedScheme.decorate_narrow r s

/-- **Schemes survive writing and reading.**  A scheme is read back as it was written.  What is read
of a scheme of a run is its base, and this is decorated as the scheme itself. -/
theorem schemes_read_back :
    (∀ s : SecurityScheme, SecurityScheme.read s.encode.toJson = .ok s) ∧
    ∀ (options : Options) (primitives : List String) (model : ApiModel) (done : Logged Bundle),
      run options primitives model = .ok done → ∀ d ∈ done.value.allSchemes,
        SecurityScheme.read d.encode.toJson = .ok d.base ∧
        (DecoratedScheme.decorate d.base).value = d :=
  ⟨SecurityScheme.read_toJson, fun options primitives model done h d hd =>
    ⟨d.read_toJson, decorate_base_of_mem options primitives model done h d hd⟩⟩

/-- In the pet store the declared schemes are read back, and so is the one that was narrowed to
`write:pets`. -/
theorem schemes_read_back_petstore : ∃ done, run {} defaultPrimitives petstore = .ok done ∧
    (done.value.allSchemes.map fun d => d.base.scopes.map (·.name)) =
      [["read:pets", "write:pets"], [], ["write:pets"], ["read:pets", "write:pets"]] ∧
    ∀ d ∈ done.value.allSchemes, SecurityScheme.read d.encode.toJson = .ok d.base ∧
      (DecoratedScheme.decorate d.base).value = d :=
  ⟨_, rfl, rfl, schemes_read_back.2 {} defaultPrimitives petstore _ rfl⟩

end Bundle

end PlayScaffold
