import PlayScaffold.Proofs.AuthMethods
import PlayScaffold.Proofs.InPlaceRun

/-!
# What a run warns of

A run warns of three things and of each of them once: return types that begin like a container but
are none, endpoint extensions that hold no text, and requirements of schemes that nobody declared.
It does so pass by pass, and within a pass in the order of the model (`ApiModel.warnings`):

    run options primitives model = .ok done → done.warnings = model.warnings      (run_warnings)

A return type is unwrapped, refused or a plain name, and never two of these (`ReturnOutcome`): what
is read as a container also begins like one (`ContainerType.opens_of_parse?`).
-/

namespace PlayScaffold

open Text

/-! ## Types that begin like a container -/

namespace ContainerType

/-- After leading white space the type begins with the name of a container and a bracket. -/
def Opens (type : String) : Prop :=
  ∃ (kind : ContainerKind) (rest : List Char),
    trimStart type.toList = kind.name.toList ++ '<' :: rest

theorem isOpened_iff (type : String) : isOpened type = true ↔ Opens type := by
  unfold isOpened Opens
  rw [List.any_eq_true]
  constructor
  · rintro ⟨kind, -, hbody⟩
    obtain ⟨rest, hrest⟩ := Option.isSome_iff_exists.mp hbody
    exact ⟨kind, rest, kind.eq_of_body? _ _ hrest⟩
  · rintro ⟨kind, rest, htype⟩
    refine ⟨kind, kind.mem_all, ?_⟩
    rw [htype, kind.body?_opening]
    rfl

instance (type : String) : Decidable (Opens type) :=
  decidable_of_iff (isOpened type = true) (isOpened_iff type)

/-- What is read as a container begins like one. -/
theorem opens_of_parse? (type : String) (c : ContainerType) (h : parse? type = some c) :
    Opens type := by
  obtain ⟨⟨kind, inner⟩, hbody, -⟩ := Option.bind_eq_some_iff.mp h
  obtain ⟨htrim, -⟩ := (body?_eq_some_iff _ _ _).mp hbody
  obtain ⟨white, hwhite⟩ := trim_prefix_trimStart type.toList
  refine ⟨kind, inner ++ ['>'] ++ white, ?_⟩
  rw [← hwhite, htrim]
  simp

end ContainerType

open ContainerType (Opens)

/-! ## The warnings of each pass -/

def Json.isText : Json → Bool
  | .str _ => true
  | _ => false

namespace SecurityScheme

/-- The endpoint extensions that are there but hold no text. -/
def ignoredExtensions (s : SecurityScheme) : List Warning :=
  ["x-jwksUrl", "x-tokenIntrospectUrl"].filterMap fun extension =>
    ((s.vendorExtensions.get? extension).filter fun j => !j.isText).map fun j =>
      .ignoredExtension s.name extension j.compact

theorem warnings_textExtension (s : SecurityScheme) (extension : String) :
    (DecoratedScheme.textExtension s extension).warnings =
      (((s.vendorExtensions.get? extension).filter fun j => !j.isText).map fun j =>
        Warning.ignoredExtension s.name extension j.compact).toList := by
  unfold DecoratedScheme.textExtension
  cases s.vendorExtensions.get? extension with
  | none => rfl
  | some j => cases j <;> rfl

theorem warnings_decorate (s : SecurityScheme) :
    (DecoratedScheme.decorate s).warnings = s.ignoredExtensions := by
  have hboth : (DecoratedScheme.decorate s).warnings =
      (DecoratedScheme.textExtension s "x-jwksUrl").warnings ++
        ((DecoratedScheme.textExtension s "x-tokenIntrospectUrl").warnings ++ []) := rfl
  rw [hboth, warnings_textExtension, warnings_textExtension, ignoredExtensions, List.append_nil,
    filterMap_cons_eq_append, filterMap_cons_eq_append, List.filterMap_nil, List.append_nil]

end SecurityScheme

namespace Operation

/-- The return type that begins like a container but is none, if the operation has one. -/
def refusedReturn (op : Operation) : List Warning :=
  (op.returnType.toList.filter fun type => Opens type ∧ ContainerType.parse? type = none).map
    (.unparsedContainer op.operationId)

/-- The requirements of schemes that are not declared, in order. -/
def undeclaredSchemes (schemes : List SecurityScheme) (op : Operation) : List Warning :=
  (op.security.filter fun r => ¬ r.Declared schemes).map fun r =>
    .undeclaredScheme op.operationId r.scheme

theorem refusedReturn_eq_nil (op : Operation) (type : String) (htype : op.returnType = some type)
    (h : ¬ Opens type ∨ ContainerType.parse? type ≠ none) : op.refusedReturn = [] := by
  have hplain : ¬ (Opens type ∧ ContainerType.parse? type = none) := by
    rintro ⟨hopens, hparse⟩
    rcases h with h | h
    · exact h hopens
    · exact h hparse
  rw [refusedReturn, htype, Option.toList_some, List.filter_cons_of_neg (by simpa using hplain)]
  rfl

theorem refusedReturn_eq_singleton (op : Operation) (type : String)
    (htype : op.returnType = some type) (hopens : Opens type)
    (hparse : ContainerType.parse? type = none) :
    op.refusedReturn = [.unparsedContainer op.operationId type] := by
  rw [refusedReturn, htype, Option.toList_some,
    List.filter_cons_of_pos (by simpa using ⟨hopens, hparse⟩)]
  rfl

theorem warnings_unwrap_eq (op : Operation) : op.unwrap.warnings = op.refusedReturn := by
  unfold unwrap
  cases htype : op.returnType with
  | none => rw [refusedReturn, htype]; rfl
  | some type =>
    cases hparse : ContainerType.parse? type with
    | some c =>
      rw [refusedReturn_eq_nil op type htype (.inr (by simp [hparse]))]
      simp only [hparse]
      rfl
    | none =>
      by_cases hopens : Opens type
      · rw [refusedReturn_eq_singleton op type htype hopens hparse]
        simp only [hparse, if_pos ((ContainerType.isOpened_iff type).mpr hopens)]
        rfl
      · rw [refusedReturn_eq_nil op type htype (.inl hopens)]
        simp only [hparse, if_neg (mt (ContainerType.isOpened_iff type).mp hopens)]
        rfl

/-- Nothing but the return type is warned of in the first pass. -/
theorem warnings_of_transform (primitives : List String) (op : Operation) (once : Logged Operation)
    (h : op.transform primitives = .ok once) : once.warnings = op.refusedReturn := by
  obtain ⟨path, -, rfl⟩ := (transform_eq_ok_iff primitives op once).mp h
  have hsimplify : (simplify primitives { op with path := String.ofList path }).warnings =
      ({ op with path := String.ofList path } : Operation).annotate.unwrap.warnings ++ [] := rfl
  rw [hsimplify, List.append_nil, warnings_unwrap_eq, annotate_eq]
  rfl

theorem warnings_authMethodsFor (operationId : String) (schemes : List SecurityScheme)
    (security : List SecurityRequirement) :
    (authMethodsFor operationId (Bundle.decoratedSchemes schemes) security).warnings =
      (security.filter fun r => ¬ r.Declared schemes).map fun r =>
        .undeclaredScheme operationId r.scheme := by
  induction security with
  | nil => rfl
  | cons r rest ih =>
    have hdeclared := isSome_schemeFor? schemes r
    unfold authMethodsFor
    cases hr : schemeFor? (Bundle.decoratedSchemes schemes) r with
    | some d =>
      rw [hr, Option.isSome_some, eq_comm, decide_eq_true_iff] at hdeclared
      rw [List.filter_cons_of_neg (by simpa using hdeclared), ← ih]
      exact List.append_nil _
    | none =>
      rw [hr, Option.isSome_none, eq_comm, decide_eq_false_iff_not] at hdeclared
      rw [List.filter_cons_of_pos (by simpa using hdeclared), List.map_cons, ← ih]
      rfl

theorem warnings_resolve (schemes : List SecurityScheme) (op : Operation) :
    (resolve (Bundle.decoratedSchemes schemes) op).warnings = op.undeclaredSchemes schemes := by
  let decorated := Bundle.decoratedSchemes schemes
  show (authMethodsFor op.operationId decorated op.security).warnings ++ [] = _
  rw [List.append_nil, warnings_authMethodsFor]
  rfl

end Operation

/-! ## What becomes of a return type -/

/-- What can become of a return type. -/
inductive ReturnOutcome where
  /-- it is a container and is taken out of it -/
  | unwrapped
  /-- it begins like a container but is none -/
  | refused
  /-- it does not begin like a container -/
  | plain
deriving Repr, DecidableEq

/-- Has this become of the return type of an operation?  Only a refused one is warned of. -/
def ReturnOutcome.Holds (op out : Operation) (type : String) : ReturnOutcome → Prop
  | .unwrapped => (∃ c, ContainerType.parse? type = some c ∧
      out.returnContainer = some c.kind ∧ out.returnType = some c.element) ∧
      op.refusedReturn = []
  | .refused => Opens type ∧ ContainerType.parse? type = none ∧
      out.returnContainer = op.returnContainer ∧ out.returnType = some type ∧
      op.refusedReturn = [.unparsedContainer op.operationId type]
  | .plain => ¬ Opens type ∧
      out.returnContainer = op.returnContainer ∧ out.returnType = some type ∧
      op.refusedReturn = []

namespace Operation

/-- Exactly one thing becomes of a return type. -/
theorem existsUnique_returnOutcome (primitives : List String) (schemes : List DecoratedScheme)
    (op out : Operation) (h : op.FinishesAs primitives schemes out) (type : String)
    (htype : op.returnType = some type) :
    ∃! outcome : ReturnOutcome, outcome.Holds op out type := by
  obtain ⟨path, -, rfl⟩ := h
  have hcontainer : (op.finished primitives schemes (String.ofList path)).returnContainer =
      op.notedContainer := rfl
  have hbare : (op.finished primitives schemes (String.ofList path)).returnType = op.bareType := rfl
  have hparsed : op.container? = ContainerType.parse? type := by
    rw [container?, htype, Option.bind_some]
  cases hparse : ContainerType.parse? type with
  | some c =>
    rw [hparse] at hparsed
    -- what is read as a container begins like one, so that it is no plain name
    have hopens := ContainerType.opens_of_parse? type c hparse
    refine ⟨.unwrapped, ⟨⟨c, hparse, ?_, ?_⟩, refusedReturn_eq_nil op type htype ?_⟩, ?_⟩
    · rw [hcontainer, notedContainer, hparsed]
    · rw [hbare, bareType, hparsed]
    · exact .inr (by simp [hparse])
    · rintro (_ | _ | _) hother
      · rfl
      · cases hparse.symm.trans hother.2.1
      · exact absurd hopens hother.1
  | none =>
    rw [hparse] at hparsed
    have hkept : op.notedContainer = op.returnContainer := by
      simp [notedContainer, hparsed, htype]
    have hsame : op.bareType = some type := by
      rw [(bareType_eq_iff op).mpr hparsed, htype]
    by_cases hopens : Opens type
    · refine ⟨.refused, ⟨hopens, hparse, hkept, hsame,
        refusedReturn_eq_singleton op type htype hopens hparse⟩, ?_⟩
      rintro (_ | _ | _) hother
      · obtain ⟨⟨c, hc, -⟩, -⟩ := hother
        cases hparse.symm.trans hc
      · rfl
      · exact absurd hopens hother.1
    · refine ⟨.plain, ⟨hopens, hkept, hsame, refusedReturn_eq_nil op type htype (.inl hopens)⟩, ?_⟩
      rintro (_ | _ | _) hother
      · obtain ⟨⟨c, hc, -⟩, -⟩ := hother
        cases hparse.symm.trans hc
      · exact absurd hother.1 hopens
      · rfl

end Operation

/-! ## Runs -/

namespace ApiModel

/-- What a run on the model warns of. -/
def warnings (model : ApiModel) : List Warning :=
  model.operations.flatMap Operation.refusedReturn ++
    model.securitySchemes.flatMap SecurityScheme.ignoredExtensions ++
    model.operations.flatMap (Operation.undeclaredSchemes model.securitySchemes)

end ApiModel

namespace Bundle

theorem warnings_of_run (options : Options) (primitives : List String) (model : ApiModel)
    (done : Logged Bundle) (h : run options primitives model = .ok done) :
    done.warnings = model.warnings := by
  cases htransformed : model.operations.mapM (Operation.transform primitives) with
  | error e =>
    rw [run_of_error options primitives model e htransformed] at h
    cases h
  | ok transformed =>
    obtain ⟨_, hdone, -, -, hwarnings⟩ :=
      run_of_ok options primitives model transformed htransformed
    obtain rfl := Except.ok.inj (h.symm.trans hdone)
    have hsteps := (mapM_eq_ok_iff _ _ _).mp htransformed
    have hrefused : transformed.flatMap (·.warnings) =
        model.operations.flatMap Operation.refusedReturn :=
      (flatMap_eq_of_forall₂ _ _ (hsteps.imp fun op once hop =>
        (Operation.warnings_of_transform primitives op once hop).symm)).symm
    have hundeclared : transformed.flatMap (fun once =>
          (Operation.resolve (decoratedSchemes model.securitySchemes) once.value).warnings) =
        model.operations.flatMap (Operation.undeclaredSchemes model.securitySchemes) := by
      refine (flatMap_eq_of_forall₂ _ _ (hsteps.imp fun op once hop => ?_)).symm
      obtain ⟨path, -, rfl⟩ := (Operation.transform_eq_ok_iff primitives op once).mp hop
      rw [Operation.warnings_resolve, Operation.value_simplify]
      rfl
    rw [hwarnings, warnings_secure, hrefused, hundeclared, Logged.warnings_mapM,
      ← List.append_assoc]
    simp only [SecurityScheme.warnings_decorate]
    rfl

/-- **What a run warns of.**  A run that succeeds notes the warnings of its model and no others, and
exactly one thing becomes of each return type.  In place the same is noted, even where the
operations share parameter records. -/
theorem run_warnings (options : Options) (primitives : List String) (model : ApiModel)
    (done : Logged Bundle) (h : run options primitives model = .ok done) :
    done.warnings = model.warnings ∧
    List.Forall₂ (fun op out : Operation => ∀ type, op.returnType = some type →
        ∃! outcome : ReturnOutcome, outcome.Holds op out type)
      model.operations done.value.operations ∧
    ∀ (slots : List Nat) (st : Logged Session), slots.Nodup →
      List.Forall₂ st.value.HasFields slots model.operations →
      ∃ st', Session.generate primitives slots model.securitySchemes st =
          .ok done.value.securitySchemes st' ∧
        st'.warnings = st.warnings ++ model.warnings := by
  have hwarnings := warnings_of_run options primitives model done h
  obtain ⟨-, -, -, -, hops⟩ := run_eq_ok options primitives model done h
  refine ⟨hwarnings, hops.imp fun op out hop =>
    Operation.existsUnique_returnOutcome primitives _ op out hop, fun slots st hnodup hslots => ?_⟩
  have hreports := Session.generate_reports options primitives model slots st hnodup hslots
  rw [h] at hreports
  obtain ⟨st', hst', -, hnoted⟩ := hreports
  exact ⟨st', hst', by rw [hnoted, hwarnings]⟩

/-- A model with three return types, a bracket missing in the first one, and with one extension of
an API key that holds no text. -/
def strayModel : ApiModel where
  operations := [
    ((Operation.new "listPets" "GET" "/pets").withReturnType " List<Pet").withSecurity "oauth" [],
    (Operation.new "getPets" "GET" "/pets/all").withReturnType "Set<Pet>",
    (Operation.new "getPet" "GET" "/pets/{id}").withReturnType "Pet"]
  securitySchemes := [{
    name := "api_key"
    mechanism := .apiKey "X-API-KEY" .header
    vendorExtensions := KeyMap.ofList [("x-jwksUrl", .null),
      ("x-tokenIntrospectUrl", .str "https://auth.example.com")] }]

/-- One of three return types is warned of, then the extension without a text, then the scheme that
nobody declared. -/
theorem run_warnings_stray : ∃ done, run {} defaultPrimitives strayModel = .ok done ∧
    done.warnings = [.unparsedContainer "listPets" " List<Pet",
      .ignoredExtension "api_key" "x-jwksUrl" "null", .undeclaredScheme "listPets" "oauth"] ∧
    (done.value.operations.map fun op => (op.returnContainer, op.returnType)) =
      [(none, some " List<Pet"), (some .set, some "Pet"), (none, some "Pet")] ∧
    done.warnings = strayModel.warnings :=
  ⟨_, rfl, rfl, rfl, (run_warnings {} defaultPrimitives strayModel _ rfl).1⟩

end Bundle

end PlayScaffold
