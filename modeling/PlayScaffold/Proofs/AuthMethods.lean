import PlayScaffold.Proofs.Bundle

/-!
# The schemes that guard an operation

A requirement is answered by the first scheme declared under its name.  An OAuth scheme is narrowed
to the scopes that the requirement names, if it names any; every other scheme answers as it is.

    schemeFor? (decoratedSchemes declared) r = some d ↔ Answers declared r d
                                                                     (schemeFor?_eq_some_iff)

The URLs of a scheme survive the narrowing, so each scheme of a bundle has those that its own
extensions hold (`Decorated`).
-/

namespace PlayScaffold

/-! ## URLs -/

namespace DecoratedScheme

/-- The URLs of a scheme are the texts at its two extensions. -/
structure Decorated (d : DecoratedScheme) : Prop where
  jwksUrl : ∀ url, d.jwksUrl = some url ↔
    ("x-jwksUrl", .str url) ∈ d.base.vendorExtensions.entries
  tokenIntrospectUrl : ∀ url, d.tokenIntrospectUrl = some url ↔
    ("x-tokenIntrospectUrl", .str url) ∈ d.base.vendorExtensions.entries

theorem value_textExtension (s : SecurityScheme) (extension url : String) :
    (textExtension s extension).value = some url ↔
      (extension, .str url) ∈ s.vendorExtensions.entries := by
  rw [← KeyMap.get?_eq_some_iff, textExtension]
  split
  · next h => simp [h]
  · next text h => simp [h]
  · next other hother h =>
    rw [h, Option.some.injEq, Logged.value_bind, Logged.value_pure]
    constructor
    · intro hnone
      cases hnone
    · intro heq
      exact absurd heq (hother url)

theorem decorated_decorate (s : SecurityScheme) : (decorate s).value.Decorated :=
  ⟨value_textExtension s jwksUrlExtension, value_textExtension s tokenIntrospectUrlExtension⟩

/-- Narrowing a scheme touches neither its extensions nor its URLs. -/
theorem decorated_filterByScopes (d : DecoratedScheme) (names : List String) (h : d.Decorated) :
    (d.filterByScopes names).Decorated := ⟨h.jwksUrl, h.tokenIntrospectUrl⟩

end DecoratedScheme

/-! ## Requirements -/

namespace SecurityRequirement

/-- Is a scheme declared under the name that the requirement asks for? -/
def Declared (schemes : List SecurityScheme) (r : SecurityRequirement) : Prop :=
  ∃ s ∈ schemes, s.name = r.scheme

instance (schemes : List SecurityScheme) (r : SecurityRequirement) :
    Decidable (r.Declared schemes) := by
  unfold Declared; infer_instance

/-- The scheme as the requirement sees it: with only the scopes that are named, where it is an OAuth
scheme and any are. -/
def narrow (r : SecurityRequirement) (d : DecoratedScheme) : DecoratedScheme :=
  if d.base.mechanism.kind = .oauth2 ∧ r.scopes ≠ [] then
    { d with base := { d.base with
        scopes := d.base.scopes.filter fun scope => scope.name ∈ r.scopes } }
  else d

/-- Is this the answer to the requirement: the first scheme declared under its name, decorated and
narrowed? -/
def Answers (schemes : List SecurityScheme) (r : SecurityRequirement) (d : DecoratedScheme) :
    Prop :=
  ∃ before s after, schemes = before ++ s :: after ∧ s.name = r.scheme ∧
    (∀ t ∈ before, t.name ≠ r.scheme) ∧ d = r.narrow (DecoratedScheme.decorate s).value

theorem narrow_eq (r : SecurityRequirement) (d : DecoratedScheme) :
    r.narrow d = if d.base.isOAuth && !r.scopes.isEmpty then d.filterByScopes r.scopes else d := by
  have htest : (d.base.isOAuth && !r.scopes.isEmpty) = true ↔
      d.base.mechanism.kind = .oauth2 ∧ r.scopes ≠ [] := by
    simp [SecurityScheme.isOAuth]
  unfold narrow
  by_cases h : d.base.mechanism.kind = .oauth2 ∧ r.scopes ≠ []
  · rw [if_pos h, if_pos (htest.mpr h)]
    simp only [DecoratedScheme.filterByScopes, SecurityScheme.filterByScopes,
      List.contains_eq_mem]
  · rw [if_neg h, if_neg (mt htest.mp h)]

theorem decorated_narrow (r : SecurityRequirement) (d : DecoratedScheme) (h : d.Decorated) :
    (r.narrow d).Decorated := by
  rw [narrow_eq]
  split
  · exact d.decorated_filterByScopes r.scopes h
  · exact h

end SecurityRequirement

open SecurityRequirement (Answers Declared)

namespace Operation

theorem schemeFor?_decoratedSchemes (schemes : List SecurityScheme) (r : SecurityRequirement) :
    schemeFor? (Bundle.decoratedSchemes schemes) r =
      (schemes.find? fun s => s.name == r.scheme).map fun s =>
        r.narrow (DecoratedScheme.decorate s).value := by
  unfold schemeFor? Bundle.decoratedSchemes
  rw [List.find?_map, Option.map_map]
  congr 1
  funext s
  exact (SecurityRequirement.narrow_eq r _).symm

/-- Looking up is answering. -/
theorem schemeFor?_eq_some_iff (schemes : List SecurityScheme) (r : SecurityRequirement)
    (d : DecoratedScheme) :
    schemeFor? (Bundle.decoratedSchemes schemes) r = some d ↔ Answers schemes r d := by
  rw [schemeFor?_decoratedSchemes, Option.map_eq_some_iff]
  constructor
  · rintro ⟨s, hs, rfl⟩
    obtain ⟨hname, before, after, hsplit, hbefore⟩ := List.find?_eq_some_iff_append.mp hs
    refine ⟨before, s, after, hsplit, by simpa using hname, ?_, rfl⟩
    intro t ht
    simpa using hbefore t ht
  · rintro ⟨before, s, after, hsplit, hname, hbefore, rfl⟩
    refine ⟨s, List.find?_eq_some_iff_append.mpr ⟨by simpa using hname, before, after, hsplit, ?_⟩,
      rfl⟩
    intro t ht
    simpa using hbefore t ht

theorem isSome_schemeFor? (schemes : List SecurityScheme) (r : SecurityRequirement) :
    (schemeFor? (Bundle.decoratedSchemes schemes) r).isSome = decide (r.Declared schemes) := by
  rw [schemeFor?_decoratedSchemes, Option.isSome_map, Bool.eq_iff_iff, List.find?_isSome,
    decide_eq_true_iff]
  simp [Declared]

/-- The declared requirements are answered one for one, and the others not at all. -/
theorem forall₂_answers (schemes : List SecurityScheme) (security : List SecurityRequirement) :
    List.Forall₂ (Answers schemes) (security.filter (·.Declared schemes))
      (security.filterMap (schemeFor? (Bundle.decoratedSchemes schemes))) :=
  (forall₂_filterMap _ _ (fun r => (isSome_schemeFor? schemes r).symm) security).imp
    fun r d => (schemeFor?_eq_some_iff schemes r d).mp

end Operation

/-! ## Bundles -/

namespace Bundle

/-- Every scheme of a bundle: those that are declared and those that guard its operations. -/
def allSchemes (b : Bundle) : List DecoratedScheme :=
  b.securitySchemes ++ b.operations.flatMap (·.authMethods)

/-- **The schemes of a run.**  The declared ones are decorated in order, every operation is guarded
by the answers to its requirements, and each scheme anywhere has the URLs of its extensions. -/
theorem run_authMethods (options : Options) (primitives : List String) (model : ApiModel)
    (done : Logged Bundle) (h : run options primitives model = .ok done) :
    done.value.securitySchemes =
      model.securitySchemes.map (fun s => (DecoratedScheme.decorate s).value) ∧
    List.Forall₂ (fun op out : Operation => List.Forall₂ (Answers model.securitySchemes)
        (op.security.filter (·.Declared model.securitySchemes)) out.authMethods)
      model.operations done.value.operations ∧
    ∀ d ∈ done.value.allSchemes, d.Decorated := by
  obtain ⟨-, -, -, hschemes, hops⟩ := run_eq_ok options primitives model done h
  have hanswers : List.Forall₂ (fun op out : Operation =>
      List.Forall₂ (Answers model.securitySchemes)
        (op.security.filter (·.Declared model.securitySchemes)) out.authMethods)
      model.operations done.value.operations := by
    refine hops.imp fun op out hop => ?_
    obtain ⟨path, -, rfl⟩ := hop
    exact Operation.forall₂_answers model.securitySchemes op.security
  refine ⟨hschemes, hanswers, fun d hd => ?_⟩
  rcases List.mem_append.mp hd with hd | hd
  · rw [hschemes] at hd
    obtain ⟨s, -, rfl⟩ := List.mem_map.mp hd
    exact DecoratedScheme.decorated_decorate s
  · obtain ⟨out, hout, hd⟩ := List.mem_flatMap.mp hd
    obtain ⟨op, -, hop⟩ := exists_of_mem_right hanswers out hout
    obtain ⟨r, -, before, s, after, -, -, -, rfl⟩ := exists_of_mem_right hop d hd
    exact SecurityRequirement.decorated_narrow r _ (DecoratedScheme.decorated_decorate s)

/-- A pet store with an OAuth scheme and, under the same name, an API key. -/
def petstore : ApiModel where
  operations := [(((Operation.new "addPet" "POST" "/pets").withSecurity "petstore_auth"
    ["write:pets"]).withSecurity "missing" []).withSecurity "petstore_auth" []]
  securitySchemes := [
    { name := "petstore_auth"
      mechanism := .oauth2 none none none none
      scopes := [⟨"read:pets", none⟩, ⟨"write:pets", none⟩]
      vendorExtensions := KeyMap.ofList [("x-jwksUrl", .str "https://auth.example.com/jwks")] },
    { name := "petstore_auth", mechanism := .apiKey "api_key" .header }]

/-- In the pet store the first scheme answers, with the scope that is asked for or with all scopes,
and nothing answers for the scheme that nobody declared. -/
theorem run_authMethods_petstore : ∃ done, run {} defaultPrimitives petstore = .ok done ∧
    (done.value.operations.flatMap fun op => op.authMethods.map fun d =>
        (d.base.scopes.map (·.name), d.jwksUrl)) =
      [(["write:pets"], some "https://auth.example.com/jwks"),
        (["read:pets", "write:pets"], some "https://auth.example.com/jwks")] ∧
    ∀ d ∈ done.value.allSchemes, d.Decorated :=
  ⟨_, rfl, rfl, (run_authMethods {} defaultPrimitives petstore _ rfl).2.2⟩

end Bundle

end PlayScaffold
