import PlayScaffold.Proofs.SchemeDigest

/-!
# Narrowing schemes

A scheme can be narrowed to one list of names after the other.  It keeps the scopes whose names
stand in all of the lists, and all of its other fields; so two series of lists leave the same scheme
exactly if no declared scope tells them apart:

    s.filterByAll lists = s.filterByAll others ↔
      ∀ scope ∈ s.scopes, (every list names it ↔ every other list does)      (filterByAll_eq_iff)

The order of the lists, the order of the names in a list and names that stand there twice or are not
declared make no difference then.  The URLs of a decorated scheme are not looked at, and decorating
does not look at the scopes: a scheme may be narrowed before it is decorated or after
(`decorate_filterByAll`).
-/

namespace PlayScaffold

/-- Two tests leave the same of a list exactly if they agree on its items. -/
theorem filter_eq_filter_iff {α : Type} (p q : α → Bool) (xs : List α) :
    xs.filter p = xs.filter q ↔ ∀ x ∈ xs, (p x = true ↔ q x = true) := by
  constructor
  · intro h x hx
    have hmem : x ∈ xs.filter p ↔ x ∈ xs.filter q := by rw [h]
    simpa [hx] using hmem
  · intro h
    exact List.filter_congr fun x hx => Bool.eq_iff_iff.mpr (h x hx)

/-! ## Schemes -/

namespace SecurityScheme

/-- The scheme narrowed to the names of one list after the other. -/
def filterByAll (s : SecurityScheme) (lists : List (List String)) : SecurityScheme :=
  lists.foldl filterByScopes s

/-- A series of lists leaves the scopes that all of them name. -/
theorem filterByAll_eq (lists : List (List String)) : ∀ s : SecurityScheme,
    s.filterByAll lists =
      { s with scopes := s.scopes.filter fun scope => ∀ names ∈ lists, scope.name ∈ names } := by
  induction lists with
  | nil => intro s; simp [filterByAll]
  | cons names rest ih =>
    intro s
    show (s.filterByScopes names).filterByAll rest = _
    rw [ih, filterByScopes]
    congr 1
    rw [List.filter_filter]
    refine List.filter_congr fun scope _ => ?_
    simp only [List.forall_mem_cons, List.contains_eq_mem, Bool.decide_and, Bool.and_comm]

theorem filterByAll_eq_iff (s : SecurityScheme) (lists others : List (List String)) :
    s.filterByAll lists = s.filterByAll others ↔ ∀ scope ∈ s.scopes,
      ((∀ names ∈ lists, scope.name ∈ names) ↔ ∀ names ∈ others, scope.name ∈ names) := by
  have hscopes := filter_eq_filter_iff (fun scope => decide (∀ names ∈ lists, scope.name ∈ names))
    (fun scope => decide (∀ names ∈ others, scope.name ∈ names)) s.scopes
  simp only [decide_eq_true_iff] at hscopes
  rw [filterByAll_eq, filterByAll_eq, ← hscopes]
  simp only [mk.injEq, true_and, and_true]

end SecurityScheme

/-! ## Decorated schemes -/

namespace DecoratedScheme

theorem sameValue_refl (s : DecoratedScheme) : s.sameValue s = true := by
  simp [sameValue, SecurityScheme.sameValue, Json.sameFields_refl]

def filterByAll (s : DecoratedScheme) (lists : List (List String)) : DecoratedScheme :=
  lists.foldl filterByScopes s

/-- The base is narrowed, and the URLs are carried along. -/
theorem filterByAll_eq (lists : List (List String)) : ∀ s : DecoratedScheme,
    s.filterByAll lists = ⟨s.base.filterByAll lists, s.jwksUrl, s.tokenIntrospectUrl⟩ := by
  induction lists with
  | nil => intro s; rfl
  | cons names rest ih => intro s; exact ih (s.filterByScopes names)

theorem filterByAll_eq_iff (s : DecoratedScheme) (lists others : List (List String)) :
    s.filterByAll lists = s.filterByAll others ↔ ∀ scope ∈ s.base.scopes,
      ((∀ names ∈ lists, scope.name ∈ names) ↔ ∀ names ∈ others, scope.name ∈ names) := by
  rw [filterByAll_eq, filterByAll_eq, ← SecurityScheme.filterByAll_eq_iff]
  simp only [mk.injEq, and_true]

/-- Decorating does not look at the scopes: the scheme and its warnings are the same. -/
theorem map_filterByScopes_decorate (s : SecurityScheme) (names : List String) :
    (·.filterByScopes names) <$> decorate s = decorate (s.filterByScopes names) := by
  simp only [decorate, map_bind, map_pure]
  rfl

/-- **Decorating and narrowing commute**, however often a scheme is narrowed. -/
theorem decorate_filterByAll (lists : List (List String)) : ∀ s : SecurityScheme,
    decorate (s.filterByAll lists) = (·.filterByAll lists) <$> decorate s := by
  induction lists with
  | nil => intro s; exact (id_map (decorate s)).symm
  | cons names rest ih =>
    intro s
    calc decorate ((s.filterByScopes names).filterByAll rest)
        = (·.filterByAll rest) <$> decorate (s.filterByScopes names) := ih (s.filterByScopes names)
      _ = (·.filterByAll rest) <$> (·.filterByScopes names) <$> decorate s := by
          rw [map_filterByScopes_decorate]
      _ = (fun d => (d.filterByScopes names).filterByAll rest) <$> decorate s := by
          rw [Functor.map_map]

/-- **Narrowing is by sets of names.**  Lists of names may be taken in either order, or in one step
by the names that stand in both; order and repetitions in a list make no difference.  Nothing
changes exactly if all declared scopes are named, and it does not matter whether a scheme is
narrowed before or after it is decorated: its URLs and the warnings are the same. -/
theorem filterByScopes_by_sets (raw : SecurityScheme) (s : DecoratedScheme) (A B : List String) :
    (s.filterByScopes A).filterByScopes B = (s.filterByScopes B).filterByScopes A ∧
    (∀ both : List String, (∀ name, name ∈ both ↔ name ∈ A ∧ name ∈ B) →
      (s.filterByScopes A).filterByScopes B = s.filterByScopes both) ∧
    (∀ same : List String, (∀ name, name ∈ same ↔ name ∈ A) →
      s.filterByScopes same = s.filterByScopes A) ∧
    (s.filterByScopes A = s ↔ ∀ scope ∈ s.base.scopes, scope.name ∈ A) ∧
    ((s.filterByScopes A == s) = true ↔ ∀ scope ∈ s.base.scopes, scope.name ∈ A) ∧
    decorate (raw.filterByScopes A) = (·.filterByScopes A) <$> decorate raw ∧
    (decorate (raw.filterByScopes A)).value.jwksUrl = (decorate raw).value.jwksUrl ∧
    (decorate (raw.filterByScopes A)).value.tokenIntrospectUrl =
      (decorate raw).value.tokenIntrospectUrl := by
  have hself : s.filterByScopes A = s ↔ ∀ scope ∈ s.base.scopes, scope.name ∈ A := by
    refine (s.filterByAll_eq_iff [A] []).trans (forall₂_congr fun scope _ => ?_)
    simp only [List.forall_mem_singleton, List.not_mem_nil, false_implies, implies_true, iff_true]
  refine ⟨?_, fun both hboth => ?_, fun same hsame => ?_, hself, ?_, ?_, rfl, rfl⟩
  · refine (s.filterByAll_eq_iff [A, B] [B, A]).mpr fun scope _ => ?_
    simp only [List.forall_mem_cons, List.not_mem_nil, false_implies, implies_true, and_true]
    exact and_comm
  · refine (s.filterByAll_eq_iff [A, B] [both]).mpr fun scope _ => ?_
    simp only [List.forall_mem_cons, List.not_mem_nil, false_implies, implies_true, and_true]
    exact (hboth scope.name).symm
  · refine (s.filterByAll_eq_iff [same] [A]).mpr fun scope _ => ?_
    simp only [List.forall_mem_singleton]
    exact hsame scope.name
  · rw [← hself]
    constructor
    · intro h
      -- narrowing touches nothing that is compared by value
      have hscopes := (parts_of_sameValue _ _ h).1.scopes
      refine hself.mpr fun scope hscope => ?_
      rw [← hscopes] at hscope
      simpa using (List.mem_filter.mp hscope).2
    · intro h
      rw [h]
      exact s.sameValue_refl
  · exact decorate_filterByAll [A] raw

/-- The scheme of a pet store, with three scopes and one of its two URLs. -/
def petstoreAuth : SecurityScheme where
  name := "petstore_auth"
  mechanism := .oauth2 (some "accessCode") none none none
  scopes := [⟨"read:pets", none⟩, ⟨"write:pets", some "change pets"⟩, ⟨"admin", none⟩]
  vendorExtensions := KeyMap.ofList [("x-jwksUrl", .str "https://auth.example.com/jwks")]

/-- Reading and writing by one list, writing twice and the unknown `delete:pets` by another one:
what is left is to write, with the URL of the key set. -/
theorem filterByScopes_by_sets_petstore :
    let s := (decorate petstoreAuth).value
    let A := ["write:pets", "read:pets"]
    let B := ["write:pets", "delete:pets", "write:pets"]
    (∀ name, name ∈ ["write:pets"] ↔ name ∈ A ∧ name ∈ B) ∧
    (s.filterByScopes A).filterByScopes B = s.filterByScopes ["write:pets"] ∧
    (∀ name, name ∈ ["read:pets", "write:pets", "read:pets"] ↔ name ∈ A) ∧
    s.filterByScopes ["read:pets", "write:pets", "read:pets"] = s.filterByScopes A ∧
    s.filterByScopes A ≠ s ∧
    ((s.filterByScopes A).filterByScopes B).base.scopes = [⟨"write:pets", some "change pets"⟩] ∧
    (decorate (petstoreAuth.filterByScopes A)).value.jwksUrl =
      some "https://auth.example.com/jwks" := by
  intro s A B
  have hboth : ∀ name, name ∈ ["write:pets"] ↔ name ∈ A ∧ name ∈ B := by
    intro name
    simp only [A, B, List.mem_cons, List.not_mem_nil, or_false]
    grind
  have hsame : ∀ name, name ∈ ["read:pets", "write:pets", "read:pets"] ↔ name ∈ A := by
    intro name
    simp only [A, List.mem_cons, List.not_mem_nil, or_false]
    grind
  obtain ⟨-, hinter, hset, hself, -, -, hjwks, -⟩ := filterByScopes_by_sets petstoreAuth s A B
  exact ⟨hboth, hinter _ hboth, hsame, hset _ hsame, mt hself.mp (by decide), rfl, hjwks.trans rfl⟩

end DecoratedScheme

end PlayScaffold
