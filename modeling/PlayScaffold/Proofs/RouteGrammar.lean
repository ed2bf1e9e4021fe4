import PlayScaffold.Proofs.RouteSyntax

/-!
# What becomes of each part of a route

A route is text, then placeholders, each with the text behind it (`Parts`).  In route syntax every
placeholder is a colon and its name in camel case, and all text stands as it is; what cannot be
taken apart like this is refused.

    convert path = .ok out ↔ ∃ r : Parts, path = r.source ∧ out = r.target      (convert_eq_ok_iff)
-/

namespace PlayScaffold.Route

/-- A placeholder and the text behind it, up to the next placeholder. -/
structure Segment where
  name : List Char
  text : List Char
  name_braceless : Braceless name
  name_named : Named name
  text_braceless : Braceless text

structure Parts where
  /-- the text before the first placeholder -/
  head : List Char
  segments : List Segment
  head_braceless : Braceless head

namespace Segment

/-- The segment with its name in braces. -/
def source (s : Segment) : List Char := openBrace :: (s.name ++ closeBrace :: s.text)

/-- The segment in route syntax. -/
def target (s : Segment) : List Char := ':' :: (Identifier.camel s.name ++ s.text)

end Segment

namespace Parts

def source (r : Parts) : List Char := r.head ++ r.segments.flatMap Segment.source

def target (r : Parts) : List Char := r.head ++ r.segments.flatMap Segment.target

end Parts

/-! ## From the parts to the reader -/

/-- From `pos` on, the text is read and written as `out`. -/
def ReadsAs (pos : Nat) (cs out : List Char) : Prop :=
  ∃ ps texts, pieces pos cs = .ok ps ∧
    List.Forall₂ (fun (p : Piece) text => p.render = .ok text) ps texts ∧ texts.flatten = out

theorem convert_eq_ok_iff_readsAs (path out : List Char) :
    convert path = .ok out ↔ ReadsAs 0 path out := by
  unfold convert ReadsAs
  simp only [bind_eq_ok_iff, mapM_eq_ok_iff]
  constructor
  · rintro ⟨ps, hps, texts, htexts, hout⟩
    exact ⟨ps, texts, hps, htexts, Except.ok.inj hout⟩
  · rintro ⟨ps, texts, hps, htexts, hout⟩
    exact ⟨ps, hps, texts, htexts, congrArg Except.ok hout⟩

theorem readsAs_nil (pos : Nat) : ReadsAs pos [] [] := ⟨[], [], rfl, List.Forall₂.nil, rfl⟩

/-- Text in front is kept. -/
theorem readsAs_append (cs rest out : List Char) (hcs : Braceless cs)
    (h : ∀ pos, ReadsAs pos rest out) (pos : Nat) : ReadsAs pos (cs ++ rest) (cs ++ out) := by
  obtain ⟨ps, texts, hps, htexts, rfl⟩ := h (pos + offset cs)
  refine ⟨cs.map .text ++ ps, cs.map (fun c => [c]) ++ texts, ?_, ?_, ?_⟩
  · rw [pieces_append cs hcs, hps]
    rfl
  · apply List.rel_append _ htexts
    rw [List.forall₂_map_left_iff, List.forall₂_map_right_iff, List.forall₂_same]
    intro c _
    rfl
  · rw [List.flatten_append, ← List.flatMap_def, List.flatMap_singleton']

/-- A placeholder in front is a colon and its name. -/
theorem readsAs_placeholder (name rest out : List Char) (hname : Braceless name)
    (hnamed : Named name) (h : ∀ pos, ReadsAs pos rest out) (pos : Nat) :
    ReadsAs pos (openBrace :: (name ++ closeBrace :: rest))
      (':' :: (Identifier.camel name ++ out)) := by
  obtain ⟨ps, texts, hps, htexts, rfl⟩ :=
    h (pos + offset (openBrace :: (name ++ [closeBrace])))
  have hrender : (Piece.placeholder pos name).render = .ok (':' :: Identifier.camel name) := by
    rw [Piece.render]
    split
    · next hnil => exact absurd hnil ((Identifier.camel_ne_nil_iff name).mpr hnamed)
    · rfl
  refine ⟨.placeholder pos name :: ps, (':' :: Identifier.camel name) :: texts, ?_,
    List.Forall₂.cons hrender htexts, rfl⟩
  rw [pieces_placeholder name rest hname (ne_nil_of_named name hnamed), hps]
  rfl

/-- The parts are read one after the other. -/
theorem readsAs_source (segments : List Segment) : ∀ (head : List Char), Braceless head → ∀ pos,
    ReadsAs pos (head ++ segments.flatMap Segment.source)
      (head ++ segments.flatMap Segment.target) := by
  -- induction over the segments: the text behind the first one is the head of the rest
  induction segments with
  | nil =>
    intro head hhead
    exact readsAs_append head [] [] hhead readsAs_nil
  | cons s segments ih =>
    intro head hhead
    apply readsAs_append head _ _ hhead
    intro pos
    have hrest := readsAs_placeholder s.name _ _ s.name_braceless s.name_named
      (ih s.text s.text_braceless) pos
    rw [List.flatMap_cons, List.flatMap_cons, Segment.source, Segment.target]
    simpa using hrest

theorem convert_source (r : Parts) : convert r.source = .ok r.target := by
  rw [convert_eq_ok_iff_readsAs]
  exact readsAs_source r.segments r.head r.head_braceless 0

/-! ## From the syntax to the parts -/

theorem wellFormed_iff_exists_parts (path : List Char) :
    WellFormed path ↔ ∃ r : Parts, path = r.source := by
  constructor
  · intro h
    induction h with
    | text cs h => exact ⟨⟨cs, [], h⟩, by simp [Parts.source]⟩
    | placeholder cs name rest h hname hnamed _ ih =>
      obtain ⟨r, rfl⟩ := ih
      refine ⟨⟨cs, ⟨name, r.head, hname, hnamed, r.head_braceless⟩ :: r.segments, h⟩, ?_⟩
      simp [Parts.source, Segment.source]
  · rintro ⟨r, rfl⟩
    exact (convert_ok_iff r.source).mp ⟨r.target, convert_source r⟩

/-- **Text is kept and placeholders are renamed**, and nothing else can be converted. -/
theorem convert_eq_ok_iff (path out : List Char) :
    convert path = .ok out ↔ ∃ r : Parts, path = r.source ∧ out = r.target := by
  constructor
  · intro h
    obtain ⟨r, rfl⟩ := (wellFormed_iff_exists_parts path).mp ((convert_ok_iff path).mp ⟨out, h⟩)
    rw [convert_source] at h
    exact ⟨r, rfl, (Except.ok.inj h).symm⟩
  · rintro ⟨r, rfl, rfl⟩
    exact convert_source r

/-! ## The routes of operations -/

theorem normalize_eq_ok_iff_convert (operationId path out : String) :
    normalize operationId path = .ok out ↔ convert path.toList = .ok out.toList := by
  unfold normalize
  cases convert path.toList with
  | ok text => simp [← String.toList_inj]
  | error fault => simp

theorem normalize_eq_error_iff_convert (operationId path : String) (e : Error) :
    normalize operationId path = .error e ↔ ∃ fault, convert path.toList = .error fault ∧
      e = .malformedPath operationId path fault.reason := by
  unfold normalize
  cases convert path.toList with
  | ok text => simp
  | error fault => simp [eq_comm]

/-- **Exactly the routes are normalized**, whatever operation they belong to: every placeholder
becomes a colon and its name in camel case, and all text between them stays.  Any other path is
refused, with the operation and the path as they were given. -/
theorem normalize_by_parts (operationId path : String) :
    (∀ out, normalize operationId path = .ok out ↔
      ∃ r : Parts, path.toList = r.source ∧ out.toList = r.target) ∧
    ((¬ ∃ r : Parts, path.toList = r.source) ↔
      ∃ reason, normalize operationId path = .error (.malformedPath operationId path reason)) := by
  refine ⟨fun out => ?_, ?_⟩
  · rw [normalize_eq_ok_iff_convert, convert_eq_ok_iff]
  · rw [← wellFormed_iff_exists_parts, ← convert_ok_iff]
    constructor
    · intro h
      cases hconvert : convert path.toList with
      | ok out => exact absurd ⟨out, hconvert⟩ h
      | error fault =>
        exact ⟨fault.reason, (normalize_eq_error_iff_convert _ _ _).mpr ⟨fault, hconvert, rfl⟩⟩
    · rintro ⟨reason, hreason⟩ ⟨out, hout⟩
      obtain ⟨fault, hfault, -⟩ := (normalize_eq_error_iff_convert _ _ _).mp hreason
      rw [hout] at hfault
      cases hfault

/-- Two placeholders side by side and a line break in a name. -/
example : normalize "getPhoto" "/pet/\x7bpet_id\x7d\x7bPhoto\nID\x7d.jpg" =
    .ok "/pet/:petId:photoID.jpg" := by rfl

end PlayScaffold.Route
