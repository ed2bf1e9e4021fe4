import PlayScaffold.Proofs.CamelCase
import PlayScaffold.Proofs.RouteGrammar

/-!
# Routes read back

The braces of a route tell its parts, so it has one set of them (`Parts.eq_of_source_eq`).  In route
syntax a colon opens each name and nothing closes it: what is read behind the colon is the name
together with the letters and digits that happen to follow.

    names r.target = r.segments.map (camel ·.name) ↔ no text begins with a letter or digit

where the names hold letters and digits only and the text holds no colon (`names_target_iff`).  The
colons in route syntax are those of the text and one for each placeholder (`count_target`).
-/

namespace PlayScaffold.Route

open Identifier (camel Alphanumeric)

attribute [ext] Segment Parts

/-! ## Runs of characters -/

section Runs

variable {α : Type} (p : α → Bool) (xs ys : List α)

theorem takeWhile_append_eq_left_iff :
    (xs ++ ys).takeWhile p = xs ↔ (∀ x ∈ xs, p x = true) ∧ ys.head?.any p = false := by
  induction xs with
  | nil => cases ys <;> simp [List.takeWhile_cons]
  | cons x xs ih =>
    rw [List.cons_append, List.takeWhile_cons]
    by_cases hx : p x = true
    · simp [hx, ih]
    · simp [hx]

theorem takeWhile_append_of_head (h : ys.head?.any p = false) :
    (xs ++ ys).takeWhile p = xs.takeWhile p := by
  induction xs with
  | nil => exact (takeWhile_append_eq_left_iff p [] ys).mpr ⟨by simp, h⟩
  | cons x xs ih => rw [List.cons_append, List.takeWhile_cons, List.takeWhile_cons, ih]

end Runs

/-- What stands before the first brace, if that is where the text ends or the brace comes. -/
theorem append_inj_of_head (brace : Char) (cs ds xs ys : List Char) (hcs : ∀ c ∈ cs, c ≠ brace)
    (hds : ∀ c ∈ ds, c ≠ brace) (hxs : xs.head?.any (· != brace) = false)
    (hys : ys.head?.any (· != brace) = false) (h : cs ++ xs = ds ++ ys) : cs = ds ∧ xs = ys := by
  have hleft := (takeWhile_append_eq_left_iff (· != brace) cs xs).mpr ⟨by simpa using hcs, hxs⟩
  have hright := (takeWhile_append_eq_left_iff (· != brace) ds ys).mpr ⟨by simpa using hds, hys⟩
  have hsame : cs = ds := by rw [← hleft, h, hright]
  subst hsame
  exact ⟨rfl, List.append_cancel_left h⟩

/-! ## One set of parts -/

theorem head?_flatMap_source (segments : List Segment) :
    (segments.flatMap Segment.source).head?.any (· != openBrace) = false := by
  cases segments with
  | nil => rfl
  | cons s segments => simp [Segment.source]

/-- The parts are found again brace by brace. -/
theorem segments_eq_of_source_eq (segments : List Segment) : ∀ segments' head head',
    Braceless head → Braceless head' →
    head ++ segments.flatMap Segment.source = head' ++ segments'.flatMap Segment.source →
    head = head' ∧ segments = segments' := by
  -- both heads end at the first brace that opens, if there is one, and the same again at the brace
  -- that closes; the text behind it is the head of the rest
  induction segments with
  | nil =>
    intro segments' head head' hhead hhead' h
    obtain ⟨hsame, hrest⟩ := append_inj_of_head openBrace head head' _ _
      (fun c hc => (hhead c hc).1) (fun c hc => (hhead' c hc).1) rfl
      (head?_flatMap_source segments') h
    cases segments' with
    | nil => exact ⟨hsame, rfl⟩
    | cons s segments' => cases hrest
  | cons s segments ih =>
    intro segments' head head' hhead hhead' h
    obtain ⟨hsame, hrest⟩ := append_inj_of_head openBrace head head' _ _
      (fun c hc => (hhead c hc).1) (fun c hc => (hhead' c hc).1)
      (head?_flatMap_source (s :: segments)) (head?_flatMap_source segments') h
    cases segments' with
    | nil => cases hrest
    | cons s' segments' =>
      rw [List.flatMap_cons, List.flatMap_cons, Segment.source, Segment.source, List.cons_append,
        List.cons_append, List.append_assoc, List.append_assoc, List.cons_append,
        List.cons_append] at hrest
      obtain ⟨hname, hrest⟩ := append_inj_of_head closeBrace s.name s'.name _ _
        (fun c hc => (s.name_braceless c hc).2) (fun c hc => (s'.name_braceless c hc).2)
        (by simp) (by simp) (List.cons.inj hrest).2
      obtain ⟨htext, hsegments⟩ := ih segments' s.text s'.text s.text_braceless s'.text_braceless
        (List.cons.inj hrest).2
      exact ⟨hsame, by rw [Segment.ext hname htext, hsegments]⟩

/-- A route has one set of parts. -/
theorem Parts.eq_of_source_eq (r r' : Parts) (h : r.source = r'.source) : r = r' := by
  obtain ⟨hhead, hsegments⟩ := segments_eq_of_source_eq r.segments r'.segments r.head r'.head
    r.head_braceless r'.head_braceless h
  exact Parts.ext hhead hsegments

/-- What is normalized has one set of parts, and they are what is written. -/
theorem exists_parts_of_normalize (operationId path out : String)
    (h : normalize operationId path = .ok out) :
    ∃ r : Parts, (∀ r' : Parts, path.toList = r'.source ↔ r' = r) ∧ out.toList = r.target := by
  rw [normalize_eq_ok_iff_convert, convert_eq_ok_iff] at h
  obtain ⟨r, hsource, htarget⟩ := h
  refine ⟨r, fun r' => ⟨fun h => ?_, ?_⟩, htarget⟩
  · exact r'.eq_of_source_eq r (h.symm.trans hsource)
  · rintro rfl
    exact hsource

/-! ## Colons -/

/-- The text outside the placeholders. -/
def Parts.text (r : Parts) : List Char := r.head ++ r.segments.flatMap Segment.text

theorem colon_not_mem_camel (name : List Char) : ':' ∉ camel name := by
  intro h
  exact (Identifier.unpunctuated_of_mem_camel name ':' h).ne ':' ':' rfl rfl rfl

theorem count_flatMap_target (segments : List Segment) :
    (segments.flatMap Segment.target).count ':' =
      (segments.flatMap Segment.text).count ':' + segments.length := by
  induction segments with
  | nil => rfl
  | cons s segments ih =>
    have hname := List.count_eq_zero.mpr (colon_not_mem_camel s.name)
    simp only [List.flatMap_cons, Segment.target, List.count_append, List.count_cons_self,
      List.length_cons, hname, ih]
    omega

/-- There are the colons of the text, and one in front of each name. -/
theorem count_target (r : Parts) : r.target.count ':' = r.text.count ':' + r.segments.length := by
  rw [Parts.target, Parts.text, List.count_append, List.count_append, count_flatMap_target]
  omega

/-- **A normalized route has no brace left, and a colon for each placeholder** besides those that
stood between them.  It is a route that stays as it is, whatever operation it belongs to. -/
theorem normalize_colons (operationId path out : String)
    (h : normalize operationId path = .ok out) :
    openBrace ∉ out.toList ∧ closeBrace ∉ out.toList ∧
    (∃ r : Parts, (∀ r' : Parts, path.toList = r'.source ↔ r' = r) ∧
      out.toList.count ':' = r.text.count ':' + r.segments.length) ∧
    ∀ operationId', normalize operationId' out = .ok out := by
  have hconvert := (normalize_eq_ok_iff_convert operationId path out).mp h
  have hbraceless := convert_braceless _ _ hconvert
  refine ⟨fun hmem => (hbraceless _ hmem).1 rfl, fun hmem => (hbraceless _ hmem).2 rfl, ?_,
    fun operationId' => ?_⟩
  · obtain ⟨r, hsource, htarget⟩ := exists_parts_of_normalize operationId path out h
    exact ⟨r, hsource, by rw [htarget, count_target]⟩
  · exact (normalize_eq_ok_iff_convert _ _ _).mpr (convert_convert _ _ hconvert)

/-- A colon before the placeholders, one inside a name and one between two of them. -/
theorem normalize_colons_nested :
    normalize "getPart" "/a:b/\x7bpart:Of_x\x7d:\x7bPage\x7d" = .ok "/a:b/:partOfX::page" ∧
    openBrace ∉ "/a:b/:partOfX::page".toList ∧ closeBrace ∉ "/a:b/:partOfX::page".toList ∧
    (∃ r : Parts,
      (∀ r' : Parts, "/a:b/\x7bpart:Of_x\x7d:\x7bPage\x7d".toList = r'.source ↔ r' = r) ∧
      "/a:b/:partOfX::page".toList.count ':' = r.text.count ':' + r.segments.length) ∧
    ∀ operationId', normalize operationId' "/a:b/:partOfX::page" = .ok "/a:b/:partOfX::page" :=
  ⟨by rfl, normalize_colons "getPart" _ _ (by rfl)⟩

/-! ## Names behind colons -/

/-- Behind each colon, the longest run of letters and digits. -/
def names : List Char → List (List Char)
  | [] => []
  | c :: rest =>
    if c = ':' then rest.takeWhile Text.isAlphanumeric :: names rest else names rest

theorem names_append (cs rest : List Char) (h : ':' ∉ cs) : names (cs ++ rest) = names rest := by
  induction cs with
  | nil => rfl
  | cons c cs ih =>
    rw [List.mem_cons, not_or] at h
    rw [List.cons_append, names, if_neg (Ne.symm h.1), ih h.2]

/-- What is read behind the colon of the segment. -/
def Segment.reading (s : Segment) : List Char :=
  (camel s.name ++ s.text).takeWhile Text.isAlphanumeric

/-- Does the text behind the placeholder begin with a letter or digit? -/
def Segment.runsOn (s : Segment) : Bool := s.text.head?.any Text.isAlphanumeric

theorem head?_flatMap_target (segments : List Segment) :
    (segments.flatMap Segment.target).head?.any Text.isAlphanumeric = false := by
  cases segments with
  | nil => rfl
  | cons s segments => rfl

theorem names_flatMap_target (segments : List Segment) (h : ':' ∉ segments.flatMap Segment.text) :
    names (segments.flatMap Segment.target) = segments.map Segment.reading := by
  induction segments with
  | nil => rfl
  | cons s segments ih =>
    rw [List.flatMap_cons, List.mem_append, not_or] at h
    have hcolon : ':' ∉ camel s.name ++ s.text := by
      rw [List.mem_append, not_or]
      exact ⟨colon_not_mem_camel s.name, h.1⟩
    rw [List.flatMap_cons, Segment.target, List.cons_append, names, if_pos rfl,
      names_append _ _ hcolon, ih h.2,
      takeWhile_append_of_head _ _ _ (head?_flatMap_target segments)]
    rfl

/-- A name is read behind every placeholder's colon and nowhere else. -/
theorem names_target (r : Parts) (h : ':' ∉ r.text) :
    names r.target = r.segments.map Segment.reading := by
  rw [Parts.text, List.mem_append, not_or] at h
  rw [Parts.target, names_append _ _ h.1, names_flatMap_target _ h.2]

theorem reading_eq_iff (s : Segment) (hname : Alphanumeric (camel s.name)) :
    s.reading = camel s.name ↔ s.runsOn = false := by
  rw [Segment.reading, takeWhile_append_eq_left_iff]
  exact and_iff_right hname

theorem names_target_iff (r : Parts) (h : ':' ∉ r.text)
    (hnames : ∀ s ∈ r.segments, Alphanumeric (camel s.name)) :
    names r.target = r.segments.map (camel ·.name) ↔ ∀ s ∈ r.segments, s.runsOn = false := by
  rw [names_target r h, List.map_inj_left]
  exact forall₂_congr fun s hs => reading_eq_iff s (hnames s hs)

/-- **Names are read back exactly where no text runs on.**  The text holds no colon here, and the
names in camel case hold letters and digits only. -/
theorem normalize_names_iff (operationId path out : String) (r : Parts)
    (h : normalize operationId path = .ok out) (hr : path.toList = r.source) (hcolon : ':' ∉ r.text)
    (hnames : ∀ s ∈ r.segments, Alphanumeric (camel s.name)) :
    names out.toList = r.segments.map (camel ·.name) ↔ ∀ s ∈ r.segments, s.runsOn = false := by
  obtain ⟨r', hsource, htarget⟩ := exists_parts_of_normalize operationId path out h
  obtain rfl := (hsource r).mp hr
  rw [htarget]
  exact names_target_iff r hcolon hnames

/-- A name behind which a dot comes. -/
def photoRoute : Parts where
  head := "/pets/".toList
  segments := [⟨"pet_id".toList, "/photos/".toList, by decide, by decide, by decide⟩,
    ⟨"photo-ID".toList, ".jpg".toList, by decide, by decide, by decide⟩]
  head_braceless := by decide

theorem normalize_names_iff_photos :
    normalize "getPhoto" "/pets/\x7bpet_id\x7d/photos/\x7bphoto-ID\x7d.jpg" =
      .ok "/pets/:petId/photos/:photoID.jpg" ∧
    "/pets/\x7bpet_id\x7d/photos/\x7bphoto-ID\x7d.jpg".toList = photoRoute.source ∧
    ':' ∉ photoRoute.text ∧
    (∀ s ∈ photoRoute.segments, Alphanumeric (camel s.name)) ∧
    (names "/pets/:petId/photos/:photoID.jpg".toList = photoRoute.segments.map (camel ·.name) ↔
      ∀ s ∈ photoRoute.segments, s.runsOn = false) :=
  ⟨by rfl, by rfl, by decide, by decide,
    normalize_names_iff "getPhoto" "/pets/\x7bpet_id\x7d/photos/\x7bphoto-ID\x7d.jpg" _ photoRoute
      (by rfl) (by rfl) (by decide) (by decide)⟩

/-- A name behind which a letter comes. -/
def pluralRoute : Parts where
  head := "/".toList
  segments := [⟨"id".toList, "s".toList, by decide, by decide, by decide⟩]
  head_braceless := by decide

/-- The letter is read as part of the name. -/
theorem not_forall_names_normalize :
    ¬ ∀ (operationId path out : String) (r : Parts), normalize operationId path = .ok out →
      path.toList = r.source → ':' ∉ r.text →
      names out.toList = r.segments.map (camel ·.name) := by
  intro h
  have hread := h "getPet" "/\x7bid\x7ds" "/:ids" pluralRoute (by rfl) (by rfl) (by decide)
  revert hread
  decide

end PlayScaffold.Route
