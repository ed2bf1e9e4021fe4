import PlayScaffold.Proofs.Casing
import PlayScaffold.Proofs.Traversal
import PlayScaffold.Route

/-!
# Routes in route syntax

The braces of a route end where its placeholders do: its text has none, nor have the names, and
camel case adds none.  A converted route is therefore text throughout, and converting it again
changes nothing.

    convert path = .ok out → convert out = .ok out      (convert_convert)
-/

namespace PlayScaffold.Route

def Braceless (cs : List Char) : Prop := ∀ c ∈ cs, c ≠ openBrace ∧ c ≠ closeBrace

instance (cs : List Char) : Decidable (Braceless cs) :=
  List.decidableBAll (fun c => c ≠ openBrace ∧ c ≠ closeBrace) cs

def Piece.Braceless : Piece → Prop
  | .text c => c ≠ openBrace ∧ c ≠ closeBrace
  | .placeholder _ name => Route.Braceless name

/-! ## Reading -/

/-- Pieces are read without braces. -/
theorem pieces_braceless (cs : List Char) : ∀ pos,
    (∀ ps, pieces pos cs = .ok ps → ∀ p ∈ ps, p.Braceless) ∧
    ∀ opened name later, namedPieces opened pos cs = .ok (name, later) →
      Braceless name ∧ ∀ p ∈ later, p.Braceless := by
  -- both states of the reader at once, since each goes on with the other
  induction cs with
  | nil =>
    intro pos
    refine ⟨fun ps h => ?_, fun opened name later h => ?_⟩
    · rw [pieces] at h
      cases h
      simp
    · rw [namedPieces] at h
      cases h
  | cons c rest ih =>
    intro pos
    refine ⟨fun ps h => ?_, fun opened name later h => ?_⟩
    · rw [pieces] at h
      split at h
      · obtain ⟨⟨name, later⟩, hnamed, h⟩ := (bind_eq_ok_iff _ _ _).mp h
        cases h
        exact List.forall_mem_cons.mpr ((ih (pos + 1)).2 pos name later hnamed)
      · next hopen =>
        split at h
        · cases h
        · next hclose =>
          obtain ⟨later, hlater, h⟩ := (bind_eq_ok_iff _ _ _).mp h
          cases h
          exact List.forall_mem_cons.mpr ⟨⟨hopen, hclose⟩, (ih _).1 later hlater⟩
    · rw [namedPieces] at h
      split at h
      · cases h
      · next hopen =>
        split at h
        · split at h
          · cases h
          · obtain ⟨later, hlater, h⟩ := (bind_eq_ok_iff _ _ _).mp h
            cases h
            exact ⟨by simp [Braceless], (ih _).1 later hlater⟩
        · next hclose =>
          obtain ⟨⟨name, later⟩, hnamed, h⟩ := (bind_eq_ok_iff _ _ _).mp h
          cases h
          obtain ⟨hname, hpieces⟩ := (ih _).2 opened name later hnamed
          exact ⟨List.forall_mem_cons.mpr ⟨⟨hopen, hclose⟩, hname⟩, hpieces⟩

/-- Text without braces is read as it stands. -/
theorem pieces_of_braceless (cs : List Char) (h : Braceless cs) : ∀ pos,
    pieces pos cs = .ok (cs.map .text) := by
  induction cs with
  | nil => intro pos; rfl
  | cons c rest ih =>
    intro pos
    obtain ⟨⟨hopen, hclose⟩, hrest⟩ := List.forall_mem_cons.mp h
    rw [pieces, if_neg hopen, if_neg hclose, ih hrest]
    rfl

/-! ## Writing -/

theorem camel_braceless (name : List Char) : Braceless (Identifier.camel name) := by
  intro d hd
  have := Identifier.unpunctuated_of_mem_camel name d hd
  exact ⟨this.ne d openBrace rfl rfl, this.ne d closeBrace rfl rfl⟩

theorem render_braceless (p : Piece) (out : List Char) (hp : p.Braceless)
    (h : p.render = .ok out) : Braceless out := by
  cases p with
  | text c =>
    cases h
    exact List.forall_mem_cons.mpr ⟨hp, by simp⟩
  | placeholder start name =>
    rw [Piece.render] at h
    split at h
    · cases h
    · cases h
      exact List.forall_mem_cons.mpr ⟨by decide, camel_braceless name⟩

theorem convert_braceless (path out : List Char) (h : convert path = .ok out) : Braceless out := by
  obtain ⟨parts, hparts, h⟩ := (bind_eq_ok_iff _ _ _).mp h
  obtain ⟨texts, htexts, h⟩ := (bind_eq_ok_iff _ _ _).mp h
  cases h
  intro c hc
  obtain ⟨text, htext, hc⟩ := List.mem_flatten.mp hc
  obtain ⟨p, hp, hrender⟩ := exists_of_mem_mapM _ _ _ htexts text htext
  exact render_braceless p text ((pieces_braceless path 0).1 parts hparts p hp) hrender c hc

theorem convert_of_braceless (path : List Char) (h : Braceless path) : convert path = .ok path := by
  have hrender : (path.map Piece.text).mapM Piece.render = .ok (path.map fun c => [c]) := by
    rw [List.mapM_map]
    exact List.mapM_pure
  rw [convert, pieces_of_braceless path h]
  show (path.map Piece.text).mapM Piece.render >>= (fun texts => pure texts.flatten) = .ok path
  rw [hrender]
  show Except.ok (path.map fun c => [c]).flatten = .ok path
  rw [← List.flatMap_def, List.flatMap_singleton']

/-- **A converted route stays as it is.** -/
theorem convert_convert (path out : List Char) (h : convert path = .ok out) :
    convert out = .ok out :=
  convert_of_braceless out (convert_braceless path out h)

end PlayScaffold.Route
