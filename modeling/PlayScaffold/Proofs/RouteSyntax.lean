import PlayScaffold.Proofs.Route
import PlayScaffold.Proofs.Words

/-!
# Which texts are routes

A route is text without braces and, in between, placeholders in braces whose names hold a letter or
a digit.  The conversion takes exactly these:

    (∃ out, convert path = .ok out) ↔ WellFormed path      (convert_ok_iff)

A name has a camel case where it has a word, and a word where it has a letter or a digit
(`camel_ne_nil_iff`).  The reader is followed in both of its states, outside the placeholders and
inside of one.
-/

namespace PlayScaffold

/-! ## Names with words -/

namespace Identifier

open Text

/-- A name has a camel case exactly where it has a letter or a digit. -/
theorem camel_ne_nil_iff (name : List Char) :
    camel name ≠ [] ↔ ∃ c ∈ name, isAlphanumeric c = true := by
  have hcamel : camel name = [] ↔ words name = [] := by
    unfold camel
    cases hsplit : words name with
    | nil => simp
    | cons first later =>
      have hmem : first ∈ words name := by rw [hsplit]; exact List.mem_cons_self
      obtain ⟨hne, halpha, -⟩ := (laidOut_words name).of_mem first hmem
      obtain ⟨c, rest, rfl⟩ := List.exists_cons_of_ne_nil hne
      obtain ⟨d, lowered, hlower, -⟩ := exists_head_lower c (halpha c List.mem_cons_self)
      simp [mapFirst, hlower]
  rw [ne_eq, hcamel, words_eq_nil_iff]
  simp

end Identifier

namespace Route

/-! ## The syntax of routes -/

def Named (name : List Char) : Prop := ∃ c ∈ name, Text.isAlphanumeric c = true

instance (name : List Char) : Decidable (Named name) :=
  List.decidableBEx (fun c => Text.isAlphanumeric c = true) name

/-- Text without braces, and placeholders in between. -/
inductive WellFormed : List Char → Prop where
  | text (cs : List Char) (h : Braceless cs) : WellFormed cs
  | placeholder (cs name rest : List Char) (h : Braceless cs) (hname : Braceless name)
      (hnamed : Named name) (hrest : WellFormed rest) :
      WellFormed (cs ++ openBrace :: (name ++ closeBrace :: rest))

theorem Braceless.cons (c : Char) (cs : List Char) (hopen : c ≠ openBrace) (hclose : c ≠ closeBrace)
    (h : Braceless cs) : Braceless (c :: cs) := List.forall_mem_cons.mpr ⟨⟨hopen, hclose⟩, h⟩

theorem WellFormed.cons (c : Char) (cs : List Char) (hopen : c ≠ openBrace)
    (hclose : c ≠ closeBrace) (h : WellFormed cs) : WellFormed (c :: cs) := by
  cases h with
  | text _ h => exact .text _ (h.cons c cs hopen hclose)
  | placeholder before name rest h hname hnamed hrest =>
    exact .placeholder (c :: before) name rest (h.cons c before hopen hclose) hname hnamed hrest

/-! ## From the reader to the syntax -/

def Piece.Writable : Piece → Prop
  | .text _ => True
  | .placeholder _ name => Named name

theorem render_eq_ok_iff (p : Piece) : (∃ out, p.render = .ok out) ↔ p.Writable := by
  cases p with
  | text c => simp [Piece.render, Piece.Writable]
  | placeholder start name =>
    rw [Piece.render, Piece.Writable, Named, ← Identifier.camel_ne_nil_iff]
    split
    · next h => simp [h]
    · next h => exact ⟨fun _ => h, fun _ => ⟨_, rfl⟩⟩

/-- What is read and can be written is a route; inside of a placeholder the text goes on with the
rest of its name. -/
theorem wellFormed_of_pieces (cs : List Char) : ∀ pos,
    (∀ ps, pieces pos cs = .ok ps → (∀ p ∈ ps, p.Writable) → WellFormed cs) ∧
    ∀ opened name later, namedPieces opened pos cs = .ok (name, later) →
      (∀ p ∈ later, p.Writable) →
      ∃ rest, cs = name ++ closeBrace :: rest ∧ Braceless name ∧ WellFormed rest := by
  -- both states of the reader at once
  induction cs with
  | nil =>
    intro pos
    refine ⟨fun ps _ _ => .text [] (by simp [Braceless]), fun opened name later h => ?_⟩
    rw [namedPieces] at h
    cases h
  | cons c cs ih =>
    intro pos
    refine ⟨fun ps h hps => ?_, fun opened name later h hlater => ?_⟩
    · rw [pieces] at h
      split at h
      · next hopen =>
        obtain ⟨⟨name, later⟩, hnamed, h⟩ := (bind_eq_ok_iff _ _ _).mp h
        cases h
        obtain ⟨hname, hlater⟩ := List.forall_mem_cons.mp hps
        obtain ⟨rest, rfl, hbraceless, hrest⟩ := (ih (pos + 1)).2 pos name later hnamed hlater
        rw [hopen]
        exact .placeholder [] name rest (by simp [Braceless]) hbraceless hname hrest
      · next hopen =>
        split at h
        · cases h
        · next hclose =>
          obtain ⟨later, hlater, h⟩ := (bind_eq_ok_iff _ _ _).mp h
          cases h
          exact ((ih _).1 later hlater (List.forall_mem_cons.mp hps).2).cons c cs hopen hclose
    · rw [namedPieces] at h
      split at h
      · cases h
      · next hopen =>
        split at h
        · next hclose =>
          split at h
          · cases h
          · obtain ⟨later', hread, h⟩ := (bind_eq_ok_iff _ _ _).mp h
            cases h
            refine ⟨cs, by rw [hclose]; rfl, by simp [Braceless], ?_⟩
            exact (ih _).1 later hread hlater
        · next hclose =>
          obtain ⟨⟨name', later'⟩, hread, h⟩ := (bind_eq_ok_iff _ _ _).mp h
          cases h
          obtain ⟨rest, rfl, hname, hrest⟩ := (ih _).2 opened name' later hread hlater
          exact ⟨rest, rfl, hname.cons c name' hopen hclose, hrest⟩

/-! ## From the syntax to the reader -/

/-- How many bytes of UTF-8 the text takes. -/
def offset (cs : List Char) : Nat := (String.ofList cs).utf8ByteSize

@[simp]
theorem offset_nil : offset [] = 0 := rfl

theorem offset_append (cs ds : List Char) : offset (cs ++ ds) = offset cs + offset ds := by
  rw [offset, String.ofList_append, String.utf8ByteSize_append]
  rfl

theorem offset_cons (c : Char) (cs : List Char) : offset (c :: cs) = c.utf8Size + offset cs := by
  have hone : offset [c] = c.utf8Size := by
    rw [offset, ← String.singleton_eq_ofList, String.utf8ByteSize_singleton]
  rw [← hone, ← offset_append]
  rfl

/-- Text in front is read character by character. -/
theorem pieces_append (cs : List Char) (h : Braceless cs) (rest : List Char) : ∀ pos,
    pieces pos (cs ++ rest) = (cs.map Piece.text ++ ·) <$> pieces (pos + offset cs) rest := by
  induction cs with
  | nil => intro pos; exact (id_map _).symm
  | cons c cs ih =>
    intro pos
    obtain ⟨⟨hopen, hclose⟩, hcs⟩ := List.forall_mem_cons.mp h
    rw [List.cons_append, pieces, if_neg hopen, if_neg hclose, ih hcs, offset_cons, Nat.add_assoc]
    cases pieces (pos + (c.utf8Size + offset cs)) rest <;> rfl

/-- A name is read up to the next brace. -/
theorem namedPieces_append (name : List Char) (h : Braceless name) (rest : List Char)
    (opened : Nat) : ∀ pos, namedPieces opened pos (name ++ rest) =
      (fun (r : List Char × List Piece) => (name ++ r.1, r.2)) <$>
        namedPieces opened (pos + offset name) rest := by
  induction name with
  | nil => intro pos; exact (id_map _).symm
  | cons c name ih =>
    intro pos
    obtain ⟨⟨hopen, hclose⟩, hname⟩ := List.forall_mem_cons.mp h
    rw [List.cons_append, namedPieces, if_neg hopen, if_neg hclose, ih hname, offset_cons,
      Nat.add_assoc]
    cases namedPieces opened (pos + (c.utf8Size + offset name)) rest <;> rfl

theorem offset_pos (cs : List Char) (h : cs ≠ []) : 0 < offset cs := by
  obtain ⟨c, cs, rfl⟩ := List.exists_cons_of_ne_nil h
  rw [offset_cons]
  exact Nat.add_pos_left c.utf8Size_pos _

/-- A placeholder is read with the offset of its brace. -/
theorem pieces_placeholder (name rest : List Char) (h : Braceless name) (hne : name ≠ [])
    (pos : Nat) : pieces pos (openBrace :: (name ++ closeBrace :: rest)) =
      (Piece.placeholder pos name :: ·) <$>
        pieces (pos + offset (openBrace :: (name ++ [closeBrace]))) rest := by
  have hbehind : pos + 1 + offset name ≠ pos + 1 := by
    have := offset_pos name hne
    omega
  have hoffset : pos + 1 + offset name + 1 =
      pos + offset (openBrace :: (name ++ [closeBrace])) := by
    rw [offset_cons, offset_append, offset_cons, offset_nil]
    have hopen : openBrace.utf8Size = 1 := rfl
    have hclose : closeBrace.utf8Size = 1 := rfl
    omega
  rw [pieces, if_pos rfl, namedPieces_append name h, namedPieces, if_neg (by decide), if_pos rfl,
    if_neg hbehind, hoffset]
  cases pieces (pos + offset (openBrace :: (name ++ [closeBrace]))) rest with
  | error fault => rfl
  | ok later =>
    show Except.ok (Piece.placeholder pos (name ++ []) :: later) = _
    rw [List.append_nil]
    rfl

theorem ne_nil_of_named (name : List Char) (h : Named name) : name ≠ [] := by
  rintro rfl
  obtain ⟨c, hc, -⟩ := h
  cases hc

/-- A route is read, and what is read can be written. -/
theorem pieces_of_wellFormed (path : List Char) (h : WellFormed path) : ∀ pos,
    ∃ ps, pieces pos path = .ok ps ∧ ∀ p ∈ ps, p.Writable := by
  induction h with
  | text cs h =>
    intro pos
    refine ⟨cs.map .text, pieces_of_braceless cs h pos, fun p hp => ?_⟩
    obtain ⟨c, -, rfl⟩ := List.mem_map.mp hp
    trivial
  | placeholder cs name rest h hname hnamed _ ih =>
    intro pos
    obtain ⟨later, hlater, hwritable⟩ :=
      ih (pos + offset cs + offset (openBrace :: (name ++ [closeBrace])))
    refine ⟨cs.map .text ++ .placeholder (pos + offset cs) name :: later, ?_, fun p hp => ?_⟩
    · rw [pieces_append cs h, pieces_placeholder name rest hname (ne_nil_of_named name hnamed),
        hlater]
      rfl
    · rcases List.mem_append.mp hp with hp | hp
      · obtain ⟨c, -, rfl⟩ := List.mem_map.mp hp
        trivial
      · rcases List.mem_cons.mp hp with rfl | hp
        · exact hnamed
        · exact hwritable p hp

/-! ## Conversion -/

/-- **Exactly the routes are converted.** -/
theorem convert_ok_iff (path : List Char) : (∃ out, convert path = .ok out) ↔ WellFormed path := by
  have hparts : (∃ out, convert path = .ok out) ↔
      ∃ ps, pieces 0 path = .ok ps ∧ ∀ p ∈ ps, p.Writable := by
    simp only [← render_eq_ok_iff, ← exists_mapM_ok_iff, convert, bind_eq_ok_iff]
    constructor
    · rintro ⟨_, ps, hps, texts, htexts, -⟩
      exact ⟨ps, hps, texts, htexts⟩
    · rintro ⟨ps, hps, texts, htexts⟩
      exact ⟨_, ps, hps, texts, htexts, rfl⟩
  rw [hparts]
  constructor
  · rintro ⟨ps, hps, hwritable⟩
    exact (wellFormed_of_pieces path 0).1 ps hps hwritable
  · intro h
    exact pieces_of_wellFormed path h 0

end Route

end PlayScaffold
