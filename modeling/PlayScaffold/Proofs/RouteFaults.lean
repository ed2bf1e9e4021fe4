import PlayScaffold.Proofs.ByteOrder
import PlayScaffold.Proofs.RouteGrammar

/-!
# The first fault of a route

A brace is a dead end if nothing that may follow makes placeholders of all braces up to it.  What is
no route is refused for its first dead end; without one, for the brace that is still open at its
end; and for a placeholder without a name only where all braces form placeholders.

    convert path = .error fault ↔ FirstFault path fault      (convert_eq_error_iff)

The reader stops in one of four ways behind placeholders and text (`Breaks`), and every text without
proper braces has such a place (`braced_or_breaks`).
-/

namespace PlayScaffold.Route

/-! ## Braces that form placeholders -/

/-- Text, and names in braces that are not empty and have no braces inside. -/
inductive Braced : List Char → Prop where
  | nil : Braced []
  | text (c : Char) (cs : List Char) (hopen : c ≠ openBrace) (hclose : c ≠ closeBrace)
      (h : Braced cs) : Braced (c :: cs)
  | placeholder (name cs : List Char) (hname : Braceless name) (hne : name ≠ []) (h : Braced cs) :
      Braced (openBrace :: (name ++ closeBrace :: cs))

/-- Can the text go on so that all its braces form placeholders? -/
def Completable (cs : List Char) : Prop := ∃ more, Braced (cs ++ more)

/-- The brace `b` behind `before` is the first one up to which the text cannot be completed. -/
structure DeadEnd (path before : List Char) (b : Char) (after : List Char) : Prop where
  split : path = before ++ b :: after
  brace : b = openBrace ∨ b = closeBrace
  stuck : ¬ Completable (before ++ [b])
  first : ∀ earlier c later, before = earlier ++ c :: later → c = openBrace ∨ c = closeBrace →
    Completable (earlier ++ [c])

/-- Behind `opened`, a brace opens that is still open at the end of the text. -/
def OpenedAt (cs opened : List Char) : Prop :=
  ∃ name, cs = opened ++ openBrace :: name ∧ Braceless name

/-- What is wrong with a text that is no route. -/
inductive FirstFault (path : List Char) : Fault → Prop where
  | nested (before opened after : List Char) (h : DeadEnd path before openBrace after)
      (hopened : OpenedAt before opened) : FirstFault path (.nested (offset before) (offset opened))
  | unmatched (before after : List Char) (h : DeadEnd path before closeBrace after)
      (hnone : ¬ ∃ opened, OpenedAt before opened) : FirstFault path (.unmatched (offset before))
  | hollow (opened after : List Char) (h : DeadEnd path (opened ++ [openBrace]) closeBrace after) :
      FirstFault path (.hollow (offset opened))
  | unclosed (opened : List Char) (hnone : ∀ before b after, ¬ DeadEnd path before b after)
      (hopened : OpenedAt path opened) : FirstFault path (.unclosed (offset opened))
  | nameless (before name after : List Char) (hbraced : Braced path)
      (hpath : path = before ++ openBrace :: (name ++ closeBrace :: after))
      (hbefore : WellFormed before) (hname : Braceless name) (hnamed : ¬ Named name) :
      FirstFault path (.nameless name (offset before))

/-! ## What the reader accepts -/

theorem Braced.append (cs ds : List Char) (h : Braced cs) (hds : Braced ds) :
    Braced (cs ++ ds) := by
  induction h with
  | nil => exact hds
  | text c cs hopen hclose _ ih => exact .text c _ hopen hclose ih
  | placeholder name cs hname hne _ ih =>
    rw [List.cons_append, List.append_assoc, List.cons_append]
    exact .placeholder name _ hname hne ih

theorem braced_of_braceless (cs : List Char) (h : Braceless cs) : Braced cs := by
  induction cs with
  | nil => exact .nil
  | cons c cs ih =>
    obtain ⟨⟨hopen, hclose⟩, hcs⟩ := List.forall_mem_cons.mp h
    exact .text c cs hopen hclose (ih hcs)

theorem braced_of_wellFormed (cs : List Char) (h : WellFormed cs) : Braced cs := by
  induction h with
  | text cs h => exact braced_of_braceless cs h
  | placeholder cs name rest h hname hnamed _ ih =>
    exact (braced_of_braceless cs h).append _ _
      (.placeholder name rest hname (ne_nil_of_named name hnamed) ih)

/-- What stands behind placeholders and text is read as if it stood alone. -/
theorem pieces_braced_append (cs : List Char) (h : Braced cs) : ∀ pos, ∃ ps,
    pieces pos cs = .ok ps ∧
    ∀ rest, pieces pos (cs ++ rest) = (ps ++ ·) <$> pieces (pos + offset cs) rest := by
  induction h with
  | nil => intro pos; exact ⟨[], rfl, fun rest => (id_map _).symm⟩
  | text c cs hopen hclose _ ih =>
    intro pos
    obtain ⟨ps, hps, hrest⟩ := ih (pos + c.utf8Size)
    refine ⟨.text c :: ps, ?_, fun rest => ?_⟩
    · rw [pieces, if_neg hopen, if_neg hclose, hps]
      rfl
    · rw [List.cons_append, pieces, if_neg hopen, if_neg hclose, hrest, offset_cons, Nat.add_assoc]
      cases pieces (pos + (c.utf8Size + offset cs)) rest <;> rfl
  | placeholder name cs hname hne _ ih =>
    intro pos
    obtain ⟨ps, hps, hrest⟩ := ih (pos + offset (openBrace :: (name ++ [closeBrace])))
    have hsplit : openBrace :: (name ++ closeBrace :: cs) =
        openBrace :: (name ++ [closeBrace]) ++ cs := by simp
    refine ⟨.placeholder pos name :: ps, ?_, fun rest => ?_⟩
    · rw [pieces_placeholder name cs hname hne, hps]
      rfl
    · rw [hsplit, List.append_assoc, offset_append, ← Nat.add_assoc]
      show pieces pos (openBrace :: (name ++ [closeBrace] ++ (cs ++ rest))) = _
      rw [List.append_assoc, List.singleton_append, pieces_placeholder name _ hname hne, hrest]
      cases pieces _ rest <;> rfl

/-! ## Where the reader stops -/

/-- The reader stops at the first brace of the text, or at the one behind it. -/
inductive Breaks (pos : Nat) : List Char → Fault → Prop where
  | nested (name rest : List Char) (h : Braceless name) :
      Breaks pos (openBrace :: (name ++ openBrace :: rest))
        (.nested (pos + offset (openBrace :: name)) pos)
  | unmatched (rest : List Char) : Breaks pos (closeBrace :: rest) (.unmatched pos)
  | hollow (rest : List Char) : Breaks pos (openBrace :: closeBrace :: rest) (.hollow pos)
  | unclosed (name : List Char) (h : Braceless name) :
      Breaks pos (openBrace :: name) (.unclosed pos)

theorem pieces_of_breaks (pos : Nat) (cs : List Char) (fault : Fault) (h : Breaks pos cs fault) :
    pieces pos cs = .error fault := by
  cases h with
  | nested name rest h =>
    have hoffset : pos + 1 + offset name = pos + offset (openBrace :: name) := by
      rw [offset_cons, ← Nat.add_assoc]
      rfl
    rw [pieces, if_pos rfl, namedPieces_append name h, namedPieces, if_pos rfl, hoffset]
    rfl
  | unmatched rest => rw [pieces, if_neg (by decide), if_pos rfl]
  | hollow rest =>
    rw [pieces, if_pos rfl, namedPieces, if_neg (by decide), if_pos rfl, if_pos rfl]
    rfl
  | unclosed name h =>
    have hread := namedPieces_append name h [] pos (pos + 1)
    rw [List.append_nil, namedPieces] at hread
    rw [pieces, if_pos rfl, hread]
    rfl

theorem pieces_braced_append_of_breaks (opened cs : List Char) (fault : Fault) (pos : Nat)
    (hopened : Braced opened) (h : Breaks (pos + offset opened) cs fault) :
    pieces pos (opened ++ cs) = .error fault := by
  obtain ⟨ps, -, hrest⟩ := pieces_braced_append opened hopened pos
  rw [hrest, pieces_of_breaks _ cs fault h]
  rfl

/-- The text up to its first brace. -/
theorem braceless_or_split (cs : List Char) : Braceless cs ∨
    ∃ name b rest, cs = name ++ b :: rest ∧ Braceless name ∧ (b = openBrace ∨ b = closeBrace) := by
  induction cs with
  | nil => exact Or.inl (by simp [Braceless])
  | cons c cs ih =>
    by_cases hc : c = openBrace ∨ c = closeBrace
    · exact Or.inr ⟨[], c, cs, rfl, by simp [Braceless], hc⟩
    · obtain ⟨hopen, hclose⟩ := not_or.mp hc
      rcases ih with hcs | ⟨name, b, rest, rfl, hname, hb⟩
      · exact Or.inl (hcs.cons c cs hopen hclose)
      · exact Or.inr ⟨c :: name, b, rest, rfl, hname.cons c name hopen hclose, hb⟩

/-- All braces form placeholders, or those do that stand before a place where the reader stops. -/
theorem braced_or_breaks (cs : List Char) : Braced cs ∨
    ∃ opened rest, cs = opened ++ rest ∧ Braced opened ∧ ∀ pos, ∃ fault, Breaks pos rest fault := by
  -- induction on the length, since a whole placeholder may come first, behind which the text
  -- begins anew
  induction hn : cs.length using Nat.strongRecOn generalizing cs with
  | ind n ih =>
    -- what is known behind the part that comes first
    have hbehind : ∀ part later : List Char, cs = part ++ later → part ≠ [] → Braced part →
        Braced cs ∨ ∃ opened rest, cs = opened ++ rest ∧ Braced opened ∧
          ∀ pos, ∃ fault, Breaks pos rest fault := by
      rintro part later rfl hne hpart
      have hlength : later.length < n := by
        have := List.length_pos_of_ne_nil hne
        rw [← hn, List.length_append]
        omega
      rcases ih later.length hlength later rfl with hlater | ⟨opened, rest, rfl, hopened, hbreaks⟩
      · exact Or.inl (hpart.append _ _ hlater)
      · exact Or.inr ⟨part ++ opened, rest, by rw [List.append_assoc], hpart.append _ _ hopened,
          hbreaks⟩
    cases cs with
    | nil => exact Or.inl .nil
    | cons c cs =>
      by_cases hopen : c = openBrace
      · subst hopen
        rcases braceless_or_split cs with hcs | ⟨name, b, rest, rfl, hname, rfl | rfl⟩
        · exact Or.inr ⟨[], _, rfl, .nil, fun pos => ⟨_, .unclosed cs hcs⟩⟩
        · exact Or.inr ⟨[], _, rfl, .nil, fun pos => ⟨_, .nested name rest hname⟩⟩
        · by_cases hne : name = []
          · subst hne
            exact Or.inr ⟨[], _, rfl, .nil, fun pos => ⟨_, .hollow rest⟩⟩
          · exact hbehind (openBrace :: (name ++ [closeBrace])) rest (by simp)
              (List.cons_ne_nil _ _) (.placeholder name [] hname hne .nil)
      · by_cases hclose : c = closeBrace
        · subst hclose
          exact Or.inr ⟨[], _, rfl, .nil, fun pos => ⟨_, .unmatched cs⟩⟩
        · exact hbehind [c] cs rfl (List.cons_ne_nil _ _) (.text c [] hopen hclose .nil)

/-- Where the reader stops is no text whose braces form placeholders. -/
theorem not_braced_of_breaks (opened cs : List Char) (fault : Fault) (pos : Nat)
    (hopened : Braced opened) (h : Breaks (pos + offset opened) cs fault) :
    ¬ Braced (opened ++ cs) := by
  intro hbraced
  obtain ⟨ps, hps, -⟩ := pieces_braced_append _ hbraced pos
  rw [pieces_braced_append_of_breaks opened cs fault pos hopened h] at hps
  cases hps

/-- **The reader fails where it stops** behind placeholders and text, and nowhere else. -/
theorem pieces_eq_error_iff (cs : List Char) (fault : Fault) (pos : Nat) :
    pieces pos cs = .error fault ↔
      ∃ opened rest, cs = opened ++ rest ∧ Braced opened ∧
        Breaks (pos + offset opened) rest fault := by
  constructor
  · intro h
    rcases braced_or_breaks cs with hbraced | ⟨opened, rest, rfl, hopened, hbreaks⟩
    · obtain ⟨ps, hps, -⟩ := pieces_braced_append cs hbraced pos
      rw [hps] at h
      cases h
    · obtain ⟨fault', hfault'⟩ := hbreaks (pos + offset opened)
      rw [pieces_braced_append_of_breaks opened rest fault' pos hopened hfault'] at h
      cases h
      exact ⟨opened, rest, rfl, hopened, hfault'⟩
  · rintro ⟨opened, rest, rfl, hopened, h⟩
    exact pieces_braced_append_of_breaks opened rest fault pos hopened h

/-! ## Dead ends -/

theorem Completable.of_append (cs ds : List Char) (h : Completable (cs ++ ds)) :
    Completable cs := by
  obtain ⟨more, hmore⟩ := h
  exact ⟨ds ++ more, by rwa [← List.append_assoc]⟩

theorem completable_of_braced (cs : List Char) (h : Braced cs) : Completable cs :=
  ⟨[], by rwa [List.append_nil]⟩

/-- Any letter and a closing brace complete what is still open. -/
theorem completable_of_opened (opened name : List Char) (hopened : Braced opened)
    (hname : Braceless name) : Completable (opened ++ openBrace :: name) := by
  have hletter : Braceless (name ++ ['x']) := by
    intro c hc
    rcases List.mem_append.mp hc with hc | hc
    · exact hname c hc
    · rw [List.mem_singleton.mp hc]
      decide
  refine ⟨['x', closeBrace], ?_⟩
  have hcomplete := hopened.append _ _ (.placeholder (name ++ ['x']) [] hletter (by simp) .nil)
  simpa using hcomplete

/-- A brace at which the reader stops, whatever follows it, is a dead end. -/
theorem deadEnd_of_breaks (opened part : List Char) (b : Char) (after : List Char)
    (hb : b = openBrace ∨ b = closeBrace) (hopened : Braced opened)
    (hpart : Completable (opened ++ part))
    (hbreaks : ∀ pos more, ∃ fault, Breaks pos (part ++ b :: more) fault) :
    DeadEnd (opened ++ (part ++ b :: after)) (opened ++ part) b after where
  split := by rw [List.append_assoc]
  brace := hb
  stuck := by
    rintro ⟨more, hmore⟩
    obtain ⟨fault, hfault⟩ := hbreaks (0 + offset opened) more
    refine not_braced_of_breaks opened _ fault 0 hopened hfault ?_
    simpa using hmore
  first := by
    intro earlier c later hsplit _
    rw [hsplit, ← List.singleton_append, ← List.append_assoc] at hpart
    exact hpart.of_append _ _

theorem deadEnd_nested (opened name rest : List Char) (hopened : Braced opened)
    (hname : Braceless name) :
    DeadEnd (opened ++ (openBrace :: name ++ openBrace :: rest)) (opened ++ openBrace :: name)
      openBrace rest :=
  deadEnd_of_breaks opened _ openBrace rest (Or.inl rfl) hopened
    (completable_of_opened opened name hopened hname) fun _ more => ⟨_, .nested name more hname⟩

theorem deadEnd_unmatched (opened rest : List Char) (hopened : Braced opened) :
    DeadEnd (opened ++ closeBrace :: rest) opened closeBrace rest := by
  have h := deadEnd_of_breaks opened [] closeBrace rest (Or.inr rfl) hopened
    (by simpa using completable_of_braced opened hopened) fun _ more => ⟨_, .unmatched more⟩
  simpa using h

theorem deadEnd_hollow (opened rest : List Char) (hopened : Braced opened) :
    DeadEnd (opened ++ openBrace :: closeBrace :: rest) (opened ++ [openBrace]) closeBrace rest :=
  deadEnd_of_breaks opened [openBrace] closeBrace rest (Or.inr rfl) hopened
    (completable_of_opened opened [] hopened (by simp [Braceless])) fun _ more => ⟨_, .hollow more⟩

/-- All braces form placeholders, or all but one that is still open, or there is a dead end. -/
theorem braced_or_opened_or_deadEnd (cs : List Char) :
    Braced cs ∨ (∃ opened, Braced opened ∧ OpenedAt cs opened) ∨
      ∃ before b after, DeadEnd cs before b after := by
  rcases braced_or_breaks cs with hbraced | ⟨opened, rest, rfl, hopened, hbreaks⟩
  · exact Or.inl hbraced
  · obtain ⟨fault, hfault⟩ := hbreaks (offset opened)
    right
    cases hfault with
    | nested name rest hname =>
      exact Or.inr ⟨_, _, _, deadEnd_nested opened name rest hopened hname⟩
    | unmatched rest => exact Or.inr ⟨_, _, _, deadEnd_unmatched opened rest hopened⟩
    | hollow rest => exact Or.inr ⟨_, _, _, deadEnd_hollow opened rest hopened⟩
    | unclosed name hname => exact Or.inl ⟨opened, hopened, name, rfl, hname⟩

theorem Completable.not_deadEnd {cs : List Char} (h : Completable cs) (before : List Char)
    (b : Char) (after : List Char) : ¬ DeadEnd cs before b after := by
  intro hdead
  refine hdead.stuck (Completable.of_append _ after ?_)
  rwa [List.append_assoc, List.singleton_append, ← hdead.split]

theorem completable_of_no_deadEnd (cs : List Char)
    (h : ∀ before b after, ¬ DeadEnd cs before b after) : Completable cs := by
  rcases braced_or_opened_or_deadEnd cs with hbraced | ⟨opened, hopened, name, rfl, hname⟩ | hdead
  · exact completable_of_braced cs hbraced
  · exact completable_of_opened opened name hopened hname
  · obtain ⟨before, b, after, hdead⟩ := hdead
    exact absurd hdead (h before b after)

/-- Up to a dead end the text can be completed. -/
theorem DeadEnd.completable {path before : List Char} {b : Char} {after : List Char}
    (h : DeadEnd path before b after) : Completable before :=
  completable_of_no_deadEnd before fun earlier c later hdead =>
    hdead.stuck (h.first earlier c later hdead.split hdead.brace)

theorem braced_or_openedAt_of_completable (cs : List Char) (h : Completable cs) :
    Braced cs ∨ ∃ opened, OpenedAt cs opened := by
  rcases braced_or_opened_or_deadEnd cs with hbraced | ⟨opened, -, hopened⟩ | ⟨_, _, _, hdead⟩
  · exact Or.inl hbraced
  · exact Or.inr ⟨opened, hopened⟩
  · exact absurd hdead (h.not_deadEnd _ _ _)

/-- Where a brace opens and the text can be completed, all braces before it form placeholders. -/
theorem braced_of_completable (opened name : List Char)
    (h : Completable (opened ++ openBrace :: name)) : Braced opened := by
  rcases braced_or_opened_or_deadEnd opened with
    hbraced | ⟨earlier, hearlier, inner, rfl, hinner⟩ | ⟨before, b, after, hdead⟩
  · exact hbraced
  · refine absurd (deadEnd_nested earlier inner name hearlier hinner) ?_
    rw [← List.append_assoc]
    exact h.not_deadEnd _ _ _
  · exact absurd hdead ((h.of_append _ _).not_deadEnd _ _ _)

theorem not_openedAt_of_braced (cs opened : List Char) (h : Braced cs) : ¬ OpenedAt cs opened := by
  rintro ⟨name, rfl, hname⟩
  have hopened := braced_of_completable opened name (completable_of_braced _ h)
  exact not_braced_of_breaks opened _ _ 0 hopened (.unclosed name hname) h

/-! ## From the reader to the first fault -/

theorem firstFault_of_breaks (opened rest : List Char) (fault : Fault) (hopened : Braced opened)
    (h : Breaks (offset opened) rest fault) : FirstFault (opened ++ rest) fault := by
  cases h with
  | nested name rest hname =>
    rw [← offset_append]
    exact .nested _ opened rest (deadEnd_nested opened name rest hopened hname) ⟨name, rfl, hname⟩
  | unmatched rest =>
    refine .unmatched opened rest (deadEnd_unmatched opened rest hopened) ?_
    rintro ⟨earlier, hearlier⟩
    exact not_openedAt_of_braced opened earlier hopened hearlier
  | hollow rest => exact .hollow opened rest (deadEnd_hollow opened rest hopened)
  | unclosed name hname =>
    exact .unclosed opened (completable_of_opened opened name hopened hname).not_deadEnd
      ⟨name, rfl, hname⟩

/-- A placeholder that is read stands in the text, at its offset, behind what was read before. -/
theorem exists_placeholder_of_pieces (cs : List Char) (h : Braced cs) :
    ∀ pos before start name after,
      pieces pos cs = .ok (before ++ .placeholder start name :: after) →
    ∃ front behind, cs = front ++ openBrace :: (name ++ closeBrace :: behind) ∧
      pieces pos front = .ok before ∧ start = pos + offset front ∧ Braceless name := by
  induction h with
  | nil =>
    intro pos before start name after h
    rw [pieces] at h
    simp at h
  | text c cs hopen hclose _ ih =>
    intro pos before start name after h
    rw [pieces, if_neg hopen, if_neg hclose] at h
    obtain ⟨later, hlater, h⟩ := (bind_eq_ok_iff _ _ _).mp h
    cases before with
    | nil => cases h
    | cons p before =>
      cases h
      obtain ⟨front, behind, rfl, hfront, rfl, hname⟩ := ih _ before start name after hlater
      refine ⟨c :: front, behind, rfl, ?_, by rw [offset_cons, Nat.add_assoc], hname⟩
      rw [pieces, if_neg hopen, if_neg hclose, hfront]
      rfl
  | placeholder inner cs hinner hne _ ih =>
    intro pos before start name after h
    rw [pieces_placeholder inner cs hinner hne] at h
    obtain ⟨later, hlater, h⟩ := (map_eq_ok_iff _ _ _).mp h
    cases before with
    | nil =>
      cases h
      exact ⟨[], cs, rfl, rfl, rfl, hinner⟩
    | cons p before =>
      cases h
      obtain ⟨front, behind, rfl, hfront, rfl, hname⟩ := ih _ before start name after hlater
      refine ⟨openBrace :: (inner ++ closeBrace :: front), behind, by simp, ?_, ?_, hname⟩
      · rw [pieces_placeholder inner front hinner hne, hfront]
        rfl
      · rw [Nat.add_assoc, ← offset_append]
        simp

/-- Braces come before names: a route fails where it cannot be read, or else at the first piece that
cannot be written. -/
theorem convert_eq_error_iff_pieces (path : List Char) (fault : Fault) :
    convert path = .error fault ↔ pieces 0 path = .error fault ∨
      ∃ before p after, pieces 0 path = .ok (before ++ p :: after) ∧ (∀ q ∈ before, q.Writable) ∧
        p.render = .error fault := by
  unfold convert
  cases hread : pieces 0 path with
  | error fault' => simp [bind, Except.bind]
  | ok ps =>
    have hwrite : (do let texts ← ps.mapM Piece.render; return texts.flatten) = .error fault ↔
        ps.mapM Piece.render = .error fault := by
      cases ps.mapM Piece.render <;> simp [bind, Except.bind, pure, Except.pure]
    show (do let texts ← ps.mapM Piece.render; return texts.flatten) = .error fault ↔ _
    rw [hwrite, mapM_eq_error_iff]
    simp only [render_eq_ok_iff, reduceCtorEq, false_or, Except.ok.injEq]

theorem render_eq_error_iff (p : Piece) (fault : Fault) : p.render = .error fault ↔
    ∃ start name, p = .placeholder start name ∧ ¬ Named name ∧ fault = .nameless name start := by
  cases p with
  | text c => simp [Piece.render]
  | placeholder start name =>
    have hnamed : Named name ↔ Identifier.camel name ≠ [] := (Identifier.camel_ne_nil_iff name).symm
    rw [Piece.render]
    split
    · next hnil => simp [hnamed, hnil, eq_comm]
    · next hne =>
      have hword : Identifier.camel name ≠ [] := hne
      simp [hnamed, hword]

theorem firstFault_of_convert (path : List Char) (fault : Fault)
    (h : convert path = .error fault) : FirstFault path fault := by
  rcases (convert_eq_error_iff_pieces path fault).mp h with
    hread | ⟨before, p, after, hread, hbefore, hp⟩
  · obtain ⟨opened, rest, rfl, hopened, hbreaks⟩ := (pieces_eq_error_iff path fault 0).mp hread
    rw [Nat.zero_add] at hbreaks
    exact firstFault_of_breaks opened rest fault hopened hbreaks
  · obtain ⟨start, name, rfl, hnamed, rfl⟩ := (render_eq_error_iff p fault).mp hp
    have hbraced : Braced path := by
      rcases braced_or_breaks path with hbraced | ⟨opened, rest, rfl, hopened, hbreaks⟩
      · exact hbraced
      · obtain ⟨fault', hfault'⟩ := hbreaks (0 + offset opened)
        rw [pieces_braced_append_of_breaks opened rest fault' 0 hopened hfault'] at hread
        cases hread
    obtain ⟨front, behind, hpath, hfront, rfl, hname⟩ :=
      exists_placeholder_of_pieces path hbraced 0 before start name after hread
    rw [Nat.zero_add]
    exact .nameless front name behind hbraced hpath
      ((wellFormed_of_pieces front 0).1 before hfront hbefore) hname hnamed

/-! ## From the first fault to the reader -/

theorem convert_of_firstFault (path : List Char) (fault : Fault) (h : FirstFault path fault) :
    convert path = .error fault := by
  have hstops : ∀ opened rest, path = opened ++ rest → Braced opened →
      Breaks (offset opened) rest fault → convert path = .error fault := by
    rintro opened rest hsplit hopened hbreaks
    refine (convert_eq_error_iff_pieces path fault).mpr (Or.inl ?_)
    refine (pieces_eq_error_iff path fault 0).mpr ⟨opened, rest, hsplit, hopened, ?_⟩
    rwa [Nat.zero_add]
  cases h with
  | nested before opened after hdead hopened =>
    obtain ⟨name, rfl, hname⟩ := hopened
    refine hstops opened (openBrace :: (name ++ openBrace :: after)) ?_
      (braced_of_completable opened name hdead.completable) ?_
    · rw [hdead.split]
      simp
    · rw [offset_append]
      exact .nested name after hname
  | unmatched before after hdead hnone =>
    rcases braced_or_openedAt_of_completable before hdead.completable with hbefore | hopened
    · exact hstops before _ hdead.split hbefore (.unmatched after)
    · exact absurd hopened hnone
  | hollow opened after hdead =>
    refine hstops opened (openBrace :: closeBrace :: after) ?_
      (braced_of_completable opened [] hdead.completable) (.hollow after)
    rw [hdead.split]
    simp
  | unclosed opened hnone hopened =>
    obtain ⟨name, rfl, hname⟩ := hopened
    exact hstops opened _ rfl
      (braced_of_completable opened name (completable_of_no_deadEnd _ hnone)) (.unclosed name hname)
  | nameless before name after hbraced hpath hbefore hname hnamed =>
    have hne : name ≠ [] := by
      rintro rfl
      rw [hpath] at hbraced
      exact not_braced_of_breaks before _ _ 0 (braced_of_wellFormed before hbefore)
        (.hollow after) hbraced
    obtain ⟨ps, hps, hwritable⟩ := pieces_of_wellFormed before hbefore 0
    obtain ⟨ps', hps', hbehind⟩ :=
      pieces_braced_append before (braced_of_wellFormed before hbefore) 0
    obtain rfl : ps' = ps := Except.ok.inj (hps'.symm.trans hps)
    obtain ⟨all, hall, -⟩ := pieces_braced_append path hbraced 0
    have hread := hall
    rw [hpath, hbehind, Nat.zero_add, pieces_placeholder name after hname hne,
      map_eq_ok_iff] at hread
    obtain ⟨later, hlater, rfl⟩ := hread
    obtain ⟨rest, -, rfl⟩ := (map_eq_ok_iff _ _ _).mp hlater
    refine (convert_eq_error_iff_pieces path _).mpr (Or.inr ⟨ps', _, rest, hall, hwritable, ?_⟩)
    exact (render_eq_error_iff _ _).mpr ⟨_, name, rfl, hnamed, rfl⟩

/-- **A text is refused for its first fault.** -/
theorem convert_eq_error_iff (path : List Char) (fault : Fault) :
    convert path = .error fault ↔ FirstFault path fault :=
  ⟨firstFault_of_convert path fault, convert_of_firstFault path fault⟩

/-! ## Offsets -/

/-- The offsets that a fault tells, each with the brace that stands there. -/
def Fault.places : Fault → List (Nat × Char)
  | .nested pos opened => [(pos, openBrace), (opened, openBrace)]
  | .unmatched pos => [(pos, closeBrace)]
  | .hollow opened => [(opened, openBrace)]
  | .unclosed opened => [(opened, openBrace)]
  | .nameless _ opened => [(opened, openBrace)]

theorem length_utf8 (cs : List Char) : (cs.flatMap String.utf8EncodeChar).length = offset cs := by
  induction cs with
  | nil => rfl
  | cons c cs ih =>
    rw [List.flatMap_cons, List.length_append, ih, offset_cons, String.length_utf8EncodeChar]

/-- Behind a text, the byte of the brace stands at the offset that the text takes. -/
theorem utf8_brace (path : String) (before after : List Char) (b : Char)
    (hb : b = openBrace ∨ b = closeBrace) (h : path.toList = before ++ b :: after) :
    (Text.utf8 path)[offset before]? = some b.toUInt8 := by
  have hbyte : String.utf8EncodeChar b = [b.toUInt8] := by
    rcases hb with rfl | rfl <;> rfl
  rw [Text.utf8_eq, h, List.flatMap_append, List.flatMap_cons, ← length_utf8, hbyte]
  simp

theorem utf8_places (path : String) (fault : Fault) (h : FirstFault path.toList fault) :
    ∀ place ∈ fault.places, (Text.utf8 path)[place.1]? = some place.2.toUInt8 := by
  have hopens : ∀ opened rest, path.toList = opened ++ openBrace :: rest →
      (Text.utf8 path)[offset opened]? = some openBrace.toUInt8 := fun opened rest hsplit =>
    utf8_brace path opened rest openBrace (Or.inl rfl) hsplit
  have hcloses : ∀ before rest, path.toList = before ++ closeBrace :: rest →
      (Text.utf8 path)[offset before]? = some closeBrace.toUInt8 := fun before rest hsplit =>
    utf8_brace path before rest closeBrace (Or.inr rfl) hsplit
  cases h with
  | nested before opened after hdead hopened =>
    obtain ⟨name, rfl, -⟩ := hopened
    have hsplit : path.toList = opened ++ openBrace :: (name ++ openBrace :: after) := by
      rw [hdead.split]
      simp
    exact List.forall_mem_cons.mpr ⟨hopens _ _ hdead.split,
      List.forall_mem_singleton.mpr (hopens _ _ hsplit)⟩
  | unmatched before after hdead _ =>
    exact List.forall_mem_singleton.mpr (hcloses _ _ hdead.split)
  | hollow opened after hdead =>
    have hsplit : path.toList = opened ++ openBrace :: closeBrace :: after := by
      rw [hdead.split]
      simp
    exact List.forall_mem_singleton.mpr (hopens _ _ hsplit)
  | unclosed opened _ hopened =>
    obtain ⟨name, hsplit, -⟩ := hopened
    exact List.forall_mem_singleton.mpr (hopens _ _ hsplit)
  | nameless before name after _ hpath _ _ _ =>
    exact List.forall_mem_singleton.mpr (hopens _ _ hpath)

/-! ## The routes of operations -/

/-- **A path is refused for its first fault**, with the operation and the path as they were given.
There is no other first fault, and each offset in the reason is that of a byte of the path that is
the brace it tells of. -/
theorem normalize_error_iff_firstFault (operationId path : String) (e : Error) :
    normalize operationId path = .error e ↔
      ∃ fault, FirstFault path.toList fault ∧
        (∀ other, FirstFault path.toList other → other = fault) ∧
        (∀ place ∈ fault.places, (Text.utf8 path)[place.1]? = some place.2.toUInt8) ∧
        e = .malformedPath operationId path fault.reason := by
  rw [normalize_eq_error_iff_convert]
  constructor
  · rintro ⟨fault, hfault, rfl⟩
    have hfirst := firstFault_of_convert _ _ hfault
    refine ⟨fault, hfirst, fun other hother => ?_, utf8_places path fault hfirst, rfl⟩
    exact Except.error.inj ((convert_of_firstFault _ _ hother).symm.trans hfault)
  · rintro ⟨fault, hfirst, -, -, rfl⟩
    exact ⟨fault, convert_of_firstFault _ _ hfirst, rfl⟩

/-- A brace inside the second placeholder, with a letter of two bytes before it and faults of other
kinds behind it. -/
def nestedRoute : String := "/é/\x7ba\x7d/\x7bb\x7b\x7d\x7d\x7d"

/-- The brace inside is reported, at its byte, and nothing behind it. -/
theorem normalize_error_nested :
    normalize "getPart" nestedRoute = .error (.malformedPath "getPart" nestedRoute
      "nested '\x7b' at byte 10 inside placeholder opened at byte 8") ∧
    FirstFault nestedRoute.toList (.nested 10 8) ∧
    (Text.utf8 nestedRoute)[10]? = some openBrace.toUInt8 ∧
    (Text.utf8 nestedRoute)[8]? = some openBrace.toUInt8 := by
  have hrefused : normalize "getPart" nestedRoute = .error (.malformedPath "getPart" nestedRoute
      (Fault.nested 10 8).reason) := by rfl
  have hnested : FirstFault nestedRoute.toList (.nested 10 8) := firstFault_of_convert _ _ (by rfl)
  obtain ⟨fault, -, hunique, hplaces, -⟩ :=
    (normalize_error_iff_firstFault "getPart" nestedRoute _).mp hrefused
  obtain rfl : .nested 10 8 = fault := hunique _ hnested
  exact ⟨hrefused, hnested, hplaces (10, openBrace) (by simp [Fault.places]),
    hplaces (8, openBrace) (by simp [Fault.places])⟩

end PlayScaffold.Route
