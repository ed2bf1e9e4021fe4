import PlayScaffold.ContainerType
import PlayScaffold.Proofs.Trim

/-!
# Brackets of container types

A text closes `depth` brackets when it closes so many more than it opens and at no place more than
are open there (`Closes`).  Both scanners are told by it: the first one stops behind the text that
closes all but the last bracket, the second one at the first comma outside all of them.

    splitAtClose (depth + 1) cs = some (before, after) ↔
      cs = before ++ '>' :: after ∧ Closes depth before                (splitAtClose_eq_some_iff)
    splitAtComma depth cs = some (before, after) ↔ cs = before ++ ',' :: after ∧
      Closes depth before ∧ NoOuterComma depth before                  (splitAtComma_eq_some_iff)

The second scanner never goes below the outermost level, where it would lose count: the text that it
is given is nested, which is what the first one has made sure of.
-/

namespace PlayScaffold.ContainerType

open Text

/-! ## Depth -/

/-- The number of open brackets behind a character. -/
def depthBehind (depth : Nat) (c : Char) : Nat :=
  if c = '<' then depth + 1 else if c = '>' then depth - 1 else depth

/-- At no place are more brackets closed than are open there, of which `depth` are open before. -/
def Nested (depth : Nat) (cs : List Char) : Prop :=
  ∀ start, start <+: cs → start.count '>' ≤ depth + start.count '<'

/-- The text closes `depth` open brackets and all that it opens itself. -/
structure Closes (depth : Nat) (cs : List Char) : Prop where
  nested : Nested depth cs
  closed : cs.count '>' = depth + cs.count '<'

/-- Each bracket that the text opens is closed in it, and no other one. -/
structure Balanced (cs : List Char) : Prop where
  nested : ∀ start, start <+: cs → start.count '>' ≤ start.count '<'
  closed : cs.count '<' = cs.count '>'

theorem balanced_iff_closes (cs : List Char) : Balanced cs ↔ Closes 0 cs := by
  constructor
  · intro h
    refine ⟨fun start hstart => ?_, ?_⟩
    · have := h.nested start hstart
      omega
    · have := h.closed
      omega
  · intro h
    refine ⟨fun start hstart => ?_, ?_⟩
    · have := h.nested start hstart
      omega
    · have := h.closed
      omega

/-- What a character adds to the brackets opened and closed. -/
theorem count_cons_depth (depth : Nat) (c : Char) (cs : List Char) (h : c = '>' → 0 < depth) :
    (c :: cs).count '>' + depthBehind depth c + cs.count '<' =
      cs.count '>' + depth + (c :: cs).count '<' := by
  unfold depthBehind
  by_cases hopen : c = '<'
  · subst hopen
    rw [if_pos rfl, List.count_cons_self, List.count_cons_of_ne (by decide)]
    omega
  · rw [if_neg hopen, List.count_cons_of_ne hopen]
    by_cases hclose : c = '>'
    · subst hclose
      have hpos := h rfl
      rw [if_pos rfl, List.count_cons_self]
      omega
    · rw [if_neg hclose, List.count_cons_of_ne hclose]

theorem nested_nil (depth : Nat) : Nested depth [] := by
  intro start hstart
  rw [List.prefix_nil.mp hstart]
  simp

theorem nested_cons_iff (depth : Nat) (c : Char) (cs : List Char) :
    Nested depth (c :: cs) ↔ (c = '>' → 0 < depth) ∧ Nested (depthBehind depth c) cs := by
  constructor
  · intro h
    have hpos : c = '>' → 0 < depth := by
      intro hclose
      subst hclose
      have hfirst := h ['>'] (List.prefix_cons_iff.mpr (Or.inr ⟨[], rfl, List.nil_prefix⟩))
      simp at hfirst
      omega
    refine ⟨hpos, fun start hstart => ?_⟩
    have hstep := h (c :: start) (List.prefix_cons_iff.mpr (Or.inr ⟨start, rfl, hstart⟩))
    have hcount := count_cons_depth depth c start hpos
    omega
  · rintro ⟨hpos, h⟩ start hstart
    rcases List.prefix_cons_iff.mp hstart with rfl | ⟨rest, rfl, hrest⟩
    · simp
    · have hstep := h rest hrest
      have hcount := count_cons_depth depth c rest hpos
      omega

theorem closes_nil_iff (depth : Nat) : Closes depth [] ↔ depth = 0 := by
  constructor
  · intro h
    have := h.closed
    simp at this
    omega
  · intro h
    exact ⟨nested_nil depth, by simp [h]⟩

theorem closes_cons_iff (depth : Nat) (c : Char) (cs : List Char) :
    Closes depth (c :: cs) ↔ (c = '>' → 0 < depth) ∧ Closes (depthBehind depth c) cs := by
  constructor
  · intro h
    obtain ⟨hpos, hnested⟩ := (nested_cons_iff depth c cs).mp h.nested
    have hcount := count_cons_depth depth c cs hpos
    have hclosed := h.closed
    exact ⟨hpos, hnested, by omega⟩
  · rintro ⟨hpos, h⟩
    have hcount := count_cons_depth depth c cs hpos
    have hclosed := h.closed
    exact ⟨(nested_cons_iff depth c cs).mpr ⟨hpos, h.nested⟩, by omega⟩

/-! ## Texts behind one another -/

theorem closes_append_iff (depth : Nat) (cs ds : List Char) (h : Closes depth cs) :
    Closes depth (cs ++ ds) ↔ Closes 0 ds := by
  induction cs generalizing depth with
  | nil =>
    rw [(closes_nil_iff depth).mp h]
    rfl
  | cons c cs ih =>
    obtain ⟨hpos, hrest⟩ := (closes_cons_iff depth c cs).mp h
    rw [List.cons_append, closes_cons_iff, ih _ hrest]
    exact and_iff_right hpos

def Bracketless (cs : List Char) : Prop := ∀ c ∈ cs, c ≠ '<' ∧ c ≠ '>'

theorem closes_cons_of_ne (depth : Nat) (c : Char) (cs : List Char) (h : c ≠ '<' ∧ c ≠ '>') :
    Closes depth (c :: cs) ↔ Closes depth cs := by
  rw [closes_cons_iff, depthBehind, if_neg h.1, if_neg h.2]
  exact and_iff_right fun hclose => absurd hclose h.2

theorem closes_bracketless_append (depth : Nat) (cs ds : List Char) (h : Bracketless cs) :
    Closes depth (cs ++ ds) ↔ Closes depth ds := by
  induction cs with
  | nil => rfl
  | cons c cs ih =>
    obtain ⟨hc, hcs⟩ := List.forall_mem_cons.mp h
    rw [List.cons_append, closes_cons_of_ne depth c _ hc, ih hcs]

theorem closes_append_bracketless (depth : Nat) (cs ds : List Char) (h : Bracketless ds) :
    Closes depth (cs ++ ds) ↔ Closes depth cs := by
  induction cs generalizing depth with
  | nil =>
    have hnil := closes_bracketless_append depth ds [] h
    rw [List.append_nil] at hnil
    exact hnil
  | cons c cs ih => rw [List.cons_append, closes_cons_iff, closes_cons_iff, ih]

theorem Blank.bracketless (cs : List Char) (h : Blank cs) : Bracketless cs := by
  intro c hc
  have hwhite := h c hc
  constructor
  · rintro rfl
    exact absurd hwhite (by decide)
  · rintro rfl
    exact absurd hwhite (by decide)

/-- White space at the ends changes nothing about the brackets. -/
theorem balanced_around (front cs back : List Char) (hfront : Blank front) (hback : Blank back) :
    Balanced (front ++ cs ++ back) ↔ Balanced cs := by
  rw [balanced_iff_closes, balanced_iff_closes,
    closes_append_bracketless 0 _ back (Blank.bracketless back hback),
    closes_bracketless_append 0 front _ (Blank.bracketless front hfront)]

theorem balanced_trim (cs : List Char) : Balanced (trim cs) ↔ Balanced cs := by
  obtain ⟨front, back, hfront, hback, hcs⟩ := exists_eq_trim cs
  have hends := balanced_around front (trim cs) back hfront hback
  rw [← hcs] at hends
  exact hends.symm

/-! ## The closing bracket -/

theorem splitAtClose_cons (depth : Nat) (c : Char) (cs : List Char) :
    splitAtClose depth (c :: cs) = if c = '>' ∧ depth - 1 = 0 then some ([], cs)
      else (splitAtClose (depthBehind depth c) cs).map fun (before, after) =>
        (c :: before, after) := rfl

/-- One step of a split: the character is the first one of the front. -/
theorem map_cons_eq_some_iff (c : Char) (split : Option (List Char × List Char))
    (before after : List Char) :
    (split.map fun (front, behind) => (c :: front, behind)) = some (before, after) ↔
      ∃ front, before = c :: front ∧ split = some (front, after) := by
  rw [Option.map_eq_some_iff]
  constructor
  · rintro ⟨⟨front, behind⟩, hsplit, hpair⟩
    cases hpair
    exact ⟨front, rfl, hsplit⟩
  · rintro ⟨front, rfl, hsplit⟩
    exact ⟨(front, after), hsplit, rfl⟩

/-- **The scanner stops at the bracket that closes the outermost one.** -/
theorem splitAtClose_eq_some_iff (cs before after : List Char) : ∀ depth,
    splitAtClose (depth + 1) cs = some (before, after) ↔
      cs = before ++ '>' :: after ∧ Closes depth before := by
  induction cs generalizing before with
  | nil =>
    intro depth
    simp [splitAtClose]
  | cons c cs ih =>
    intro depth
    rw [splitAtClose_cons]
    by_cases hstop : c = '>' ∧ depth = 0
    · obtain ⟨rfl, rfl⟩ := hstop
      rw [if_pos ⟨rfl, rfl⟩]
      constructor
      · intro h
        cases h
        exact ⟨rfl, (closes_nil_iff 0).mpr rfl⟩
      · rintro ⟨hcs, hcloses⟩
        cases before with
        | nil =>
          cases hcs
          rfl
        | cons d front =>
          obtain ⟨rfl, -⟩ := List.cons.inj hcs
          exact absurd (((closes_cons_iff 0 '>' front).mp hcloses).1 rfl) (Nat.lt_irrefl 0)
    · have hpos : c = '>' → 0 < depth := by
        intro hclose
        apply Nat.pos_of_ne_zero
        intro hzero
        exact hstop ⟨hclose, hzero⟩
      have hbehind : depthBehind (depth + 1) c = depthBehind depth c + 1 := by
        unfold depthBehind
        split
        · rfl
        · split
          · next hclose =>
            have := hpos hclose
            omega
          · rfl
      have hnot : ¬ (c = '>' ∧ depth + 1 - 1 = 0) := hstop
      rw [if_neg hnot, hbehind, map_cons_eq_some_iff]
      simp only [ih]
      constructor
      · rintro ⟨front, rfl, rfl, hcloses⟩
        exact ⟨rfl, (closes_cons_iff depth c front).mpr ⟨hpos, hcloses⟩⟩
      · rintro ⟨hcs, hcloses⟩
        cases before with
        | nil =>
          obtain ⟨rfl, -⟩ := List.cons.inj hcs
          have hzero := (closes_nil_iff depth).mp hcloses
          exact absurd ⟨rfl, hzero⟩ hstop
        | cons d front =>
          obtain ⟨rfl, hrest⟩ := List.cons.inj hcs
          exact ⟨front, rfl, hrest, ((closes_cons_iff depth c front).mp hcloses).2⟩

/-! ## The first comma outside -/

/-- No comma stands where all brackets are closed. -/
def NoOuterComma (depth : Nat) (cs : List Char) : Prop :=
  ∀ before after, cs = before ++ ',' :: after → ¬ Closes depth before

theorem noOuterComma_cons_iff (depth : Nat) (c : Char) (cs : List Char) (h : c = '>' → 0 < depth) :
    NoOuterComma depth (c :: cs) ↔
      ¬ (c = ',' ∧ depth = 0) ∧ NoOuterComma (depthBehind depth c) cs := by
  constructor
  · intro hnone
    constructor
    · rintro ⟨rfl, rfl⟩
      exact hnone [] cs rfl ((closes_nil_iff 0).mpr rfl)
    · intro before after hcs hcloses
      apply hnone (c :: before) after
      · rw [hcs]
        rfl
      · exact (closes_cons_iff depth c before).mpr ⟨h, hcloses⟩
  · rintro ⟨hfirst, hnone⟩ before after hcs hcloses
    cases before with
    | nil =>
      obtain ⟨rfl, -⟩ := List.cons.inj hcs
      exact hfirst ⟨rfl, (closes_nil_iff depth).mp hcloses⟩
    | cons d front =>
      obtain ⟨rfl, hrest⟩ := List.cons.inj hcs
      exact hnone front after hrest ((closes_cons_iff depth c front).mp hcloses).2

theorem splitAtComma_cons (depth : Nat) (c : Char) (cs : List Char) :
    splitAtComma depth (c :: cs) = if c = ',' ∧ depth = 0 then some ([], cs)
      else (splitAtComma (depthBehind depth c) cs).map fun (before, after) =>
        (c :: before, after) := rfl

/-- **The scanner stops at the first comma outside all brackets.** -/
theorem splitAtComma_eq_some_iff (cs before after : List Char) : ∀ depth, Nested depth cs →
    (splitAtComma depth cs = some (before, after) ↔
      cs = before ++ ',' :: after ∧ Closes depth before ∧ NoOuterComma depth before) := by
  induction cs generalizing before with
  | nil =>
    intro depth _
    simp [splitAtComma]
  | cons c cs ih =>
    intro depth hnested
    obtain ⟨hpos, hrest⟩ := (nested_cons_iff depth c cs).mp hnested
    rw [splitAtComma_cons]
    by_cases hstop : c = ',' ∧ depth = 0
    · obtain ⟨rfl, rfl⟩ := hstop
      rw [if_pos ⟨rfl, rfl⟩]
      constructor
      · intro h
        cases h
        exact ⟨rfl, (closes_nil_iff 0).mpr rfl, by simp [NoOuterComma]⟩
      · rintro ⟨hcs, -, hnone⟩
        cases before with
        | nil =>
          cases hcs
          rfl
        | cons d front =>
          obtain ⟨rfl, -⟩ := List.cons.inj hcs
          exact absurd ((closes_nil_iff 0).mpr rfl) (hnone [] front rfl)
    · rw [if_neg hstop, map_cons_eq_some_iff]
      simp only [ih _ (depthBehind depth c) hrest]
      constructor
      · rintro ⟨front, rfl, rfl, hcloses, hnone⟩
        exact ⟨rfl, (closes_cons_iff depth c front).mpr ⟨hpos, hcloses⟩,
          (noOuterComma_cons_iff depth c front hpos).mpr ⟨hstop, hnone⟩⟩
      · rintro ⟨hcs, hcloses, hnone⟩
        cases before with
        | nil =>
          obtain ⟨rfl, -⟩ := List.cons.inj hcs
          have hzero := (closes_nil_iff depth).mp hcloses
          exact absurd ⟨rfl, hzero⟩ hstop
        | cons d front =>
          obtain ⟨rfl, htail⟩ := List.cons.inj hcs
          exact ⟨front, rfl, htail, ((closes_cons_iff depth c front).mp hcloses).2,
            ((noOuterComma_cons_iff depth c front hpos).mp hnone).2⟩

end PlayScaffold.ContainerType
