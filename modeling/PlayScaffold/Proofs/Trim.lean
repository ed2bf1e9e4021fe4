import PlayScaffold.Text.Trim
import Mathlib.Data.List.DropRight

/-!
# What trimming cuts off

A trimmed text is the text without the white space in front of it and behind it, and white space put
there is cut off again:

    cs = front ++ trim cs ++ back, with front and back blank      (exists_eq_trim)
    trim (front ++ cs ++ back) = trim cs                          (trim_append)

A trimmed text does not end in white space (`eq_nil_of_trim_eq_append`).
-/

namespace PlayScaffold.Text

def Blank (cs : List Char) : Prop := ∀ c ∈ cs, isWhiteSpace c = true

instance (cs : List Char) : Decidable (Blank cs) :=
  List.decidableBAll (fun c => isWhiteSpace c = true) cs

theorem Blank.reverse (cs : List Char) (h : Blank cs) : Blank cs.reverse := by
  intro c hc
  exact h c (List.mem_reverse.mp hc)

/-! ## At the start -/

theorem trimStart_append (front cs : List Char) (h : Blank front) :
    trimStart (front ++ cs) = trimStart cs := List.dropWhile_append_of_pos h

theorem exists_eq_trimStart (cs : List Char) :
    ∃ front, Blank front ∧ cs = front ++ trimStart cs := by
  refine ⟨cs.takeWhile isWhiteSpace, ?_, List.takeWhile_append_dropWhile.symm⟩
  intro c hc
  exact List.mem_takeWhile_imp hc

theorem trimStart_trimStart (cs : List Char) : trimStart (trimStart cs) = trimStart cs :=
  List.dropWhile_idempotent isWhiteSpace cs

/-- A text keeps its start where its first character is kept. -/
theorem trimStart_of_prefix (cs start : List Char) (h : start <+: trimStart cs) :
    trimStart start = start := by
  obtain ⟨rest, hrest⟩ := h
  cases start with
  | nil => rfl
  | cons c start =>
    have hfirst := List.head?_dropWhile_not isWhiteSpace cs
    have hcs : cs.dropWhile isWhiteSpace = c :: (start ++ rest) := hrest.symm
    rw [hcs] at hfirst
    unfold trimStart
    rw [List.dropWhile_cons_of_neg]
    simpa using hfirst

/-! ## At both ends -/

/-- Trimming cuts off nothing at the start but leading white space. -/
theorem trim_prefix_trimStart (cs : List Char) : trim cs <+: trimStart cs := by
  obtain ⟨white, hwhite⟩ := List.dropWhile_suffix (l := (trimStart cs).reverse) isWhiteSpace
  refine ⟨white.reverse, ?_⟩
  rw [trim, trimStart, ← List.reverse_append, hwhite, List.reverse_reverse]

theorem exists_eq_trim (cs : List Char) :
    ∃ front back, Blank front ∧ Blank back ∧ cs = front ++ trim cs ++ back := by
  obtain ⟨front, hfront, hcs⟩ := exists_eq_trimStart cs
  obtain ⟨back, hback, hreverse⟩ := exists_eq_trimStart (trimStart cs).reverse
  have hstart : trimStart cs = trim cs ++ back.reverse := by
    rw [trim, ← List.reverse_append, ← hreverse, List.reverse_reverse]
  refine ⟨front, back.reverse, hfront, hback.reverse, ?_⟩
  rw [List.append_assoc, ← hstart]
  exact hcs

/-- White space at the ends has no influence. -/
theorem trim_append (front cs back : List Char) (hfront : Blank front) (hback : Blank back) :
    trim (front ++ cs ++ back) = trim cs := by
  have hends : trimStart (front ++ cs ++ back) = trimStart (cs ++ back) := by
    rw [List.append_assoc, trimStart_append front _ hfront]
  unfold trim
  rw [hends]
  unfold trimStart
  rw [List.dropWhile_append]
  split
  · next hblank =>
    have hcs : cs.dropWhile isWhiteSpace = [] := List.isEmpty_iff.mp hblank
    have hnone : back.dropWhile isWhiteSpace = [] := List.dropWhile_eq_nil_iff.mpr hback
    rw [hcs, hnone]
  · rw [List.reverse_append, List.dropWhile_append_of_pos hback.reverse]

theorem trim_trim (cs : List Char) : trim (trim cs) = trim cs := by
  have hstart : trimStart (trim cs) = trim cs :=
    trimStart_of_prefix cs (trim cs) (trim_prefix_trimStart cs)
  have hend : trimStart (trim cs).reverse = (trim cs).reverse := by
    rw [trim, List.reverse_reverse, trimStart_trimStart]
  rw [trim, hstart, hend, List.reverse_reverse]

/-- What neither starts nor ends in white space is trimmed. -/
theorem trim_of_ends (first last : Char) (cs : List Char) (hfirst : isWhiteSpace first = false)
    (hlast : isWhiteSpace last = false) :
    trim (first :: (cs ++ [last])) = first :: (cs ++ [last]) := by
  have hreverse : (first :: (cs ++ [last])).reverse = last :: (cs.reverse ++ [first]) := by simp
  unfold trim trimStart
  rw [List.dropWhile_cons_of_neg (by simp [hfirst]), hreverse,
    List.dropWhile_cons_of_neg (by simp [hlast])]
  simp

theorem trim_eq_nil_iff (cs : List Char) : trim cs = [] ↔ Blank cs := by
  constructor
  · intro h
    obtain ⟨front, back, hfront, hback, hcs⟩ := exists_eq_trim cs
    rw [h, List.append_nil] at hcs
    intro c hc
    rw [hcs] at hc
    rcases List.mem_append.mp hc with hc | hc
    · exact hfront c hc
    · exact hback c hc
  · intro h
    have hcs := trim_append cs [] [] h (by simp [Blank])
    rw [List.append_nil, List.append_nil] at hcs
    rw [hcs]
    rfl

theorem length_trim_le (cs : List Char) : (trim cs).length ≤ cs.length := by
  obtain ⟨front, back, -, -, hcs⟩ := exists_eq_trim cs
  have hlength := congrArg List.length hcs
  simp only [List.length_append] at hlength
  omega

/-- A trimmed text does not end in white space. -/
theorem eq_nil_of_trim_eq_append (cs before after : List Char) (h : trim cs = before ++ after)
    (hblank : Blank after) : after = [] := by
  have hbefore : trim before = before ++ after := by
    have hafter := trim_append [] before after (by simp [Blank]) hblank
    rw [List.nil_append] at hafter
    rw [← hafter, ← h, trim_trim]
  have hlength := length_trim_le before
  rw [hbefore, List.length_append] at hlength
  apply List.length_eq_zero_iff.mp
  omega

end PlayScaffold.Text
