import PlayScaffold.Proofs.CamelCase

/-!
# Where words begin

Three neighbouring characters tell whether a word begins at a place of a text (`beginsAt`).  The
words of a text lie in it at the places so told, with nothing but separators between them; so no
letter or digit is lost, and no other list of places would do.

    LaidOut 0 cs (words cs) starts ↔ starts = wordStarts cs             (laidOut_words_iff)
-/

namespace PlayScaffold.Identifier

open Text

/-! ## Places -/

/-- Does a word begin at place `i`?  One does at a letter or digit that comes first or behind a
separator, at a capital behind a small letter or a digit, and at a capital between another capital
and a small letter. -/
def beginsAt (cs : List Char) (i : Nat) : Bool :=
  cs[i]?.any fun c => isAlphanumeric c && (i == 0 || cs[i - 1]?.any fun b =>
    !isAlphanumeric b || (isUppercase c &&
      (isLowercase b || b.isDigit || (isUppercase b && cs[i + 1]?.any isLowercase))))

def wordStarts (cs : List Char) : List Nat := (List.range cs.length).filter (beginsAt cs)

theorem mem_wordStarts (cs : List Char) (i : Nat) : i ∈ wordStarts cs ↔ beginsAt cs i = true := by
  rw [wordStarts, List.mem_filter, List.mem_range, and_iff_right_iff_imp]
  intro h
  by_contra hlen
  rw [beginsAt, List.getElem?_eq_none (Nat.le_of_not_lt hlen)] at h
  cases h

/-- The rule for places says what the rule for neighbours says. -/
theorem beginsAt_append (front rest : List Char) (c : Char) :
    beginsAt (front ++ c :: rest) front.length = (isAlphanumeric c &&
      startsWord (front.getLast?.filter isAlphanumeric) c rest.head?) := by
  have hnext : (front ++ c :: rest)[front.length + 1]? = rest.head? := by
    rw [List.getElem?_append_right (Nat.le_add_right _ 1), Nat.add_sub_cancel_left,
      List.getElem?_cons_succ, List.head?_eq_getElem?]
  rw [beginsAt, hnext, List.getElem?_append_right (Nat.le_refl _), Nat.sub_self,
    List.getElem?_cons_zero, Option.any_some]
  cases front using List.reverseRecOn with
  | nil => simp [startsWord]
  | append_singleton front b =>
    have hprevious : (front ++ [b] ++ c :: rest)[(front ++ [b]).length - 1]? = some b := by
      simp
    rw [hprevious, List.getLast?_concat, Option.any_some, Option.filter_some]
    by_cases hb : isAlphanumeric b = true
    · simp [hb, startsWord]
    · simp [hb, startsWord]

/-! ## Words at their places -/

/-- From place `n` on there is the text, which is made of separators and of the words, and the words
begin at the places `starts`. -/
inductive LaidOut : Nat → List Char → List (List Char) → List Nat → Prop where
  | nil (n : Nat) : LaidOut n [] [] []
  | gap (n : Nat) (c : Char) (rest : List Char) (ws : List (List Char)) (starts : List Nat)
      (hc : isAlphanumeric c = false) (hrest : LaidOut (n + 1) rest ws starts) :
      LaidOut n (c :: rest) ws starts
  | word (n : Nat) (cs w rest : List Char) (ws : List (List Char)) (starts : List Nat)
      (hsplit : cs = w ++ rest) (hne : w ≠ []) (hw : Alphanumeric w)
      (hrest : LaidOut (n + w.length) rest ws starts) : LaidOut n cs (w :: ws) (n :: starts)

/-- A text that begins with a word does not begin with a separator. -/
theorem isAlphanumeric_of_split (c : Char) (rest w rest' : List Char)
    (hsplit : c :: rest = w ++ rest') (hne : w ≠ []) (hw : Alphanumeric w) :
    isAlphanumeric c = true := by
  cases w with
  | nil => exact absurd rfl hne
  | cons d w =>
    obtain ⟨rfl, -⟩ := List.cons.inj hsplit
    exact hw c List.mem_cons_self

namespace LaidOut

variable {n : Nat} {cs : List Char} {ws : List (List Char)} {starts : List Nat}

/-- No letter or digit is lost. -/
theorem flatten_eq_filter (h : LaidOut n cs ws starts) :
    ws.flatten = cs.filter isAlphanumeric := by
  induction h with
  | nil n => rfl
  | gap n c rest ws starts hc _ ih =>
    rw [List.filter_cons_of_neg (by simp [hc])]
    exact ih
  | word n cs w rest ws starts hsplit _ hw _ ih =>
    rw [hsplit, List.filter_append, List.filter_eq_self.mpr hw, List.flatten_cons, ih]

theorem of_mem (h : LaidOut n cs ws starts) :
    ∀ w ∈ ws, w ≠ [] ∧ Alphanumeric w ∧ w <:+: cs := by
  induction h with
  | nil n => simp
  | gap n c rest ws starts _ _ ih =>
    intro w hw
    obtain ⟨hne, halpha, hinfix⟩ := ih w hw
    exact ⟨hne, halpha, List.infix_cons hinfix⟩
  | word n cs w rest ws starts hsplit hne halpha _ ih =>
    rw [hsplit]
    refine List.forall_mem_cons.mpr ⟨⟨hne, halpha, ?_⟩, fun w' hw' => ?_⟩
    · exact (List.prefix_append w rest).isInfix
    · obtain ⟨hne', halpha', hinfix⟩ := ih w' hw'
      exact ⟨hne', halpha', hinfix.trans (List.suffix_append w rest).isInfix⟩

theorem le_of_mem (h : LaidOut n cs ws starts) : ∀ i ∈ starts, n ≤ i := by
  induction h with
  | nil n => simp
  | gap n c rest ws starts _ _ ih =>
    intro i hi
    exact Nat.le_of_succ_le (ih i hi)
  | word n cs w rest ws starts _ _ _ _ ih =>
    refine List.forall_mem_cons.mpr ⟨Nat.le_refl n, fun i hi => ?_⟩
    exact Nat.le_trans (Nat.le_add_right n w.length) (ih i hi)

/-- Words lie in a text in one way only: a letter or digit begins the next word, and a separator
does not. -/
theorem starts_unique (h : LaidOut n cs ws starts) :
    ∀ starts', LaidOut n cs ws starts' → starts' = starts := by
  induction h with
  | nil n =>
    intro starts' h
    cases h
    rfl
  | gap n c rest ws starts hc _ ih =>
    intro starts' h
    cases h with
    | gap _ _ _ _ _ _ hrest => exact ih starts' hrest
    | word _ _ w rest' _ _ hsplit hne hw _ =>
      rw [isAlphanumeric_of_split c rest w rest' hsplit hne hw] at hc
      cases hc
  | word n cs w rest ws starts hsplit hne hw _ ih =>
    intro starts' h
    cases h with
    | gap _ c rest' _ _ hc _ =>
      rw [isAlphanumeric_of_split c rest' w rest hsplit hne hw] at hc
      cases hc
    | word _ _ _ rest' _ later hsplit' _ _ hrest =>
      obtain rfl : rest' = rest := List.append_cancel_left (hsplit'.symm.trans hsplit)
      rw [ih later hrest]

end LaidOut

/-! ## The words of a text -/

/-- Behind `front` there comes what is left of the word that `front` ends with, and then the later
words lie at the places that the rule tells. -/
theorem laidOut_wordsAfter (rest : List Char) : ∀ front word later,
    wordsAfter (front.getLast?.filter isAlphanumeric) rest = (word, later) →
    ∃ tail, rest = word ++ tail ∧ LaidOut (front.length + word.length) tail later
      ((List.range' front.length rest.length).filter (beginsAt (front ++ rest))) := by
  -- induction over the text behind `front`, which grows by the characters that have been read, so
  -- that the places are those of the whole text
  induction rest with
  | nil =>
    intro front word later h
    cases h
    exact ⟨[], rfl, .nil _⟩
  | cons c rest ih =>
    intro front word later h
    have hih := ih (front ++ [c])
    rw [List.getLast?_concat, Option.filter_some, List.length_append, List.length_singleton,
      List.append_assoc, List.singleton_append] at hih
    rw [List.length_cons, List.range'_succ, List.filter_cons, beginsAt_append]
    rw [wordsAfter] at h
    by_cases hc : isAlphanumeric c = true
    · rw [if_pos hc] at h hih
      obtain ⟨tail, htail, hlaid⟩ := hih _ _ rfl
      have halpha := isAlphanumeric_of_mem_wordsAfter rest (some c)
      rw [Nat.add_assoc, Nat.add_comm 1] at hlaid
      by_cases hs : startsWord (front.getLast?.filter isAlphanumeric) c rest.head? = true
      · simp only [if_pos hs] at h
        cases h
        rw [hc, hs]
        refine ⟨c :: rest, rfl, .word _ _ (c :: (wordsAfter (some c) rest).1) tail _ _ ?_
          (List.cons_ne_nil _ _) ?_ hlaid⟩
        · rw [List.cons_append, ← htail]
        · exact (alphanumeric_cons _ _).mpr ⟨hc, halpha.1⟩
      · simp only [if_neg hs] at h
        cases h
        rw [hc, Bool.eq_false_iff.mpr hs]
        exact ⟨tail, by rw [List.cons_append, ← htail], hlaid⟩
    · have hc' : isAlphanumeric c = false := Bool.eq_false_iff.mpr hc
      rw [if_neg hc] at h hih
      cases h
      obtain ⟨tail, htail, hlaid⟩ := hih _ _ rfl
      rw [wordsAfter_none_fst] at htail hlaid
      rw [hc', htail]
      exact ⟨c :: tail, rfl, .gap _ _ _ _ _ hc' (htail ▸ hlaid)⟩

theorem laidOut_words (cs : List Char) : LaidOut 0 cs (words cs) (wordStarts cs) := by
  obtain ⟨tail, htail, hlaid⟩ := laidOut_wordsAfter cs [] _ _ rfl
  rw [List.getLast?_nil, Option.filter_none, wordsAfter_none_fst] at htail hlaid
  obtain rfl : cs = tail := htail
  rw [List.length_nil, ← List.range_eq_range'] at hlaid
  exact hlaid

theorem laidOut_words_iff (cs : List Char) (starts : List Nat) :
    LaidOut 0 cs (words cs) starts ↔ starts = wordStarts cs := by
  constructor
  · intro h
    exact (laidOut_words cs).starts_unique starts h
  · rintro rfl
    exact laidOut_words cs

/-- There is a word where there is a letter or digit. -/
theorem words_eq_nil_iff (cs : List Char) :
    words cs = [] ↔ ∀ c ∈ cs, isAlphanumeric c = false := by
  have hflatten := (laidOut_words cs).flatten_eq_filter
  constructor
  · intro h
    rw [h, List.flatten_nil, eq_comm, List.filter_eq_nil_iff] at hflatten
    exact fun c hc => Bool.eq_false_iff.mpr (hflatten c hc)
  · intro h
    rw [List.filter_eq_nil_iff.mpr (by simpa using h), List.flatten_eq_nil_iff] at hflatten
    refine List.eq_nil_iff_forall_not_mem.mpr fun w hw => ?_
    exact ((laidOut_words cs).of_mem w hw).1 (hflatten w hw)

/-- **Words are lossless and local.**  They make up the letters and digits of the text, each of them
is a part of it, and the places at which they begin are those that three neighbouring characters
tell. -/
theorem words_lossless_local (s : String) :
    (words s.toList).flatten = s.toList.filter isAlphanumeric ∧
    (∀ w ∈ words s.toList, w ≠ [] ∧ Alphanumeric w ∧ w <:+: s.toList) ∧
    (∀ starts, LaidOut 0 s.toList (words s.toList) starts ↔ starts = wordStarts s.toList) ∧
    ∀ i, i ∈ wordStarts s.toList ↔ beginsAt s.toList i = true :=
  ⟨(laidOut_words s.toList).flatten_eq_filter, (laidOut_words s.toList).of_mem,
    laidOut_words_iff s.toList, mem_wordStarts s.toList⟩

/-- An acronym, a separator, a digit, and a capital beyond ASCII. -/
theorem words_lossless_local_acronym :
    "Été".toList ∈ words "HTTPServer_v2Été".toList ∧
    "Été".toList <:+: "HTTPServer_v2Été".toList ∧
    LaidOut 0 "HTTPServer_v2Été".toList (words "HTTPServer_v2Été".toList) [0, 4, 11, 13] := by
  have hmem : "Été".toList ∈ words "HTTPServer_v2Été".toList := by decide
  obtain ⟨-, hwords, hplaces, -⟩ := words_lossless_local "HTTPServer_v2Été"
  obtain ⟨-, -, hinfix⟩ := hwords _ hmem
  exact ⟨hmem, hinfix, (hplaces _).mpr (by rfl)⟩

end PlayScaffold.Identifier
