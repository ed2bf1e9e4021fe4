import PlayScaffold.Proofs.CaseMapping

/-!
# Camel case character by character

Words begin behind separators and at case steps, and camel case joins them.  The case steps leave
no trace in it: a word that begins at one begins with a capital, which is its own capital.  What
becomes of a character is therefore told by what stands before it alone:

    camel cs = onePass [] cs                                           (camel_eq_onePass)

Case mappings may put a mark behind a letter that is neither letter nor digit (`İ` is `i` with a
dot above in small letters).  Applied once more, camel case takes the mark for a separator.  It
keeps its own result exactly where there is no such mark:

    camel (camel cs) = camel cs ↔ Alphanumeric (camel cs)              (camel_camel_iff)
-/

namespace PlayScaffold.Identifier

open Text

/-! ## One pass -/

/-- What becomes of `c` behind the characters `before`, the last one first: separators go, the first
letter or digit of all is made small, one right behind a separator is made a capital, and all others
stay. -/
def recased (before : List Char) (c : Char) : List Char :=
  if !isAlphanumeric c then []
  else if before.all (!isAlphanumeric ·) then lower c
  else if before.head?.any isAlphanumeric then [c]
  else upper c

/-- The text behind the characters `before`, character by character. -/
def onePass (before : List Char) : List Char → List Char
  | [] => []
  | c :: rest => recased before c ++ onePass (c :: before) rest

section Recased

variable (before : List Char) (b c : Char)

theorem recased_separator (hc : isAlphanumeric c = false) : recased before c = [] := by
  simp [recased, hc]

theorem recased_first (hbefore : ∀ d ∈ before, isAlphanumeric d = false)
    (hc : isAlphanumeric c = true) : recased before c = lower c := by
  have hall : before.all (!isAlphanumeric ·) = true :=
    List.all_eq_true.mpr fun d hd => by simp [hbefore d hd]
  simp [recased, hc, hall]

theorem recased_inside (hb : isAlphanumeric b = true) (hc : isAlphanumeric c = true) :
    recased (b :: before) c = [c] := by
  simp [recased, hb, hc]

theorem recased_behind (hbegun : ∃ d ∈ before, isAlphanumeric d = true)
    (hb : isAlphanumeric b = false) (hc : isAlphanumeric c = true) :
    recased (b :: before) c = upper c := by
  have hall : before.all (!isAlphanumeric ·) = false := by simpa using hbegun
  simp [recased, hb, hc, hall]

end Recased

/-! ## Words in one pass -/

/-- Before any word, the first letter or digit begins one. -/
theorem wordsAfter_none_fst (cs : List Char) : (wordsAfter none cs).1 = [] := by
  cases cs with
  | nil => rfl
  | cons c rest =>
    rw [wordsAfter]
    split
    · simp [startsWord]
    · rfl

/-- A case step is in front of a capital. -/
theorem upper_of_startsWord (b c : Char) (next : Option Char)
    (h : startsWord (some b) c next = true) : upper c = [c] := by
  rw [startsWord, Bool.and_eq_true] at h
  exact upper_of_isUppercase c h.1

/-- Once a word has begun, the pass goes on with its rest and the later words. -/
theorem onePass_of_begun (cs : List Char) : ∀ before, (∃ d ∈ before, isAlphanumeric d = true) →
    onePass before cs = (wordsAfter (before.head?.filter isAlphanumeric) cs).1 ++
      (wordsAfter (before.head?.filter isAlphanumeric) cs).2.flatMap (mapFirst upper) := by
  induction cs with
  | nil => intro before _; rfl
  | cons c rest ih =>
    intro before hbegun
    have hrest := ih (c :: before) (hbegun.imp fun d hd => ⟨List.mem_cons_of_mem c hd.1, hd.2⟩)
    rw [List.head?_cons] at hrest
    rw [onePass, hrest, wordsAfter]
    by_cases hc : isAlphanumeric c = true
    · rw [if_pos hc, Option.filter_some, if_pos hc]
      cases before with
      | nil => obtain ⟨d, hd, -⟩ := hbegun; cases hd
      | cons b before =>
        rw [List.head?_cons, Option.filter_some]
        by_cases hb : isAlphanumeric b = true
        · rw [recased_inside before b c hb hc, if_pos hb]
          -- where a word begins at a case step, its capital is what stands there
          by_cases hs : startsWord (some b) c rest.head? = true
          · simp [hs, mapFirst, upper_of_startsWord b c _ hs]
          · simp [hs]
        · have hbegun' : ∃ d ∈ before, isAlphanumeric d = true := by simpa [hb] using hbegun
          rw [recased_behind before b c hbegun' (Bool.eq_false_iff.mpr hb) hc, if_neg hb]
          simp [startsWord, mapFirst]
    · rw [if_neg hc, Option.filter_some, if_neg hc,
        recased_separator before c (Bool.eq_false_iff.mpr hc), wordsAfter_none_fst]
      rfl

/-- Before the first word, nothing but separators has gone by. -/
theorem onePass_of_not_begun (cs : List Char) : ∀ before,
    (∀ d ∈ before, isAlphanumeric d = false) → onePass before cs = camel cs := by
  induction cs with
  | nil => intro before _; rfl
  | cons c rest ih =>
    intro before hbefore
    rw [onePass, camel, words, wordsAfter]
    by_cases hc : isAlphanumeric c = true
    · have hrest := onePass_of_begun rest (c :: before) ⟨c, List.mem_cons_self, hc⟩
      rw [hrest, recased_first before c hbefore hc, List.head?_cons, Option.filter_some]
      simp [hc, startsWord, mapFirst]
    · have hc' : isAlphanumeric c = false := Bool.eq_false_iff.mpr hc
      have hrest := ih (c :: before) (List.forall_mem_cons.mpr ⟨hc', hbefore⟩)
      rw [recased_separator before c hc', hrest, if_neg hc]
      rfl

theorem camel_eq_onePass (cs : List Char) : camel cs = onePass [] cs :=
  (onePass_of_not_begun cs [] (by simp)).symm

/-- **Case steps leave no trace**: camel case is what one pass makes of the text, which looks at
separators only. -/
theorem camelCase_eq_onePass (s : String) :
    camelCase s = String.ofList (onePass [] s.toList) := by
  rw [camelCase, camel_eq_onePass]

/-- A capital after a small letter, the last capital before a small letter, one after a digit. -/
example : onePass [] "petID_v2Pets-HTTPResponse".toList = "petIDV2PetsHTTPResponse".toList := by
  rfl

/-! ## A second pass -/

def Alphanumeric (cs : List Char) : Prop := ∀ c ∈ cs, isAlphanumeric c = true

-- The text is gone through, and not all characters.
instance (cs : List Char) : Decidable (Alphanumeric cs) :=
  List.decidableBAll (fun c => isAlphanumeric c = true) cs

theorem alphanumeric_cons (c : Char) (cs : List Char) :
    Alphanumeric (c :: cs) ↔ isAlphanumeric c = true ∧ Alphanumeric cs := List.forall_mem_cons

/-- What a pass makes of a letter or digit begins with a letter or digit. -/
theorem exists_head_recased (before : List Char) (c : Char) (hc : isAlphanumeric c = true) :
    ∃ d later, recased before c = d :: later ∧ isAlphanumeric d = true := by
  unfold recased
  rw [hc, if_neg (by decide)]
  split
  · obtain ⟨d, later, hlower, -, hd⟩ := exists_head_lower c hc
    exact ⟨d, later, hlower, hd⟩
  · split
    · exact ⟨c, [], rfl, hc⟩
    · exact exists_head_upper c hc

theorem isAlphanumeric_of_head_onePass (cs : List Char) : ∀ before d,
    (onePass before cs).head? = some d → isAlphanumeric d = true := by
  induction cs with
  | nil => intro before d h; cases h
  | cons c rest ih =>
    intro before d h
    rw [onePass] at h
    by_cases hc : isAlphanumeric c = true
    · obtain ⟨e, later, hsplit, he⟩ := exists_head_recased before c hc
      rw [hsplit] at h
      cases h
      exact he
    · rw [recased_separator before c (Bool.eq_false_iff.mpr hc)] at h
      exact ih (c :: before) d h

/-- Inside a word, the pass keeps letters and digits and nothing else. -/
theorem onePass_eq_self_iff (cs : List Char) : ∀ before b, isAlphanumeric b = true →
    (onePass (b :: before) cs = cs ↔ Alphanumeric cs) := by
  induction cs with
  | nil => intro before b _; simp [onePass, Alphanumeric]
  | cons c rest ih =>
    intro before b hb
    rw [onePass, alphanumeric_cons]
    by_cases hc : isAlphanumeric c = true
    · rw [recased_inside before b c hb hc, List.singleton_append, List.cons.injEq,
        ih (b :: before) c hc]
      simp [hc]
    · rw [recased_separator _ c (Bool.eq_false_iff.mpr hc), List.nil_append]
      -- in place of the separator there would have to stand what comes of a later letter
      refine iff_of_false (fun h => hc ?_) fun h => hc h.1
      exact isAlphanumeric_of_head_onePass rest (c :: b :: before) c (by rw [h]; rfl)

/-- The first letter or digit of all is made small for good. -/
theorem lower_of_head_onePass (cs : List Char) : ∀ before,
    (∀ b ∈ before, isAlphanumeric b = false) → ∀ d, (onePass before cs).head? = some d →
      lower d = [d] := by
  induction cs with
  | nil => intro before _ d h; cases h
  | cons c rest ih =>
    intro before hbefore d h
    rw [onePass] at h
    by_cases hc : isAlphanumeric c = true
    · obtain ⟨e, later, hsplit, he, -⟩ := exists_head_lower c hc
      rw [recased_first before c hbefore hc, hsplit] at h
      cases h
      exact he
    · have hc' : isAlphanumeric c = false := Bool.eq_false_iff.mpr hc
      rw [recased_separator before c hc'] at h
      exact ih (c :: before) (List.forall_mem_cons.mpr ⟨hc', hbefore⟩) d h

theorem camel_camel_iff (cs : List Char) :
    camel (camel cs) = camel cs ↔ Alphanumeric (camel cs) := by
  have hhead : ∀ d, (camel cs).head? = some d → isAlphanumeric d = true ∧ lower d = [d] := by
    intro d h
    rw [camel_eq_onePass] at h
    exact ⟨isAlphanumeric_of_head_onePass cs [] d h, lower_of_head_onePass cs [] (by simp) d h⟩
  cases h : camel cs with
  | nil => exact iff_of_true rfl (by simp [Alphanumeric])
  | cons d rest =>
    obtain ⟨hd, hlower⟩ := hhead d (by rw [h]; rfl)
    rw [camel_eq_onePass, onePass, recased_first [] d (by simp) hd, hlower,
      List.singleton_append, List.cons.injEq, onePass_eq_self_iff rest [] d hd,
      alphanumeric_cons]
    simp [hd]

/-- **Camel case keeps its own result exactly where it holds letters and digits only.** -/
theorem camelCase_camelCase_iff (s : String) :
    camelCase (camelCase s) = camelCase s ↔ Alphanumeric (camelCase s).toList := by
  rw [← String.toList_inj]
  simp only [camelCase, String.toList_ofList]
  exact camel_camel_iff s.toList

/-- What is written comes from a letter or digit of the text: its small letters, its capitals or
itself. -/
theorem exists_of_mem_onePass (cs : List Char) : ∀ before, ∀ d ∈ onePass before cs,
    ∃ c ∈ cs, isAlphanumeric c = true ∧ d ∈ lower c ++ upper c ++ [c] := by
  induction cs with
  | nil => intro before d hd; cases hd
  | cons c rest ih =>
    intro before d hd
    rw [onePass, List.mem_append] at hd
    rcases hd with hd | hd
    · have hc : isAlphanumeric c = true := by
        by_contra hc
        rw [recased_separator before c (Bool.eq_false_iff.mpr hc)] at hd
        cases hd
      refine ⟨c, List.mem_cons_self, hc, ?_⟩
      unfold recased at hd
      split_ifs at hd <;> simp_all
    · obtain ⟨c', hc', h⟩ := ih (c :: before) d hd
      exact ⟨c', List.mem_cons_of_mem _ hc', h⟩

/-- ASCII leaves no mark. -/
theorem camel_camel_of_ascii (cs : List Char) (h : Ascii cs) :
    camel (camel cs) = camel cs := by
  rw [camel_camel_iff]
  intro d hd
  rw [camel_eq_onePass] at hd
  obtain ⟨c, hc, halpha, hd⟩ := exists_of_mem_onePass cs [] d hd
  have hkept := forall_of_isAscii (fun c => isAlphanumeric c = true →
    Alphanumeric (lower c ++ upper c ++ [c])) (by decide) c (h c hc)
  exact hkept halpha d hd

/-- A dotted capital in front: the dot comes off as a mark, and parts the words from then on. -/
theorem not_forall_camelCase_camelCase : ¬ ∀ s, camelCase (camelCase s) = camelCase s := by
  intro h
  have hname := h "İstanbul"
  revert hname
  decide

end PlayScaffold.Identifier
