import PlayScaffold.Operation.Basic
import PlayScaffold.Proofs.Words

/-!
# Proper case place by place

What becomes of a character of an ASCII text in proper case is told by its place alone: separators
go, and a letter is a capital where a word begins and small everywhere else.

    proper cs = casedByPlace (beginsAt cs) 0 cs                         (proper_eq_casedByPlace)

Nothing but case is added to the letters and digits, so that two names of one class have the same
ones; and the class of a text has no name only where there are none (`proper_eq_nil_iff`).
-/

namespace PlayScaffold

/-! ## ASCII words -/

namespace Text

/-- Of several case mappings the last one counts. -/
theorem recased_of_isAscii (c : Char) (h : isAscii c = true) :
    isAscii c.toLower = true ∧ c.toLower.toUpper = c.toUpper ∧ c.toUpper.toLower = c.toLower ∧
      c.toLower.toLower = c.toLower :=
  forall_of_isAscii (fun c => isAscii c.toLower = true ∧ c.toLower.toUpper = c.toUpper ∧
    c.toUpper.toLower = c.toLower ∧ c.toLower.toLower = c.toLower) (by decide) c h

/-- There is no sigma in ASCII, so that neighbours do not matter. -/
theorem lowerAfter_of_ascii (cs : List Char) (h : Ascii cs) :
    ∀ before, lowerAfter before cs = cs.map Char.toLower := by
  induction cs with
  | nil => intro before; rfl
  | cons c rest ih =>
    intro before
    obtain ⟨hc, hrest⟩ := (ascii_cons c rest).mp h
    have hsigma : c ≠ 'Σ' := by
      rintro rfl
      exact absurd hc (by decide)
    rw [lowerAfter, if_neg (by simpa using hsigma), lower, if_pos hc, ih hrest]
    rfl

end Text

namespace Identifier

open Text

theorem capitalize_of_ascii (c : Char) (tail : List Char) (h : Ascii (c :: tail)) :
    capitalize (c :: tail) = c.toUpper :: tail.map Char.toLower := by
  obtain ⟨hascii, hupper, -, -⟩ := recased_of_isAscii c ((ascii_cons c tail).mp h).1
  rw [capitalize, lowerWord, lowerAfter_of_ascii _ h, List.map_cons, mapFirst, upper, if_pos hascii,
    hupper]
  rfl

/-! ## Casing by place -/

/-- The letters and digits of a text that is there from place `n` on: capitals at the places that
`begins` tells, and small ones at all others. -/
def casedByPlace (begins : Nat → Bool) (n : Nat) (cs : List Char) : List Char :=
  ((cs.zipIdx n).filter fun p => isAlphanumeric p.1).map fun p =>
    if begins p.2 then p.1.toUpper else p.1.toLower

section CasedByPlace

variable (begins : Nat → Bool) (n : Nat)

theorem casedByPlace_separator (c : Char) (rest : List Char) (hc : isAlphanumeric c = false) :
    casedByPlace begins n (c :: rest) = casedByPlace begins (n + 1) rest := by
  rw [casedByPlace, List.zipIdx_cons, List.filter_cons_of_neg (by simp [hc])]
  rfl

theorem casedByPlace_cons (c : Char) (rest : List Char) (hc : isAlphanumeric c = true) :
    casedByPlace begins n (c :: rest) =
      (if begins n then c.toUpper else c.toLower) :: casedByPlace begins (n + 1) rest := by
  rw [casedByPlace, List.zipIdx_cons, List.filter_cons_of_pos (by simpa using hc),
    List.map_cons]
  rfl

theorem casedByPlace_append (as bs : List Char) :
    casedByPlace begins n (as ++ bs) =
      casedByPlace begins n as ++ casedByPlace begins (n + as.length) bs := by
  simp only [casedByPlace, List.zipIdx_append, List.filter_append, List.map_append]

/-- Where no word begins, all is small. -/
theorem casedByPlace_of_none (w : List Char) (hw : Alphanumeric w)
    (h : ∀ i, n ≤ i → i < n + w.length → begins i = false) :
    casedByPlace begins n w = w.map Char.toLower := by
  induction w generalizing n with
  | nil => rfl
  | cons c w ih =>
    obtain ⟨hc, hw⟩ := (alphanumeric_cons c w).mp hw
    have hrest := ih (n + 1) hw fun i hn hi => h i (by omega) (by simp; omega)
    rw [casedByPlace_cons begins n c w hc, hrest, h n (Nat.le_refl n) (by simp)]
    rfl

/-- Casing changes nothing but case. -/
theorem map_toLower_casedByPlace (cs : List Char) (h : Ascii cs) :
    (casedByPlace begins n cs).map Char.toLower =
      (cs.filter isAlphanumeric).map Char.toLower := by
  induction cs generalizing n with
  | nil => rfl
  | cons c cs ih =>
    obtain ⟨hc, hcs⟩ := (ascii_cons c cs).mp h
    obtain ⟨-, -, hupper, hlower⟩ := recased_of_isAscii c hc
    by_cases halpha : isAlphanumeric c = true
    · rw [casedByPlace_cons begins n c cs halpha, List.filter_cons_of_pos halpha, List.map_cons,
        List.map_cons, ih (n + 1) hcs]
      split
      · rw [hupper]
      · rw [hlower]
    · rw [casedByPlace_separator begins n c cs (Bool.eq_false_iff.mpr halpha),
        List.filter_cons_of_neg halpha, ih (n + 1) hcs]

end CasedByPlace

/-- Words that are laid out in a text are capitalized at the places at which they begin. -/
theorem LaidOut.flatMap_capitalize {n : Nat} {cs : List Char} {ws : List (List Char)}
    {starts : List Nat} (h : LaidOut n cs ws starts) (hascii : Ascii cs) (begins : Nat → Bool)
    (hbegins : ∀ i, n ≤ i → (begins i = true ↔ i ∈ starts)) :
    ws.flatMap capitalize = casedByPlace begins n cs := by
  induction h with
  | nil n => rfl
  | gap n c rest ws starts hc _ ih =>
    rw [casedByPlace_separator begins n c rest hc]
    exact ih ((ascii_cons c rest).mp hascii).2 fun i hi => hbegins i (Nat.le_of_succ_le hi)
  | word n cs w rest ws starts hsplit hne hw hrest ih =>
    subst hsplit
    obtain ⟨hwAscii, hrestAscii⟩ := (ascii_append w rest).mp hascii
    cases w with
    | nil => exact absurd rfl hne
    | cons c tail =>
      obtain ⟨hc, htail⟩ := (alphanumeric_cons c tail).mp hw
      -- the next word begins behind this one, and none inside of it
      have hlater := hrest.le_of_mem
      rw [List.length_cons] at hlater hrest ih
      have hfirst : begins n = true := (hbegins n (Nat.le_refl n)).mpr List.mem_cons_self
      have hinside : ∀ i, n + 1 ≤ i → i < n + 1 + tail.length → begins i = false := by
        intro i hn hi
        rw [Bool.eq_false_iff, ne_eq, hbegins i (by omega), List.mem_cons]
        rintro (rfl | hmem)
        · omega
        · have := hlater i hmem
          omega
      have hbehind : ∀ i, n + (tail.length + 1) ≤ i → (begins i = true ↔ i ∈ starts) := by
        intro i hi
        rw [hbegins i (by omega), List.mem_cons, or_iff_right]
        omega
      rw [List.flatMap_cons, capitalize_of_ascii c tail hwAscii, ih hrestAscii hbehind,
        casedByPlace_append, casedByPlace_cons begins n c tail hc, hfirst,
        casedByPlace_of_none begins (n + 1) tail htail hinside]
      rfl

/-! ## Proper case -/

theorem proper_eq_casedByPlace (cs : List Char) (h : Ascii cs) :
    proper cs = casedByPlace (beginsAt cs) 0 cs :=
  (laidOut_words cs).flatMap_capitalize h (beginsAt cs) fun i _ => (mem_wordStarts cs i).symm

/-- A word with a letter or digit in front has a first capital. -/
theorem capitalize_ne_nil (w : List Char) (hne : w ≠ []) (hw : Alphanumeric w) :
    capitalize w ≠ [] := by
  cases w with
  | nil => exact absurd rfl hne
  | cons c tail =>
    have hhead : ∃ d later, lowerWord (c :: tail) = d :: later ∧ isAlphanumeric d = true := by
      rw [lowerWord, lowerAfter]
      split
      · refine ⟨_, _, rfl, ?_⟩
        split <;> decide
      · obtain ⟨d, later, hlower, -, hd⟩ := exists_head_lower c (hw c List.mem_cons_self)
        rw [hlower]
        exact ⟨d, _, rfl, hd⟩
    obtain ⟨d, later, hlower, hd⟩ := hhead
    obtain ⟨u, later', hupper, -⟩ := exists_head_upper d hd
    rw [capitalize, hlower, mapFirst, hupper]
    exact List.cons_ne_nil _ _

theorem proper_eq_nil_iff (cs : List Char) :
    proper cs = [] ↔ ∀ c ∈ cs, isAlphanumeric c = false := by
  rw [← words_eq_nil_iff, proper, List.flatMap_eq_nil_iff]
  constructor
  · intro h
    refine List.eq_nil_iff_forall_not_mem.mpr fun w hw => ?_
    obtain ⟨hne, halpha, -⟩ := (laidOut_words cs).of_mem w hw
    exact capitalize_ne_nil w hne halpha (h w hw)
  · intro h
    simp [h]

theorem properCase_eq_empty_iff (s : String) :
    properCase s = "" ↔ ∀ c ∈ s.toList, isAlphanumeric c = false := by
  rw [properCase, ← proper_eq_nil_iff, ← String.toList_inj, String.toList_ofList]
  rfl

end Identifier

namespace Operation

open Text Identifier

theorem apiClass_eq_default_iff (op : Operation) : op.apiClass = defaultClass ↔
    properCase op.baseName = "" ∨ properCase op.baseName = defaultClass := by
  unfold apiClass
  by_cases h : properCase op.baseName = ""
  · simp [h]
  · simp [h]

/-- **Class names by place.**  In ASCII the name is what the places of the characters make of the
letters and digits; so names that give one class have the same letters and digits but for case.
The default class is that of names without any, and of its own name. -/
theorem className_by_place :
    (∀ s : String, Ascii s.toList →
      (properCase s).toList = (s.toList.zipIdx.filter fun p => isAlphanumeric p.1).map fun p =>
        if beginsAt s.toList p.2 then p.1.toUpper else p.1.toLower) ∧
    (∀ s t : String, Ascii s.toList → Ascii t.toList → properCase s = properCase t →
      (s.toList.filter isAlphanumeric).map Char.toLower =
        (t.toList.filter isAlphanumeric).map Char.toLower) ∧
    ∀ op : Operation, op.apiClass = defaultClass ↔
      (∀ c ∈ op.baseName.toList, isAlphanumeric c = false) ∨
        properCase op.baseName = defaultClass := by
  refine ⟨fun s hs => ?_, fun s t hs ht h => ?_, fun op => ?_⟩
  · rw [properCase, String.toList_ofList, proper_eq_casedByPlace s.toList hs]
    rfl
  · rw [properCase, properCase, String.ofList_inj, proper_eq_casedByPlace s.toList hs,
      proper_eq_casedByPlace t.toList ht] at h
    rw [← map_toLower_casedByPlace (beginsAt s.toList) 0 s.toList hs, h,
      map_toLower_casedByPlace (beginsAt t.toList) 0 t.toList ht]
  · rw [apiClass_eq_default_iff, properCase_eq_empty_iff]

/-- An acronym between separators, two names of one class, and a name without letters. -/
theorem className_by_place_acronym :
    (Ascii "X-HTTPResponse_v2Pets".toList ∧
      (properCase "X-HTTPResponse_v2Pets").toList = "XHttpResponseV2Pets".toList) ∧
    (properCase "USER_accounts" = properCase "userAccounts" ∧
      ("USER_accounts".toList.filter isAlphanumeric).map Char.toLower =
        ("userAccounts".toList.filter isAlphanumeric).map Char.toLower) ∧
    ((new "ping" "GET" "/").withBaseName "__").apiClass = defaultClass := by
  obtain ⟨hcased, hletters, hdefault⟩ := className_by_place
  have hascii : Ascii "X-HTTPResponse_v2Pets".toList := by decide
  have hsame : properCase "USER_accounts" = properCase "userAccounts" := by decide
  refine ⟨⟨hascii, (hcased _ hascii).trans (by rfl)⟩, ⟨hsame, ?_⟩, (hdefault _).mpr (Or.inl ?_)⟩
  · exact hletters _ _ (by decide) (by decide) hsame
  · intro c hc
    have hdashes : c ∈ ['_', '_'] := hc
    obtain rfl : c = '_' := by simpa using hdashes
    decide

end Operation

end PlayScaffold
