import PlayScaffold.Identifier

/-!
# Casing keeps to letters and digits

The words of an identifier hold alphanumeric characters only.  A case mapping may leave that class
(`ǰ` is `J` and a combining caron in capitals), but beyond ASCII only: no mapping of a letter or
digit gives an ASCII character that is neither, so a cased identifier holds no brace, colon, slash
or dot.

    d ∈ camel cs → Unpunctuated d         (unpunctuated_of_mem_camel)
    d ∈ proper cs → Unpunctuated d        (unpunctuated_of_mem_proper)
-/

namespace PlayScaffold.Text

/-! ## Characters without punctuation -/

/-- Beyond ASCII, or an ASCII letter or digit. -/
def Unpunctuated (c : Char) : Prop := isAscii c = true → c.isAlphanum = true

instance (c : Char) : Decidable (Unpunctuated c) := by unfold Unpunctuated; infer_instance

theorem unpunctuated_of_isAlphanumeric (c : Char) (h : isAlphanumeric c = true) :
    Unpunctuated c := by
  intro ha
  rw [isAlphanumeric, if_pos ha] at h
  exact h

theorem Unpunctuated.ne (c p : Char) (h : Unpunctuated c) (ha : isAscii p = true)
    (hp : p.isAlphanum = false) : c ≠ p := by
  rintro rfl
  have := h ha
  rw [hp] at this
  cases this

/-! ## Case mappings -/

def CaseRun.Unpunctuated (r : CaseRun) : Prop :=
  ∀ n ∈ List.range (r.last + 1 - r.first), Text.Unpunctuated (Char.ofNat (r.target + n))

instance (r : CaseRun) : Decidable r.Unpunctuated := by
  unfold CaseRun.Unpunctuated; infer_instance

theorem runs_unpunctuated : ∀ runs ∈ [lowerRuns, upperRuns], ∀ r ∈ runs, r.Unpunctuated := by
  decide +kernel

theorem expansions_unpunctuated : ∀ expansions ∈ [lowerExpansions, upperExpansions],
    ∀ e ∈ expansions, ∀ n ∈ e.2, Unpunctuated (Char.ofNat n) := by decide +kernel

theorem mapRuns_eq_some (runs : List CaseRun) (n k : Nat) (h : mapRuns runs n = some k) :
    ∃ r ∈ runs, r.contains n = true ∧ k = r.target + (n - r.first) := by
  induction runs with
  | nil => cases h
  | cons r rest ih =>
    rw [mapRuns] at h
    split at h
    · next hr => exact ⟨r, List.mem_cons_self, hr, (Option.some.inj h).symm⟩
    · obtain ⟨r', hmem, hr'⟩ := ih h
      exact ⟨r', List.mem_cons_of_mem _ hmem, hr'⟩

/-- A mapping whose tables hold no punctuation adds none. -/
theorem unpunctuated_of_mem_mapCase (expansions : List (Nat × List Nat)) (runs : List CaseRun)
    (he : ∀ e ∈ expansions, ∀ n ∈ e.2, Unpunctuated (Char.ofNat n))
    (hr : ∀ r ∈ runs, r.Unpunctuated) (c d : Char) (hc : Unpunctuated c)
    (hd : d ∈ mapCase expansions runs c) : Unpunctuated d := by
  unfold mapCase at hd
  split at hd
  · next several hl =>
    obtain ⟨n, hn, rfl⟩ := List.mem_map.mp hd
    obtain ⟨before, after, hsplit, -⟩ := List.lookup_eq_some_iff.mp hl
    exact he (c.toNat, several) (by rw [hsplit]; simp) n hn
  · split at hd
    · next k hk =>
      obtain ⟨r, hmem, hin, rfl⟩ := mapRuns_eq_some _ _ _ hk
      rw [List.mem_singleton.mp hd]
      unfold Span.contains at hin
      simp only [Bool.and_eq_true, decide_eq_true_eq] at hin
      exact hr r hmem _ (List.mem_range.mpr (by omega))
    · rw [List.mem_singleton.mp hd]
      exact hc

/-- So does a mapping that is made of such tables and keeps ASCII letters and digits what they
are. -/
theorem unpunctuated_of_mem_cased (ascii : Char → Char) (expansions : List (Nat × List Nat))
    (runs : List CaseRun) (he : ∀ e ∈ expansions, ∀ n ∈ e.2, Unpunctuated (Char.ofNat n))
    (hr : ∀ r ∈ runs, r.Unpunctuated)
    (hascii : ∀ n, n < 128 → (Char.ofNat n).isAlphanum = true →
      (ascii (Char.ofNat n)).isAlphanum = true)
    (c d : Char) (hc : Unpunctuated c)
    (hd : d ∈ if isAscii c then [ascii c] else mapCase expansions runs c) : Unpunctuated d := by
  split at hd
  · next ha =>
    have hlt : c.toNat < 128 := of_decide_eq_true ha
    have hcased := hascii c.toNat hlt
    rw [Char.ofNat_toNat] at hcased
    rw [List.mem_singleton.mp hd]
    exact fun _ => hcased (hc ha)
  · exact unpunctuated_of_mem_mapCase _ _ he hr c d hc hd

theorem unpunctuated_of_mem_upper (c d : Char) (hc : Unpunctuated c) (hd : d ∈ upper c) :
    Unpunctuated d :=
  unpunctuated_of_mem_cased Char.toUpper _ _ (expansions_unpunctuated upperExpansions (by simp))
    (runs_unpunctuated upperRuns (by simp)) (by decide) c d hc hd

theorem unpunctuated_of_mem_lower (c d : Char) (hc : Unpunctuated c) (hd : d ∈ lower c) :
    Unpunctuated d :=
  unpunctuated_of_mem_cased Char.toLower _ _ (expansions_unpunctuated lowerExpansions (by simp))
    (runs_unpunctuated lowerRuns (by simp)) (by decide) c d hc hd

theorem unpunctuated_of_mem_lowerAfter (cs : List Char) (hcs : ∀ c ∈ cs, Unpunctuated c) :
    ∀ before, ∀ d ∈ lowerAfter before cs, Unpunctuated d := by
  induction cs with
  | nil =>
    intro before d hd
    cases hd
  | cons c rest ih =>
    intro before d hd
    obtain ⟨hc, hrest⟩ := List.forall_mem_cons.mp hcs
    rw [lowerAfter] at hd
    rcases List.mem_append.mp hd with hd | hd
    -- a capital sigma, at the end of a word or inside of it
    · split at hd
      · rw [List.mem_singleton.mp hd]
        split
        · decide
        · decide
      · exact unpunctuated_of_mem_lower c d hc hd
    · exact ih hrest (c :: before) d hd

end PlayScaffold.Text

namespace PlayScaffold.Identifier

open Text

/-! ## Words in camel and proper case -/

theorem isAlphanumeric_of_mem_wordsAfter (cs : List Char) : ∀ before,
    (∀ c ∈ (wordsAfter before cs).1, isAlphanumeric c = true) ∧
    ∀ w ∈ (wordsAfter before cs).2, ∀ c ∈ w, isAlphanumeric c = true := by
  -- the rest of the current word and the words after it at once, since the one is cut off from
  -- the others
  induction cs with
  | nil => intro before; simp [wordsAfter]
  | cons c rest ih =>
    intro before
    rw [wordsAfter]
    by_cases hc : isAlphanumeric c = true
    · rw [if_pos hc]
      obtain ⟨hword, hlater⟩ := ih (some c)
      have hcons : ∀ d ∈ c :: (wordsAfter (some c) rest).1, isAlphanumeric d = true :=
        List.forall_mem_cons.mpr ⟨hc, hword⟩
      by_cases hs : startsWord before c rest.head? = true
      · simp only [if_pos hs]
        exact ⟨by simp, List.forall_mem_cons.mpr ⟨hcons, hlater⟩⟩
      · simp only [if_neg hs]
        exact ⟨hcons, hlater⟩
    · rw [if_neg hc]
      exact ⟨by simp, (ih none).2⟩

theorem isAlphanumeric_of_mem_words (cs w : List Char) (hw : w ∈ words cs) (c : Char)
    (hc : c ∈ w) : isAlphanumeric c = true :=
  (isAlphanumeric_of_mem_wordsAfter cs none).2 w hw c hc

theorem unpunctuated_of_mem_mapFirst (f : Char → List Char)
    (hf : ∀ c d, Unpunctuated c → d ∈ f c → Unpunctuated d) (w : List Char)
    (hw : ∀ c ∈ w, Unpunctuated c) : ∀ d ∈ mapFirst f w, Unpunctuated d := by
  intro d hd
  cases w with
  | nil => cases hd
  | cons c rest =>
    rcases List.mem_append.mp hd with hd | hd
    · exact hf c d (hw c List.mem_cons_self) hd
    · exact hw d (List.mem_cons_of_mem _ hd)

theorem unpunctuated_of_mem_words (cs w : List Char) (hw : w ∈ words cs) (c : Char)
    (hc : c ∈ w) : Unpunctuated c :=
  unpunctuated_of_isAlphanumeric c (isAlphanumeric_of_mem_words cs w hw c hc)

/-- Camel case holds no punctuation. -/
theorem unpunctuated_of_mem_camel (cs : List Char) (d : Char) (hd : d ∈ camel cs) :
    Unpunctuated d := by
  have hwords := unpunctuated_of_mem_words cs
  unfold camel at hd
  split at hd
  · cases hd
  · next first later hsplit =>
    rw [hsplit] at hwords
    rcases List.mem_append.mp hd with hd | hd
    · exact unpunctuated_of_mem_mapFirst lower unpunctuated_of_mem_lower first
        (hwords first List.mem_cons_self) d hd
    · obtain ⟨w, hw, hd⟩ := List.mem_flatMap.mp hd
      exact unpunctuated_of_mem_mapFirst upper unpunctuated_of_mem_upper w
        (hwords w (List.mem_cons_of_mem _ hw)) d hd

/-- Proper case holds no punctuation. -/
theorem unpunctuated_of_mem_proper (cs : List Char) (d : Char) (hd : d ∈ proper cs) :
    Unpunctuated d := by
  unfold proper at hd
  obtain ⟨w, hw, hd⟩ := List.mem_flatMap.mp hd
  have hlower := unpunctuated_of_mem_lowerAfter w (unpunctuated_of_mem_words cs w hw) []
  exact unpunctuated_of_mem_mapFirst upper unpunctuated_of_mem_upper (lowerWord w) hlower d hd

end PlayScaffold.Identifier
