import PlayScaffold.Proofs.Casing
import Mathlib.Data.List.Chain
import Mathlib.Data.List.TakeWhile

/-!
# What case mappings leave alone

Capitals are their own capitals, and what a mapping makes of a letter or digit begins with one:

    isUppercase c → upper c = [c]                                          (upper_of_isUppercase)
    isAlphanumeric c → lower c = d :: rest, lower d = [d], isAlphanumeric d   (exists_head_lower)
    isAlphanumeric c → upper c = d :: rest, isAlphanumeric d                  (exists_head_upper)

All three compare tables of spans.  The tables ascend, so they are gone through side by side and not
code point by code point.
-/

namespace PlayScaffold.Text

/-! ## Spans against spans -/

namespace Span

def Ascending (spans : List Span) : Prop := spans.Pairwise fun s t => s.first ≤ t.first

/-- Are the code points all even or all odd? -/
def oneParity (s : Span) : Bool := s.first == s.last || s.step == 2

/-- Does `t` end before `s` begins, or is one of them even and the other odd? -/
def apart (s t : Span) : Bool :=
  t.last.blt s.first || (s.oneParity && t.oneParity && s.first % 2 != t.first % 2)

/-- Is the span apart from all of those, which ascend?  The search ends where they begin behind
the span. -/
def clear (s : Span) : List Span → Bool
  | [] => true
  | t :: rest => s.last.blt t.first || (s.apart t && clear s rest)

/-- Are the spans, which ascend, apart from all of those?  Those that end before a span are done
with. -/
def allClear : List Span → List Span → Bool
  | [], _ => true
  | s :: rest, spans =>
    let later := spans.dropWhile fun t => t.last.blt s.first
    s.clear later && allClear rest later

/-- Is every code point of `s` one of `t`? -/
def within (s t : Span) : Bool :=
  t.first.ble s.first && s.last.ble t.last && (s.first - t.first) % t.step == 0 &&
    (s.first == s.last || s.step % t.step == 0)

theorem contains_iff (s : Span) (n : Nat) :
    s.contains n = true ↔ s.first ≤ n ∧ n ≤ s.last ∧ (n - s.first) % s.step = 0 := by
  simp [contains, and_assoc]

theorem not_contains_of_lt (s t : Span) (n : Nat) (hs : s.contains n = true)
    (h : s.last < t.first ∨ t.last < s.first) : t.contains n = false := by
  have hs' := (s.contains_iff n).mp hs
  rw [Bool.eq_false_iff, ne_eq, contains_iff]
  omega

theorem mod_two_of_contains (s : Span) (n : Nat) (hs : s.oneParity = true)
    (h : s.contains n = true) : n % 2 = s.first % 2 := by
  obtain ⟨hfirst, hlast, hstep⟩ := (s.contains_iff n).mp h
  rw [oneParity, Bool.or_eq_true, beq_iff_eq, beq_iff_eq] at hs
  rcases hs with hs | hs
  · have : n = s.first := by omega
    rw [this]
  · rw [hs] at hstep
    omega

theorem not_contains_of_apart (s t : Span) (h : s.apart t = true) (n : Nat)
    (hs : s.contains n = true) : t.contains n = false := by
  simp only [apart, Bool.or_eq_true, Bool.and_eq_true, Nat.blt_eq, bne_iff_ne] at h
  rcases h with h | ⟨⟨hsone, htone⟩, h⟩
  · exact not_contains_of_lt s t n hs (Or.inr h)
  · rw [Bool.eq_false_iff]
    intro ht
    exact h ((mod_two_of_contains s n hsone hs).symm.trans (mod_two_of_contains t n htone ht))

theorem not_contains_of_clear (s : Span) (spans : List Span) (hspans : Ascending spans)
    (h : s.clear spans = true) (n : Nat) (hs : s.contains n = true) :
    ∀ t ∈ spans, t.contains n = false := by
  induction spans with
  | nil => simp
  | cons t rest ih =>
    obtain ⟨hle, hrest⟩ := List.pairwise_cons.mp hspans
    rw [clear, Bool.or_eq_true, Bool.and_eq_true, Nat.blt_eq] at h
    rcases h with h | ⟨h, hclear⟩
    · -- all spans from here on begin behind `s`
      refine List.forall_mem_cons.mpr ⟨not_contains_of_lt s t n hs (Or.inl h), fun u hu => ?_⟩
      exact not_contains_of_lt s u n hs (Or.inl (lt_of_lt_of_le h (hle u hu)))
    · exact List.forall_mem_cons.mpr ⟨not_contains_of_apart s t h n hs, ih hrest hclear⟩

theorem not_contains_of_allClear (spans : List Span) : ∀ others : List Span,
    Ascending spans → Ascending others → allClear spans others = true →
    ∀ s ∈ spans, ∀ n, s.contains n = true → ∀ t ∈ others, t.contains n = false := by
  induction spans with
  | nil => intro others _ _ _ s hs; cases hs
  | cons s rest ih =>
    intro others hspans hothers h u hu n hn t ht
    obtain ⟨hle, hrest⟩ := List.pairwise_cons.mp hspans
    rw [allClear, Bool.and_eq_true] at h
    have hlater : Ascending (others.dropWhile fun t => t.last.blt s.first) :=
      hothers.sublist (List.dropWhile_sublist _)
    rw [← List.takeWhile_append_dropWhile (p := fun t => t.last.blt s.first) (l := others)] at ht
    rcases List.mem_append.mp ht with ht | ht
    · -- a span that `s` leaves behind lies before all spans after `s`, too
      have hbefore : t.last < s.first := by simpa using List.mem_takeWhile_imp ht
      have hfirst : s.first ≤ u.first := by
        rcases List.mem_cons.mp hu with rfl | hu
        · exact le_refl _
        · exact hle u hu
      exact not_contains_of_lt u t n hn (Or.inr (lt_of_lt_of_le hbefore hfirst))
    · rcases List.mem_cons.mp hu with rfl | hu
      · exact not_contains_of_clear u _ hlater h.1 n hn t ht
      · exact ih _ hrest hlater h.2 u hu n hn t ht

theorem contains_of_within (s t : Span) (h : s.within t = true) (n : Nat)
    (hs : s.contains n = true) : t.contains n = true := by
  obtain ⟨hfirst', hlast, hstep⟩ := (s.contains_iff n).mp hs
  simp only [within, Bool.or_eq_true, Bool.and_eq_true, Nat.ble_eq, beq_iff_eq] at h
  obtain ⟨⟨⟨hfirst, hle⟩, hbegin⟩, h⟩ := h
  rw [contains_iff]
  refine ⟨by omega, by omega, ?_⟩
  have hsplit : n - t.first = (n - s.first) + (s.first - t.first) := by omega
  rw [hsplit]
  apply Nat.mod_eq_zero_of_dvd
  refine Nat.dvd_add ?_ (Nat.dvd_of_mod_eq_zero hbegin)
  rcases h with h | h
  · have : n - s.first = 0 := by omega
    rw [this]
    exact Nat.dvd_zero _
  · exact Nat.dvd_trans (Nat.dvd_of_mod_eq_zero h) (Nat.dvd_of_mod_eq_zero hstep)

theorem anyContains_iff (spans : List Span) (h : Ascending spans) (n : Nat) :
    anyContains spans n = true ↔ ∃ s ∈ spans, s.contains n = true := by
  induction spans with
  | nil => simp [anyContains]
  | cons s rest ih =>
    obtain ⟨hle, hrest⟩ := List.pairwise_cons.mp h
    have hbegin : (s.contains n = true ∨ ∃ t ∈ rest, t.contains n = true) → s.first ≤ n := by
      rintro (h | ⟨t, ht, h⟩)
      · exact ((s.contains_iff n).mp h).1
      · exact le_trans (hle t ht) ((t.contains_iff n).mp h).1
    rw [anyContains, Bool.and_eq_true, Bool.or_eq_true, decide_eq_true_eq, ih hrest,
      and_iff_right_of_imp hbegin]
    simp

end Span

/-! ## Where runs map to -/

namespace CaseRun

/-- The code points that the run maps to. -/
def image (r : CaseRun) : Span := ⟨r.target, r.target + (r.last - r.first), r.step⟩

/-- An expansion as far as its first target goes. -/
def ofExpansion (e : Nat × List Nat) : CaseRun := ⟨⟨e.1, e.1, 1⟩, e.2.headD 0⟩

/-- Does `p` hold of every character that the run maps to? -/
def all (r : CaseRun) (p : Char → Bool) : Bool :=
  (List.range ((r.last - r.first) / r.step + 1)).all fun i => p (Char.ofNat (r.target + r.step * i))

/-- Does the run map to characters beyond ASCII, all on one side of the surrogates? -/
def beyondAscii (r : CaseRun) : Bool :=
  Nat.ble 128 r.target &&
    (r.image.last.blt 0xd800 || (Nat.ble 0xe000 r.target && r.image.last.blt 0x110000))

/-- Does the run map to small letters that are mapped no further? -/
def lowersAtOnce (r : CaseRun) : Bool :=
  (r.beyondAscii && r.image.clear (lowerRuns.map CaseRun.toSpan) &&
      lowerExpansions.all fun e => !r.image.contains e.1) ||
    r.all fun d => lower d == [d]

/-- Do the runs map to letters and digits only?  Most of them do so within one span.  The search for
it goes on from `spans`, where the last one was found, and starts anew for a run further down. -/
def allAlphanumeric (spans : List Span) : List CaseRun → Bool
  | [] => true
  | r :: rest =>
    let start := if spans.head?.any (·.first.ble r.target) then spans else alphanumericSpans
    let later := start.dropWhile fun t => t.last.blt r.image.last
    (r.beyondAscii && later.head?.any r.image.within || r.all isAlphanumeric) &&
      allAlphanumeric later rest

theorem contains_image (r : CaseRun) (n : Nat) (h : r.contains n = true) :
    r.image.contains (r.target + (n - r.first)) = true := by
  obtain ⟨hfirst, hlast, hstep⟩ := (r.contains_iff n).mp h
  rw [Span.contains_iff]
  refine ⟨Nat.le_add_right _ _, Nat.add_le_add_left (by omega) _, ?_⟩
  rw [image, Nat.add_sub_cancel_left]
  exact hstep

theorem of_all (r : CaseRun) (p : Char → Bool) (h : r.all p = true) (n : Nat)
    (hn : r.image.contains n = true) : p (Char.ofNat n) = true := by
  obtain ⟨hfirst, hlast, hstep⟩ := (r.image.contains_iff n).mp hn
  simp only [image] at hfirst hlast hstep
  have hindex : r.step * ((n - r.target) / r.step) = n - r.target :=
    Nat.mul_div_cancel' (Nat.dvd_of_mod_eq_zero hstep)
  have hbound : (n - r.target) / r.step ≤ (r.last - r.first) / r.step :=
    Nat.div_le_div_right (by omega)
  have hp := List.all_eq_true.mp h ((n - r.target) / r.step) (List.mem_range.mpr (by omega))
  rw [hindex, Nat.add_sub_cancel' hfirst] at hp
  exact hp

theorem toNat_of_beyondAscii (r : CaseRun) (h : r.beyondAscii = true) (n : Nat)
    (hn : r.image.contains n = true) :
    (Char.ofNat n).toNat = n ∧ isAscii (Char.ofNat n) = false := by
  obtain ⟨hfirst, hlast, -⟩ := (r.image.contains_iff n).mp hn
  simp only [beyondAscii, image, Bool.and_eq_true, Bool.or_eq_true, Nat.ble_eq, Nat.blt_eq] at *
  have hvalid : n.isValidChar := by
    unfold Nat.isValidChar
    omega
  have hnat : (Char.ofNat n).toNat = n := by
    rw [Char.ofNat, dif_pos hvalid]
    rfl
  refine ⟨hnat, ?_⟩
  rw [isAscii, hnat, decide_eq_false_iff_not]
  omega

end CaseRun

/-! ## The tables -/

theorem ascending_tables :
    (∀ spans ∈ [alphanumericSpans, uppercaseSpans], Span.Ascending spans) ∧
    ∀ runs ∈ [lowerRuns, upperRuns, upperExpansions.map CaseRun.ofExpansion],
      Span.Ascending (runs.map CaseRun.toSpan) := by
  simp only [Span.Ascending, ← List.isChain_iff_pairwise]
  decide +kernel

theorem uppercaseSpans_clear :
    ∀ runs ∈ [upperRuns, upperExpansions.map CaseRun.ofExpansion],
      Span.allClear uppercaseSpans (runs.map CaseRun.toSpan) = true := by decide +kernel

theorem lowerRuns_lowersAtOnce :
    ∀ r ∈ lowerExpansions.map CaseRun.ofExpansion ++ lowerRuns, r.lowersAtOnce = true := by
  decide +kernel

theorem mappings_alphanumeric :
    ∀ runs ∈ [lowerExpansions.map CaseRun.ofExpansion ++ lowerRuns,
        upperExpansions.map CaseRun.ofExpansion ++ upperRuns],
      CaseRun.allAlphanumeric [] runs = true := by
  decide +kernel

set_option maxRecDepth 2000 in
theorem upperExpansions_ne_nil : ∀ e ∈ upperExpansions, e.2 ≠ [] := by decide

/-! ## Mappings -/

/-- What holds of the first 128 code points holds of ASCII. -/
theorem forall_of_isAscii (p : Char → Prop) (h : ∀ n, n < 128 → p (Char.ofNat n)) (c : Char)
    (hc : isAscii c = true) : p c := by
  have hp := h c.toNat (of_decide_eq_true hc)
  rwa [Char.ofNat_toNat] at hp

def Ascii (cs : List Char) : Prop := ∀ c ∈ cs, isAscii c = true

instance (cs : List Char) : Decidable (Ascii cs) :=
  List.decidableBAll (fun c => isAscii c = true) cs

theorem ascii_cons (c : Char) (cs : List Char) :
    Ascii (c :: cs) ↔ isAscii c = true ∧ Ascii cs := List.forall_mem_cons

theorem ascii_append (as bs : List Char) : Ascii (as ++ bs) ↔ Ascii as ∧ Ascii bs :=
  List.forall_mem_append

section MapCase

variable (expansions : List (Nat × List Nat)) (runs : List CaseRun) (c : Char)

theorem mapCase_of_unmapped (he : ∀ e ∈ expansions, e.1 ≠ c.toNat)
    (hr : ∀ r ∈ runs, r.contains c.toNat = false) : mapCase expansions runs c = [c] := by
  have hlookup : expansions.lookup c.toNat = none :=
    List.lookup_eq_none_iff.mpr fun e hmem => bne_iff_ne.mpr (he e hmem).symm
  have hruns : mapRuns runs c.toNat = none := by
    cases h : mapRuns runs c.toNat with
    | none => rfl
    | some k =>
      obtain ⟨r, hmem, hin, -⟩ := mapRuns_eq_some _ _ _ h
      rw [hr r hmem] at hin
      cases hin
  rw [mapCase, hlookup, hruns]

/-- A mapping leaves the character as it is, or begins with a target of the tables. -/
theorem mapCase_eq_or_exists_head (hne : ∀ e ∈ expansions, e.2 ≠ []) :
    mapCase expansions runs c = [c] ∨
      ∃ r ∈ expansions.map CaseRun.ofExpansion ++ runs, ∃ n, r.image.contains n = true ∧
        ∃ later, mapCase expansions runs c = Char.ofNat n :: later := by
  unfold mapCase
  split
  · next several h =>
    obtain ⟨before, after, hsplit, -⟩ := List.lookup_eq_some_iff.mp h
    have hmem : (c.toNat, several) ∈ expansions := by rw [hsplit]; simp
    obtain ⟨n, later, rfl⟩ := List.exists_cons_of_ne_nil (hne _ hmem)
    refine Or.inr ⟨.ofExpansion (c.toNat, n :: later),
      List.mem_append_left _ (List.mem_map_of_mem hmem), n, ?_, later.map Char.ofNat, rfl⟩
    simp [CaseRun.ofExpansion, CaseRun.image, Span.contains]
  · split
    · next k h =>
      obtain ⟨r, hmem, hin, rfl⟩ := mapRuns_eq_some _ _ _ h
      exact Or.inr ⟨r, List.mem_append_right _ hmem, _, r.contains_image _ hin, [], rfl⟩
    · exact Or.inl rfl

end MapCase

/-- Capitals are their own capitals. -/
theorem upper_of_isUppercase (c : Char) (h : isUppercase c = true) : upper c = [c] := by
  unfold upper
  split
  · next ha =>
    rw [isUppercase, if_pos ha] at h
    have hkept := forall_of_isAscii (fun d => d.isUpper = true → d.toUpper = d) (by decide) c ha
    rw [hkept h]
  · next ha =>
    have hascending := ascending_tables.1 uppercaseSpans (by simp)
    rw [isUppercase, if_neg ha, Span.anyContains_iff _ hascending] at h
    obtain ⟨s, hmem, hs⟩ := h
    have hout : ∀ runs ∈ [upperRuns, upperExpansions.map CaseRun.ofExpansion],
        ∀ r ∈ runs, r.contains c.toNat = false := by
      intro runs hruns r hr
      exact Span.not_contains_of_allClear _ _ hascending
        (ascending_tables.2 runs (List.mem_cons_of_mem _ hruns)) (uppercaseSpans_clear runs hruns)
        s hmem _ hs _ (List.mem_map_of_mem hr)
    apply mapCase_of_unmapped
    · intro e he hkey
      have hkept := hout (upperExpansions.map CaseRun.ofExpansion) (by simp) _
        (List.mem_map_of_mem he)
      simp [CaseRun.ofExpansion, Span.contains, hkey] at hkept
    · exact hout upperRuns (by simp)

theorem lower_of_image (r : CaseRun) (h : r.lowersAtOnce = true) (n : Nat)
    (hn : r.image.contains n = true) : lower (Char.ofNat n) = [Char.ofNat n] := by
  simp only [CaseRun.lowersAtOnce, Bool.or_eq_true, Bool.and_eq_true, List.all_eq_true,
    Bool.not_eq_true'] at h
  rcases h with ⟨⟨hfar, hclear⟩, hexpansions⟩ | hall
  · obtain ⟨hnat, hascii⟩ := r.toNat_of_beyondAscii hfar n hn
    rw [lower, hascii, if_neg Bool.false_ne_true]
    apply mapCase_of_unmapped <;> rw [hnat]
    · rintro e he rfl
      rw [hexpansions e he] at hn
      cases hn
    · intro r' hr'
      exact Span.not_contains_of_clear _ _ (ascending_tables.2 lowerRuns (by simp)) hclear n hn
        r'.toSpan (List.mem_map_of_mem hr')
  · exact beq_iff_eq.mp (r.of_all _ hall n hn)

theorem isAlphanumeric_of_image (runs : List CaseRun) : ∀ spans,
    (∀ t ∈ spans, t ∈ alphanumericSpans) → CaseRun.allAlphanumeric spans runs = true →
    ∀ r ∈ runs, ∀ n, r.image.contains n = true → isAlphanumeric (Char.ofNat n) = true := by
  -- induction over the runs, for every place in the table at which the search for the first one
  -- begins
  induction runs with
  | nil => intro spans _ _ r hr; cases hr
  | cons r rest ih =>
    intro spans hspans h
    rw [CaseRun.allAlphanumeric, Bool.and_eq_true, Bool.or_eq_true, Bool.and_eq_true] at h
    generalize hlater : List.dropWhile _ _ = later at h
    have hsub : ∀ t ∈ later, t ∈ alphanumericSpans := by
      intro t ht
      rw [← hlater] at ht
      have hstart := (List.dropWhile_sublist _).mem ht
      split at hstart
      · exact hspans t hstart
      · exact hstart
    refine List.forall_mem_cons.mpr ⟨fun n hn => ?_, ih later hsub h.2⟩
    rcases h.1 with ⟨hfar, hwithin⟩ | hall
    · obtain ⟨s, hs, hwithin⟩ := (Option.any_eq_true _ _).mp hwithin
      obtain ⟨hnat, hascii⟩ := r.toNat_of_beyondAscii hfar n hn
      rw [isAlphanumeric, hascii, if_neg Bool.false_ne_true, hnat,
        Span.anyContains_iff _ (ascending_tables.1 alphanumericSpans (by simp))]
      exact ⟨s, hsub s (List.mem_of_head? hs), Span.contains_of_within _ s hwithin n hn⟩
    · exact r.of_all _ hall n hn

/-- The first small letter of a letter is a letter, and its own small letter. -/
theorem exists_head_lower (c : Char) (h : isAlphanumeric c = true) :
    ∃ d later, lower c = d :: later ∧ lower d = [d] ∧ isAlphanumeric d = true := by
  by_cases ha : isAscii c = true
  · have hkept := forall_of_isAscii (fun d => isAlphanumeric d = true →
      lower d.toLower = [d.toLower] ∧ isAlphanumeric d.toLower = true) (by decide) c ha
    exact ⟨c.toLower, [], by rw [lower, if_pos ha], hkept h⟩
  · have hlower : lower c = mapCase lowerExpansions lowerRuns c := by rw [lower, if_neg ha]
    rcases mapCase_eq_or_exists_head lowerExpansions lowerRuns c (by decide) with
      hc | ⟨r, hr, n, hn, later, hc⟩
    · rw [← hlower] at hc
      exact ⟨c, [], hc, hc, h⟩
    · exact ⟨Char.ofNat n, later, hlower.trans hc,
        lower_of_image r (lowerRuns_lowersAtOnce r hr) n hn,
        isAlphanumeric_of_image _ [] (by simp) (mappings_alphanumeric _ (by simp)) r hr n hn⟩

/-- The first capital of a letter is a letter. -/
theorem exists_head_upper (c : Char) (h : isAlphanumeric c = true) :
    ∃ d later, upper c = d :: later ∧ isAlphanumeric d = true := by
  by_cases ha : isAscii c = true
  · have hkept := forall_of_isAscii (fun d => isAlphanumeric d = true →
      isAlphanumeric d.toUpper = true) (by decide) c ha
    exact ⟨c.toUpper, [], by rw [upper, if_pos ha], hkept h⟩
  · have hupper : upper c = mapCase upperExpansions upperRuns c := by rw [upper, if_neg ha]
    rcases mapCase_eq_or_exists_head upperExpansions upperRuns c upperExpansions_ne_nil with
      hc | ⟨r, hr, n, hn, later, hc⟩
    · exact ⟨c, [], hupper.trans hc, h⟩
    · exact ⟨Char.ofNat n, later, hupper.trans hc,
        isAlphanumeric_of_image _ [] (by simp) (mappings_alphanumeric _ (by simp)) r hr n hn⟩

end PlayScaffold.Text
