import PlayScaffold.Proofs.JsonText
import PlayScaffold.Proofs.SchemeRoundTrip

/-!
# Digests of schemes that agree

Schemes agree if their fields do, where numbers in extensions are compared by value: `0.0` and
`-0.0` agree.  In a digest each extension counts by its text, which has the sign of a zero.  So
schemes that agree have one digest exactly if they are the same, with all signs:

    a == b → (a.digest = b.digest ↔ a = b)                                  (Agree.digest_eq_iff)

Schemes without signed zeros that agree are the same, and so are their digests.
-/

namespace PlayScaffold

namespace SecurityScheme

/-- All fields are the same but for the extensions, which have the same keys and values that
agree. -/
structure Agree (a b : SecurityScheme) : Prop where
  name : a.name = b.name
  description : a.description = b.description
  mechanism : a.mechanism = b.mechanism
  scopes : a.scopes = b.scopes
  extensions : List.Forall₂ (fun x y => x.1 = y.1 ∧ Json.sameValue x.2 y.2 = true)
    a.vendorExtensions.entries b.vendorExtensions.entries

theorem agree_of_sameValue (a b : SecurityScheme) (h : a.sameValue b = true) : Agree a b := by
  simp only [sameValue, Bool.and_eq_true_iff, beq_iff_eq] at h
  obtain ⟨⟨⟨⟨hname, hdescription⟩, hmechanism⟩, hscopes⟩, hfields⟩ := h
  exact ⟨hname, hdescription, hmechanism, hscopes, Json.forall₂_of_sameFields _ _ hfields⟩

theorem Agree.eq_of_entries {a b : SecurityScheme} (h : Agree a b)
    (hentries : a.vendorExtensions.entries = b.vendorExtensions.entries) : a = b := by
  obtain ⟨hname, hdescription, hmechanism, hscopes, -⟩ := h
  obtain ⟨_, _, _, _, _, _⟩ := a
  obtain ⟨_, _, _, _, _, _⟩ := b
  simp only at hname hdescription hmechanism hscopes hentries
  subst hname hdescription hmechanism hscopes hentries
  rfl

/-- The texts of extensions that agree tell whether they are the same. -/
theorem Agree.digest_eq_iff {a b : SecurityScheme} (h : Agree a b) :
    a.digest = b.digest ↔ a = b := by
  refine ⟨fun hdigest => h.eq_of_entries ?_, congrArg digest⟩
  refine eq_of_map_eq _ (h.extensions.imp ?_) (congrArg Digest.extensions hdigest)
  rintro ⟨key, v⟩ ⟨other, w⟩ ⟨hkey, hvalue⟩ hpair
  obtain rfl : key = other := hkey
  obtain rfl : v = w := (Json.compact_eq_iff v w hvalue).mp (congrArg Prod.snd hpair)
  rfl

/-- No zero in the extensions has a sign. -/
def Unsigned (s : SecurityScheme) : Prop :=
  ∀ e ∈ s.vendorExtensions.entries, e.2.unsigned = e.2

theorem Unsigned.map_entries {s : SecurityScheme} (h : s.Unsigned) :
    s.vendorExtensions.entries.map (fun e => (e.1, e.2.unsigned)) = s.vendorExtensions.entries := by
  refine (List.map_congr_left fun e he => ?_).trans (List.map_id _)
  rw [h e he]
  rfl

theorem Agree.eq_of_unsigned {a b : SecurityScheme} (h : Agree a b) (ha : a.Unsigned)
    (hb : b.Unsigned) : a = b := by
  have hentries : a.vendorExtensions.entries.map (fun e => (e.1, e.2.unsigned)) =
      b.vendorExtensions.entries.map fun e => (e.1, e.2.unsigned) := by
    rw [← List.forall₂_eq_eq_eq, List.forall₂_map_left_iff, List.forall₂_map_right_iff]
    refine h.extensions.imp fun x y hxy => ?_
    rw [hxy.1, Json.unsigned_eq_of_sameValue x.2 y.2 hxy.2]
  rw [ha.map_entries, hb.map_entries] at hentries
  exact h.eq_of_entries hentries

end SecurityScheme

namespace DecoratedScheme

open SecurityScheme (agree_of_sameValue)

/-- Decorated schemes that agree have bases that agree and the same URLs. -/
theorem parts_of_sameValue (a b : DecoratedScheme) (h : a.sameValue b = true) :
    a.base.Agree b.base ∧ a.jwksUrl = b.jwksUrl ∧ a.tokenIntrospectUrl = b.tokenIntrospectUrl := by
  simp only [sameValue, Bool.and_eq_true_iff, beq_iff_eq] at h
  exact ⟨agree_of_sameValue a.base b.base h.1.1, h.1.2, h.2⟩

theorem eq_of_base (a b : DecoratedScheme) (hbase : a.base = b.base)
    (hjwks : a.jwksUrl = b.jwksUrl) (htoken : a.tokenIntrospectUrl = b.tokenIntrospectUrl) :
    a = b := by
  cases a
  cases b
  simp only at hbase hjwks htoken
  rw [hbase, hjwks, htoken]

/-- **Schemes that agree have one digest exactly if they are the same**, decorated or not.  They
are if no zero in their extensions has a sign. -/
theorem digest_eq_iff_of_beq (s t : SecurityScheme) (a b : DecoratedScheme) :
    (s == t →
      (s.digest = t.digest ↔ s = t) ∧ (s.Unsigned → t.Unsigned → s.digest = t.digest)) ∧
    (a == b →
      (a.digest = b.digest ↔ a = b) ∧
        (a.base.Unsigned → b.base.Unsigned → a.digest = b.digest)) := by
  refine ⟨fun h => ?_, fun h => ?_⟩
  · have hagree := agree_of_sameValue s t h
    exact ⟨hagree.digest_eq_iff, fun hs ht => congrArg _ (hagree.eq_of_unsigned hs ht)⟩
  · obtain ⟨hagree, hjwks, htoken⟩ := parts_of_sameValue a b h
    refine ⟨⟨fun hdigest => ?_, congrArg digest⟩, fun ha hb => congrArg digest ?_⟩
    · have hbase := hagree.digest_eq_iff.mp (congrArg Prod.fst hdigest)
      exact eq_of_base a b hbase hjwks htoken
    · exact eq_of_base a b (hagree.eq_of_unsigned ha hb) hjwks htoken

def metered (rate : Decimal.Double) : SecurityScheme where
  name := "metered"
  mechanism := .apiKey "key" .header
  vendorExtensions := KeyMap.ofList [("x-rate", .num (.real rate))]

def negativeZero : Decimal.Double := ⟨0x8000000000000000, by decide⟩

/-- A scheme with a zero is read back with its digest, and decorated with that of the original. -/
theorem digest_metered_read : let scheme := metered .zero
    ∃ other, SecurityScheme.read scheme.encode.toJson = .ok other ∧ (scheme == other) = true ∧
      ((decorate scheme).value == (decorate other).value) = true ∧
      scheme.Unsigned ∧ other.Unsigned ∧ scheme.digest = other.digest ∧
      (decorate scheme).value.digest = (decorate other).value.digest := by
  have hread := SecurityScheme.read_toJson (metered .zero)
  have hsame : (metered .zero == metered .zero) = true := by decide
  have hdecorated : ((decorate (metered .zero)).value ==
    (decorate (metered .zero)).value) = true := by decide
  have hunsigned : (metered .zero).Unsigned := by
    intro e he
    obtain rfl : e = ("x-rate", .num (.real .zero)) := List.mem_singleton.mp he
    rfl
  obtain ⟨hplain, hboth⟩ := digest_eq_iff_of_beq (metered .zero) (metered .zero)
    (decorate (metered .zero)).value (decorate (metered .zero)).value
  exact ⟨_, hread, hsame, hdecorated, hunsigned, hunsigned,
    (hplain hsame).2 hunsigned hunsigned, (hboth hdecorated).2 hunsigned hunsigned⟩

/-- Zeros of both signs agree and are written differently. -/
theorem not_forall_digest_eq_of_beq :
    ¬ (∀ a b : SecurityScheme, a == b → a.digest = b.digest) ∧
    ¬ ∀ a b : DecoratedScheme, a == b → a.digest = b.digest := by
  refine ⟨fun h => ?_, fun h => ?_⟩
  · exact absurd (h (metered .zero) (metered negativeZero) (by decide)) (by decide)
  · exact absurd (h (decorate (metered .zero)).value (decorate (metered negativeZero)).value
      (by decide)) (by decide)

end DecoratedScheme

end PlayScaffold
