import Mathlib.Data.List.Sort

/-!
# The order of bytes

Texts are ordered by the code points of their characters.  UTF-8 keeps that order: the bytes of a
smaller character stand before those of a greater one, whatever follows them.

    utf8 s < utf8 t ↔ s < t      (utf8_lt_iff)
-/

namespace PlayScaffold.Text

def utf8 (s : String) : List UInt8 := s.toUTF8.data.toList

theorem utf8_eq (s : String) : utf8 s = s.toList.flatMap String.utf8EncodeChar := by
  have hbytes : s.toByteArray = s.toList.utf8Encode := String.utf8Encode_toList.symm
  rw [utf8, String.toUTF8_eq_toByteArray, hbytes, List.utf8Encode, List.data_toByteArray]

/-! ## Characters -/

theorem ofNat_lt_ofNat_iff (m n : Nat) (hm : m < 256) (hn : n < 256) :
    UInt8.ofNat m < UInt8.ofNat n ↔ m < n := UInt8.ofNat_lt_iff_lt hm hn

theorem ofNat_eq_ofNat_iff (m n : Nat) (hm : m < 256) (hn : n < 256) :
    UInt8.ofNat m = UInt8.ofNat n ↔ m = n := by
  constructor
  · intro h
    have hlt := mt (ofNat_lt_ofNat_iff m n hm hn).mpr (by rw [h]; exact UInt8.lt_irrefl _)
    have hgt := mt (ofNat_lt_ofNat_iff n m hn hm).mpr (by rw [h]; exact UInt8.lt_irrefl _)
    omega
  · rintro rfl
    rfl

/-- The bytes of a smaller character come first, whatever follows.  There is a case for each number
of bytes on either side: with different numbers the first bytes decide, and with the same number the
first that differ, each holding six bits of the code point. -/
theorem utf8EncodeChar_append_lt (a b : Char) (h : a < b) (l m : List UInt8) :
    String.utf8EncodeChar a ++ l < String.utf8EncodeChar b ++ m := by
  have hlt : a.val.toNat < b.val.toNat := UInt32.lt_iff_toNat_lt.mp (Char.lt_def.mp h)
  have hbound : b.val.toNat < 1114112 := by
    rcases b.valid with hb | hb <;> omega
  have htwice : ∀ n, n / 4096 = n / 64 / 64 := by omega
  have hthrice : ∀ n, n / 262144 = n / 64 / 64 / 64 := by omega
  unfold String.utf8EncodeChar
  generalize a.val.toNat = v at *
  generalize b.val.toNat = w at *
  simp only [htwice, hthrice]
  split_ifs <;> simp (disch := omega) only [List.cons_append, List.nil_append,
    List.cons_lt_cons_iff, ofNat_lt_ofNat_iff, ofNat_eq_ofNat_iff] <;> omega

/-! ## Texts -/

theorem flatMap_utf8EncodeChar_lt (cs ds : List Char) (h : cs < ds) :
    cs.flatMap String.utf8EncodeChar < ds.flatMap String.utf8EncodeChar := by
  induction cs generalizing ds with
  | nil =>
    cases ds with
    | nil => exact absurd h (List.lt_irrefl [])
    | cons d ds =>
      have hne : String.utf8EncodeChar d ≠ [] := by
        unfold String.utf8EncodeChar
        simp only
        split_ifs <;> exact List.cons_ne_nil _ _
      obtain ⟨x, rest, hx⟩ := List.exists_cons_of_ne_nil hne
      rw [List.flatMap_cons, hx]
      exact List.nil_lt_cons x _
  | cons c cs ih =>
    cases ds with
    | nil => exact absurd h (List.not_lt_nil _)
    | cons d ds =>
      rw [List.flatMap_cons, List.flatMap_cons]
      rcases List.cons_lt_cons_iff.mp h with hlt | ⟨rfl, hrest⟩
      · exact utf8EncodeChar_append_lt c d hlt _ _
      · exact List.append_left_lt (ih ds hrest)

theorem utf8_lt_utf8 (s t : String) (h : s < t) : utf8 s < utf8 t := by
  rw [utf8_eq, utf8_eq]
  exact flatMap_utf8EncodeChar_lt _ _ (String.lt_iff.mp h)

/-- **Texts are ordered as their bytes are.** -/
theorem utf8_lt_iff (s t : String) : utf8 s < utf8 t ↔ s < t := by
  refine ⟨fun h => ?_, utf8_lt_utf8 s t⟩
  rcases Std.lt_trichotomy s t with hlt | rfl | hgt
  · exact hlt
  · exact absurd h (List.lt_irrefl _)
  · exact absurd h (List.lt_asymm (utf8_lt_utf8 t s hgt))

end PlayScaffold.Text
