import PlayScaffold.Json.Printer
import Mathlib.Data.List.Forall2

/-!
# Values that agree, and their texts

JSON values that agree differ in nothing but the signs of zeros (`unsigned_eq_of_sameValue`).  Their
compact texts keep the signs, and the first difference comes before either text ends.  So of values
that agree the texts are equal only if the values are:

    sameValue v w → (v.compact = w.compact ↔ v = w)                               (compact_eq_iff)
-/

namespace PlayScaffold

/-! ## Texts that are told apart -/

/-- The texts are the same, or they differ before either of them ends: they are told apart whatever
is written after them. -/
def Apart (t u : String) : Prop := ∀ r s : List Char, t.toList ++ r = u.toList ++ s → t = u

namespace Apart

theorem refl (t : String) : Apart t t := fun _ _ _ => rfl

theorem symm {t u : String} (h : Apart t u) : Apart u t :=
  fun r s heq => (h s r heq.symm).symm

/-- Texts of two parts are equal part by part. -/
theorem parts {t u t' u' : String} (h : Apart t u) (heq : t ++ t' = u ++ u') :
    t = u ∧ t' = u' := by
  have hlist := congrArg String.toList heq
  rw [String.toList_append, String.toList_append] at hlist
  obtain rfl := h _ _ hlist
  exact ⟨rfl, String.toList_inj.mp (List.append_cancel_left hlist)⟩

theorem append {t u t' u' : String} (h : Apart t u) (h' : Apart t' u') :
    Apart (t ++ t') (u ++ u') := by
  intro r s heq
  rw [String.toList_append, String.toList_append, List.append_assoc, List.append_assoc] at heq
  obtain rfl := h _ _ heq
  rw [h' r s (List.append_cancel_left heq)]

theorem intercalate (separator : String) {ts us : List String} (h : List.Forall₂ Apart ts us) :
    Apart (separator.intercalate ts) (separator.intercalate us) := by
  induction h with
  | nil => exact refl _
  | cons hfirst hrest ih =>
    cases hrest with
    | nil =>
      rw [String.intercalate_singleton, String.intercalate_singleton]
      exact hfirst
    | cons _ _ =>
      rw [String.intercalate_cons_cons, String.intercalate_cons_cons]
      exact (hfirst.append (refl separator)).append ih

theorem eq_of_intercalate (separator : String) {ts us : List String}
    (h : List.Forall₂ Apart ts us) (heq : separator.intercalate ts = separator.intercalate us) :
    ts = us := by
  induction h with
  | nil => rfl
  | cons hfirst hrest ih =>
    cases hrest with
    | nil =>
      rw [String.intercalate_singleton, String.intercalate_singleton] at heq
      rw [heq]
    | cons _ _ =>
      rw [String.intercalate_cons_cons, String.intercalate_cons_cons] at heq
      obtain ⟨hhead, hlater⟩ := (hfirst.append (refl separator)).parts heq
      rw [(hfirst.parts hhead).1, ih hlater]

end Apart

/-- Lists are equal if a function has the same values on them and tells their items apart. -/
theorem eq_of_map_eq {α β : Type} (f : α → β) {xs ys : List α}
    (h : List.Forall₂ (fun x y => f x = f y → x = y) xs ys) (heq : xs.map f = ys.map f) :
    xs = ys := by
  induction h with
  | nil => rfl
  | cons hfirst _ ih =>
    obtain ⟨hhead, hrest⟩ := List.cons.inj heq
    rw [hfirst hhead, ih hrest]

/-- The texts of two things tell whether they are the same. -/
structure ToldApart {α : Type} (f : α → String) (x y : α) : Prop where
  apart : Apart (f x) (f y)
  eq_of_text : f x = f y → x = y

namespace ToldApart

variable {α : Type} {f : α → String}

theorem refl (f : α → String) (x : α) : ToldApart f x x := ⟨Apart.refl _, fun _ => rfl⟩

theorem symm {x y : α} (h : ToldApart f x y) : ToldApart f y x :=
  ⟨h.apart.symm, fun heq => (h.eq_of_text heq.symm).symm⟩

def bracketed (f : α → String) (opening closing : String) (items : List α) : String :=
  opening ++ ",".intercalate (items.map f) ++ closing

/-- Lists whose items are told apart are told apart between brackets. -/
theorem bracketed_of_items (opening closing : String) {xs ys : List α}
    (h : List.Forall₂ (ToldApart f) xs ys) : ToldApart (bracketed f opening closing) xs ys := by
  have hitems : List.Forall₂ Apart (xs.map f) (ys.map f) := by
    rw [List.forall₂_map_left_iff, List.forall₂_map_right_iff]
    exact h.imp fun _ _ => ToldApart.apart
  have hopened := (Apart.refl opening).append (Apart.intercalate "," hitems)
  refine ⟨hopened.append (Apart.refl closing), fun heq => ?_⟩
  obtain ⟨hfront, -⟩ := hopened.parts heq
  obtain ⟨-, hjoined⟩ := (Apart.refl opening).parts hfront
  exact eq_of_map_eq f (h.imp fun _ _ => eq_of_text) (Apart.eq_of_intercalate "," hitems hjoined)

end ToldApart

/-! ## Numbers -/

namespace Decimal.Double

theorem isZero_iff (d : Double) : d.isZero = true ↔ d.exponentField = 0 ∧ d.fraction = 0 := by
  rw [isZero, significand, beq_iff_eq]
  split
  · next h => simp [h]
  · next h => simp [h]

theorem exponentField_eq (d : Double) :
    d.exponentField = d.bits.toNat / Nat.pow 2 52 % Nat.pow 2 11 := by
  rw [exponentField, UInt64.toNat_and, UInt64.toNat_shiftRight, Nat.shiftRight_eq_div_pow]
  exact Nat.and_two_pow_sub_one_eq_mod _ 11

theorem isNegative_eq (d : Double) :
    d.isNegative = decide (d.bits.toNat / Nat.pow 2 63 = 1) := by
  rw [isNegative, Bool.eq_iff_iff, beq_iff_eq, decide_eq_true_iff, ← UInt64.toNat_inj,
    UInt64.toNat_shiftRight, Nat.shiftRight_eq_div_pow]
  rfl

/-- A zero is nothing but its sign. -/
theorem eq_of_isZero (a b : Double) (ha : a.isZero = true) (hb : b.isZero = true)
    (hsign : a.isNegative = b.isNegative) : a = b := by
  have hpow : ∀ n, Nat.pow 2 n = 2 ^ n := fun _ => rfl
  rw [isZero_iff, exponentField_eq, fraction, hpow, hpow] at ha hb
  rw [isNegative_eq, isNegative_eq, decide_eq_decide, hpow] at hsign
  have ha' := a.bits.toNat_lt
  have hb' := b.bits.toNat_lt
  have hbits : a.bits = b.bits := by
    rw [← UInt64.toNat_inj]
    omega
  cases a
  cases b
  simp only at hbits
  subst hbits
  rfl

/-- Doubles that agree are the same, or zeros of different signs. -/
theorem eq_or_zeros (a b : Double) (h : a.sameValue b = true) :
    a = b ∨ a.isZero = true ∧ b.isZero = true ∧ a.isNegative = !b.isNegative := by
  rcases Bool.or_eq_true_iff.mp h with hbits | hzeros
  · left
    cases a
    cases b
    simpa using hbits
  · obtain ⟨ha, hb⟩ := Bool.and_eq_true_iff.mp hzeros
    by_cases hsign : a.isNegative = b.isNegative
    · exact Or.inl (eq_of_isZero a b ha hb hsign)
    · exact Or.inr ⟨ha, hb, Bool.eq_not.mpr hsign⟩

/-- Zero, without a sign. -/
def zero : Double := ⟨0, by decide⟩

/-- The double without the sign of a zero. -/
def unsigned (d : Double) : Double := if d.isZero then zero else d

theorem unsigned_eq (a b : Double) (h : a.sameValue b = true) : a.unsigned = b.unsigned := by
  rcases eq_or_zeros a b h with rfl | ⟨ha, hb, -⟩
  · rfl
  · rw [unsigned, unsigned, if_pos ha, if_pos hb]

end Decimal.Double

namespace Json

namespace Number

def unsigned : Number → Number
  | .int n => .int n
  | .real d => .real d.unsigned

theorem unsigned_eq (m n : Number) (h : m.sameValue n = true) : m.unsigned = n.unsigned := by
  cases m with
  | int a =>
    cases n with
    | int b => rw [show a = b by simpa [sameValue] using h]
    | real b => cases h
  | real a =>
    cases n with
    | int b => cases h
    | real b => exact congrArg Number.real (Decimal.Double.unsigned_eq a b h)

theorem text_of_isZero (d : Decimal.Double) (h : d.isZero = true) :
    (Number.real d).text = if d.isNegative then "-0.0" else "0.0" := by
  rw [text, realText, if_pos h]
  rfl

/-- Numbers that agree are the same, or zeros that are written with and without a sign. -/
theorem eq_or_texts (m n : Number) (h : m.sameValue n = true) :
    m = n ∨ m.text = "0.0" ∧ n.text = "-0.0" ∨ m.text = "-0.0" ∧ n.text = "0.0" := by
  cases m with
  | int a =>
    cases n with
    | int b => exact Or.inl (by simpa [sameValue] using h)
    | real b => cases h
  | real a =>
    cases n with
    | int b => cases h
    | real b =>
      rcases Decimal.Double.eq_or_zeros a b h with rfl | ⟨ha, hb, hsign⟩
      · exact Or.inl rfl
      · right
        rw [text_of_isZero a ha, text_of_isZero b hb, hsign]
        cases b.isNegative <;> simp

end Number

/-! ## Values -/

theorem Number.sameValue_refl (n : Number) : n.sameValue n = true := by
  cases n with
  | int a => exact beq_self_eq_true a
  | real d => simp [Number.sameValue, Decimal.Double.sameValue]

mutual

/-- Every value agrees with itself. -/
theorem sameValue_refl : ∀ v : Json, sameValue v v = true
  | .null => rfl
  | .bool b => beq_self_eq_true b
  | .num n => n.sameValue_refl
  | .str s => beq_self_eq_true s
  | .arr items => sameItems_refl items
  | .obj fields => sameFields_refl fields

theorem sameItems_refl : ∀ items : List Json, sameItems items items = true
  | [] => rfl
  | item :: rest => by
    rw [sameItems, sameValue_refl item, sameItems_refl rest]
    rfl

theorem sameFields_refl : ∀ fields : List (String × Json), sameFields fields fields = true
  | [] => rfl
  | (key, v) :: rest => by
    rw [sameFields, beq_self_eq_true, sameValue_refl v, sameFields_refl rest]
    rfl

end

/-- What holds of equal leaves and of numbers that agree, and of containers if it holds item by
item, holds of values that agree. -/
theorem sameValue_induction (P : Json → Json → Prop) (null : P .null .null)
    (bool : ∀ b, P (.bool b) (.bool b))
    (num : ∀ m n, m.sameValue n = true → P (.num m) (.num n))
    (str : ∀ s, P (.str s) (.str s))
    (arr : ∀ as bs, List.Forall₂ P as bs → P (.arr as) (.arr bs))
    (obj : ∀ as bs, List.Forall₂ (fun a b : String × Json => a.1 = b.1 ∧ P a.2 b.2) as bs →
      P (.obj as) (.obj bs)) (v w : Json) (h : sameValue v w = true) : P v w := by
  have hall := sameValue.mutual_induct (fun v w => sameValue v w = true → P v w)
    (fun as bs => sameFields as bs = true →
      List.Forall₂ (fun a b => a.1 = b.1 ∧ P a.2 b.2) as bs)
    (fun as bs => sameItems as bs = true → List.Forall₂ P as bs)
  refine (hall ?_ ?_ ?_ ?_ ?_ ?_ ?_ ?_ ?_ ?_ ?_ ?_ ?_).1 v w h
  · intro _
    exact null
  · intro a b h
    rw [show a = b by simpa [sameValue] using h]
    exact bool b
  · intro m n h
    exact num m n (by simpa [sameValue] using h)
  · intro s t h
    rw [show s = t by simpa [sameValue] using h]
    exact str t
  · intro as bs ih h
    exact arr as bs (ih (by simpa [sameValue] using h))
  · intro as bs ih h
    exact obj as bs (ih (by simpa [sameValue] using h))
  · -- values of different kinds do not agree
    intro t u h₁ h₂ h₃ h₄ h₅ h₆ h
    rw [sameValue.eq_7 t u h₁ h₂ h₃ h₄ h₅ h₆] at h
    cases h
  · intro _
    exact List.Forall₂.nil
  · intro a as b bs ihfirst ihrest h
    rw [sameItems, Bool.and_eq_true_iff] at h
    exact List.Forall₂.cons (ihfirst h.1) (ihrest h.2)
  · intro t u h₁ h₂ h
    rw [sameItems.eq_3 t u h₁ h₂] at h
    cases h
  · intro _
    exact List.Forall₂.nil
  · intro k a as l b bs ihfirst ihrest h
    rw [sameFields, Bool.and_eq_true_iff, Bool.and_eq_true_iff, beq_iff_eq] at h
    exact List.Forall₂.cons ⟨h.1.1, ihfirst h.1.2⟩ (ihrest h.2)
  · intro t u h₁ h₂ h
    rw [sameFields.eq_3 t u h₁ h₂] at h
    cases h

/-- Fields that agree have equal keys and values that agree. -/
theorem forall₂_of_sameFields (as : List (String × Json)) : ∀ bs, sameFields as bs = true →
    List.Forall₂ (fun a b => a.1 = b.1 ∧ sameValue a.2 b.2 = true) as bs := by
  induction as with
  | nil =>
    intro bs h
    cases bs with
    | nil => exact List.Forall₂.nil
    | cons b bs => cases h
  | cons a as ih =>
    intro bs h
    cases bs with
    | nil => cases h
    | cons b bs =>
      rw [sameFields, Bool.and_eq_true_iff, Bool.and_eq_true_iff, beq_iff_eq] at h
      exact List.Forall₂.cons h.1 (ih bs h.2)

/-! ## Compact texts -/

theorem compactItems_eq (items : List Json) : compactItems items = items.map compact := by
  induction items with
  | nil => rfl
  | cons item rest ih => rw [compactItems, ih, List.map_cons]

def compactField (field : String × Json) : String :=
  stringText field.1 ++ ":" ++ field.2.compact

theorem compactFields_eq (fields : List (String × Json)) :
    compactFields fields = fields.map compactField := by
  induction fields with
  | nil => rfl
  | cons field rest ih => rw [compactFields, ih, List.map_cons, compactField]

theorem compact_arr (items : List Json) :
    compact (.arr items) = ToldApart.bracketed compact "[" "]" items := by
  rw [compact, compactItems_eq, ToldApart.bracketed]

theorem compact_obj (fields : List (String × Json)) :
    compact (.obj fields) = ToldApart.bracketed compactField "\x7b" "\x7d" fields := by
  rw [compact, compactFields_eq, ToldApart.bracketed]

theorem toldApart_of_zeros (v w : Json) (hv : v.compact = "0.0") (hw : w.compact = "-0.0") :
    ToldApart compact v w := by
  refine ⟨fun r s heq => ?_, fun heq => ?_⟩
  · rw [hv, hw] at heq
    cases heq
  · rw [hv, hw] at heq
    exact absurd heq (by decide)

theorem toldApart_num (m n : Number) (h : m.sameValue n = true) :
    ToldApart compact (.num m) (.num n) := by
  rcases Number.eq_or_texts m n h with rfl | ⟨hm, hn⟩ | ⟨hm, hn⟩
  · exact ToldApart.refl _ _
  · exact toldApart_of_zeros (.num m) (.num n) hm hn
  · exact (toldApart_of_zeros (.num n) (.num m) hn hm).symm

/-- Fields of one key are told apart by their values. -/
theorem toldApart_field (a b : String × Json) (hkey : a.1 = b.1)
    (h : ToldApart compact a.2 b.2) : ToldApart compactField a b := by
  obtain ⟨key, v⟩ := a
  obtain ⟨other, w⟩ := b
  obtain rfl : key = other := hkey
  have hfront := Apart.refl (stringText key ++ ":")
  refine ⟨hfront.append h.apart, fun heq => ?_⟩
  obtain rfl : v = w := h.eq_of_text (hfront.parts heq).2
  rfl

/-- Values that agree are told apart by their texts. -/
theorem toldApart_of_sameValue (v w : Json) (h : sameValue v w = true) :
    ToldApart compact v w := by
  refine sameValue_induction (ToldApart compact) (ToldApart.refl _ _) (fun _ => ToldApart.refl _ _)
    toldApart_num (fun _ => ToldApart.refl _ _) (fun as bs hitems => ?_) (fun as bs hfields => ?_)
    v w h
  · have hlists := ToldApart.bracketed_of_items "[" "]" hitems
    refine ⟨?_, fun heq => ?_⟩
    · rw [compact_arr, compact_arr]
      exact hlists.apart
    · rw [compact_arr, compact_arr] at heq
      rw [hlists.eq_of_text heq]
  · have hlists := ToldApart.bracketed_of_items "\x7b" "\x7d"
      (hfields.imp fun a b hab => toldApart_field a b hab.1 hab.2)
    refine ⟨?_, fun heq => ?_⟩
    · rw [compact_obj, compact_obj]
      exact hlists.apart
    · rw [compact_obj, compact_obj] at heq
      rw [hlists.eq_of_text heq]

/-- **Values that agree have the same compact text only if they are the same.** -/
theorem compact_eq_iff (v w : Json) (h : sameValue v w = true) :
    v.compact = w.compact ↔ v = w :=
  ⟨(toldApart_of_sameValue v w h).eq_of_text, congrArg compact⟩

/-! ## Zeros without signs -/

mutual

/-- The value without the signs of its zeros. -/
def unsigned : Json → Json
  | .null => .null
  | .bool b => .bool b
  | .num n => .num n.unsigned
  | .str s => .str s
  | .arr items => .arr (unsignedItems items)
  | .obj fields => .obj (unsignedFields fields)

def unsignedItems : List Json → List Json
  | [] => []
  | item :: rest => unsigned item :: unsignedItems rest

def unsignedFields : List (String × Json) → List (String × Json)
  | [] => []
  | (key, value) :: rest => (key, unsigned value) :: unsignedFields rest

end

/-- Values that agree differ in nothing but the signs of zeros. -/
theorem unsigned_eq_of_sameValue (v w : Json) (h : sameValue v w = true) :
    v.unsigned = w.unsigned := by
  refine sameValue_induction (fun v w => v.unsigned = w.unsigned) rfl (fun _ => rfl)
    (fun m n hmn => congrArg Json.num (Number.unsigned_eq m n hmn)) (fun _ => rfl)
    (fun as bs hitems => ?_) (fun as bs hfields => ?_) v w h
  · rw [unsigned, unsigned]
    congr 1
    induction hitems with
    | nil => rfl
    | cons hfirst _ ih => rw [unsignedItems, unsignedItems, hfirst, ih]
  · rw [unsigned, unsigned]
    congr 1
    induction hfields with
    | nil => rfl
    | cons hfirst _ ih => rw [unsignedFields, unsignedFields, hfirst.1, hfirst.2, ih]

end Json

end PlayScaffold
