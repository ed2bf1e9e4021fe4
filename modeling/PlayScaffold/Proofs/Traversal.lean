import PlayScaffold.Warning
import Mathlib.Data.List.Forall2

/-!
# Traversals that may fail or warn

A list is traversed in `Except`, where every item has to succeed, or in `Logged`, where every item
does and only adds warnings.

    xs.mapM f = .ok ys ↔ List.Forall₂ (fun x y => f x = .ok y) xs ys      (mapM_eq_ok_iff)
    xs.mapM f = .error e ↔ the first item that fails does so with e       (mapM_eq_error_iff)
    (xs.mapM f).value = xs.map fun x => (f x).value                       (Logged.value_mapM)
-/

namespace PlayScaffold

/-! ## Failing steps -/

variable {ε α β : Type}

theorem bind_of_ok {x : Except ε α} {a : α} (h : x = .ok a) (f : α → Except ε β) :
    x >>= f = f a := by
  rw [h]
  rfl

theorem bind_eq_ok_iff (x : Except ε α) (f : α → Except ε β) (b : β) :
    x >>= f = .ok b ↔ ∃ a, x = .ok a ∧ f a = .ok b := by
  cases x <;> simp [bind, Except.bind]

theorem map_eq_ok_iff (x : Except ε α) (f : α → β) (b : β) :
    f <$> x = .ok b ↔ ∃ a, x = .ok a ∧ f a = b := by
  cases x <;> simp [Functor.map, Except.map]

theorem map_eq_error_iff (x : Except ε α) (f : α → β) (e : ε) :
    f <$> x = .error e ↔ x = .error e := by
  cases x <;> simp [Functor.map, Except.map]

theorem mapM_eq_ok_iff (f : α → Except ε β) (xs : List α) (ys : List β) :
    xs.mapM f = .ok ys ↔ List.Forall₂ (fun x y => f x = .ok y) xs ys := by
  induction xs generalizing ys with
  | nil => simp [pure, Except.pure, eq_comm]
  | cons x xs ih =>
    rw [List.mapM_cons, bind_eq_ok_iff, List.forall₂_cons_left_iff]
    constructor
    · rintro ⟨y, hy, h⟩
      obtain ⟨later, hlater, h⟩ := (bind_eq_ok_iff _ _ _).mp h
      exact ⟨y, later, hy, (ih later).mp hlater, (Except.ok.inj h).symm⟩
    · rintro ⟨y, later, hy, hlater, rfl⟩
      exact ⟨y, hy, (bind_eq_ok_iff _ _ _).mpr ⟨later, (ih later).mpr hlater, rfl⟩⟩

theorem exists_mapM_ok_iff (f : α → Except ε β) (xs : List α) :
    (∃ ys, xs.mapM f = .ok ys) ↔ ∀ x ∈ xs, ∃ y, f x = .ok y := by
  induction xs with
  | nil => simp [pure, Except.pure]
  | cons x xs ih =>
    rw [List.forall_mem_cons, ← ih]
    simp only [mapM_eq_ok_iff, List.forall₂_cons_left_iff]
    constructor
    · rintro ⟨_, y, ys, hy, hys, rfl⟩
      exact ⟨⟨y, hy⟩, ys, hys⟩
    · rintro ⟨⟨y, hy⟩, ys, hys⟩
      exact ⟨_, y, ys, hy, hys, rfl⟩

/-- A place in a list is its head or a place in its tail. -/
theorem exists_split_cons_iff (P : List α → α → List α → Prop) (x : α) (xs : List α) :
    (∃ before y after, x :: xs = before ++ y :: after ∧ P before y after) ↔
      P [] x xs ∨ ∃ before y after, xs = before ++ y :: after ∧ P (x :: before) y after := by
  constructor
  · rintro ⟨before, y, after, hsplit, hP⟩
    cases before with
    | nil =>
      obtain ⟨rfl, rfl⟩ := List.cons.inj hsplit
      exact Or.inl hP
    | cons z before =>
      obtain ⟨rfl, rfl⟩ := List.cons.inj hsplit
      exact Or.inr ⟨before, y, after, rfl, hP⟩
  · rintro (hP | ⟨before, y, after, rfl, hP⟩)
    · exact ⟨[], x, xs, rfl, hP⟩
    · exact ⟨x :: before, y, after, rfl, hP⟩

/-- The first item that fails decides the error. -/
theorem mapM_eq_error_iff (f : α → Except ε β) (xs : List α) (e : ε) :
    xs.mapM f = .error e ↔ ∃ before x after, xs = before ++ x :: after ∧
      (∀ y ∈ before, ∃ b, f y = .ok b) ∧ f x = .error e := by
  induction xs with
  | nil => simp [pure, Except.pure]
  | cons x xs ih =>
    rw [exists_split_cons_iff, List.mapM_cons]
    simp only [List.forall_mem_cons]
    cases hx : f x with
    | error e' => simp [bind, Except.bind]
    | ok b =>
      have hrest : (Except.ok b >>= fun b => xs.mapM f >>= fun bs => pure (b :: bs)) = .error e ↔
          xs.mapM f = .error e := by
        cases xs.mapM f <;> simp [bind, Except.bind, pure, Except.pure]
      rw [hrest, ih]
      simp

/-- What stands behind an item that fails has no part in the outcome. -/
theorem mapM_congr_of_error (f g : α → Except ε β) (before after : List α) (x : α) (e : ε)
    (hsame : ∀ y ∈ before ++ [x], g y = f y) (hx : f x = .error e) :
    (before ++ x :: after).mapM g = (before ++ x :: after).mapM f := by
  induction before with
  | nil =>
    have hgx : g x = .error e := by rw [hsame x List.mem_cons_self, hx]
    simp [List.mapM_cons, hx, hgx, bind, Except.bind]
  | cons y before ih =>
    obtain ⟨hy, hrest⟩ := List.forall_mem_cons.mp hsame
    rw [List.cons_append, List.mapM_cons, List.mapM_cons, hy, ih hrest]

theorem mapM_congr_forall₂ (f : α → Except ε β) (xs ys : List α)
    (h : List.Forall₂ (fun x y => f x = f y) xs ys) : xs.mapM f = ys.mapM f := by
  induction h with
  | nil => rfl
  | cons hxy _ ih => rw [List.mapM_cons, List.mapM_cons, hxy, ih]

theorem exists_of_mem_right {R : α → β → Prop} {xs : List α} {ys : List β}
    (h : List.Forall₂ R xs ys) (y : β) (hy : y ∈ ys) : ∃ x ∈ xs, R x y := by
  induction h with
  | nil => cases hy
  | cons hx _ ih =>
    rcases List.mem_cons.mp hy with rfl | hy
    · exact ⟨_, List.mem_cons_self, hx⟩
    · obtain ⟨x, hmem, hx⟩ := ih hy
      exact ⟨x, List.mem_cons_of_mem _ hmem, hx⟩

theorem exists_getElem?_of_forall₂ {R : α → β → Prop} {xs : List α} {ys : List β}
    (h : List.Forall₂ R xs ys) (i : Nat) (x : α) (hx : xs[i]? = some x) :
    ∃ y, ys[i]? = some y ∧ R x y := by
  obtain ⟨hlength, hget⟩ := List.forall₂_iff_get.mp h
  obtain ⟨hi, rfl⟩ := List.getElem?_eq_some_iff.mp hx
  exact ⟨_, List.getElem?_eq_getElem (hlength ▸ hi), hget i hi _⟩

/-- Item by item from the first list over the second one to the third. -/
theorem forall₂_through {γ : Type} {R : α → β → Prop} {S : β → γ → Prop} {T : α → γ → Prop}
    {xs : List α} {ys : List β} {zs : List γ} (hR : List.Forall₂ R xs ys)
    (hS : List.Forall₂ S ys zs) (h : ∀ x ∈ xs, ∀ y z, R x y → S y z → T x z) :
    List.Forall₂ T xs zs := by
  induction hR generalizing zs with
  | nil =>
    cases hS
    exact List.Forall₂.nil
  | cons hx _ ih =>
    cases hS with
    | cons hy hrest =>
      exact List.Forall₂.cons (h _ List.mem_cons_self _ _ hx hy)
        (ih hrest fun x hmem => h x (List.mem_cons_of_mem _ hmem))

theorem flatMap_eq_of_forall₂ {γ : Type} {xs : List α} {ys : List β} (f : α → List γ)
    (g : β → List γ) (h : List.Forall₂ (fun x y => f x = g y) xs ys) :
    xs.flatMap f = ys.flatMap g := by
  induction h with
  | nil => rfl
  | cons hxy _ ih => rw [List.flatMap_cons, List.flatMap_cons, hxy, ih]

theorem exists_of_mem_mapM (f : α → Except ε β) (xs : List α) (ys : List β)
    (h : xs.mapM f = .ok ys) (y : β) (hy : y ∈ ys) : ∃ x ∈ xs, f x = .ok y :=
  exists_of_mem_right ((mapM_eq_ok_iff f xs ys).mp h) y hy

/-! ## Steps that leave out -/

/-- What a list leaves out aside, its items come out one for one. -/
theorem forall₂_filterMap (f : α → Option β) (p : α → Bool) (hp : ∀ x, p x = (f x).isSome)
    (xs : List α) : List.Forall₂ (fun x y => f x = some y) (xs.filter p) (xs.filterMap f) := by
  induction xs with
  | nil => exact List.Forall₂.nil
  | cons x xs ih =>
    cases hx : f x with
    | none =>
      rw [List.filterMap_cons_none hx, List.filter_cons_of_neg (by simp [hp, hx])]
      exact ih
    | some y =>
      rw [List.filterMap_cons_some hx, List.filter_cons_of_pos (by simp [hp, hx])]
      exact List.Forall₂.cons hx ih

theorem filterMap_cons_eq_append (f : α → Option β) (x : α) (xs : List α) :
    (x :: xs).filterMap f = (f x).toList ++ xs.filterMap f := by
  rw [List.filterMap_cons]
  cases f x <;> rfl

/-! ## Warnings beside a value -/

namespace Logged

@[simp] theorem value_pure (a : α) : (pure a : Logged α).value = a := rfl

@[simp] theorem value_bind (x : Logged α) (f : α → Logged β) :
    (x >>= f).value = (f x.value).value := rfl

instance : LawfulMonad Logged := LawfulMonad.mk' Logged
  (fun x => by simp [Functor.map])
  (fun a f => by simp [bind, pure])
  (fun x f g => by simp [bind])

theorem value_mapM (f : α → Logged β) (xs : List α) :
    (xs.mapM f).value = xs.map fun x => (f x).value := by
  induction xs with
  | nil => rfl
  | cons x xs ih => rw [List.mapM_cons, value_bind, value_bind, ih]; rfl

theorem warnings_mapM (f : α → Logged β) (xs : List α) :
    (xs.mapM f).warnings = xs.flatMap fun x => (f x).warnings := by
  induction xs with
  | nil => rfl
  | cons x xs ih =>
    rw [List.mapM_cons, List.flatMap_cons, ← ih]
    show (f x).warnings ++ ((xs.mapM f).warnings ++ []) = _
    rw [List.append_nil]

end Logged

end PlayScaffold
