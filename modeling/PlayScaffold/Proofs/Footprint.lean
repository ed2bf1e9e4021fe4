import PlayScaffold.Operation.InPlace
import PlayScaffold.Proofs.Uploads
import Mathlib.Data.List.Nodup

/-!
# The records that a step reaches

An operation reaches the records that its lists name and no others.  A step edits those, may add new
ones behind all records that there are, and lists nothing else afterwards:

    ls.Within (step.paramsAfter fields ls)                               (within_paramsAfter)

Its lists stay linked: all parameters have records of their own, and a form parameter is one of them
or has a record of its own (`linked_paramsAfter`).
-/

namespace PlayScaffold.ParameterLists

/-- The numbers in either list. -/
def listed (ls : ParameterLists) : List Nat := ls.all ++ ls.form

theorem lt_of_listed (ls : ParameterLists) (i : Nat) (h : i ∈ ls.listed) : i < ls.records.length :=
  ls.inRange i h

/-! ## What the primitive changes do -/

section Primitive

variable (ls : ParameterLists)

theorem all_list_form (i : Nat) (h : i < ls.records.length) : (ls.list .form i h).all = ls.all :=
  rfl

theorem form_list_form (i : Nat) (h : i < ls.records.length) :
    (ls.list .form i h).form = ls.form ++ [i] := rfl

theorem all_push_all (p : Parameter) : (ls.push .all p).all = ls.all ++ [ls.records.length] := rfl

theorem form_push_all (p : Parameter) : (ls.push .all p).form = ls.form := rfl

theorem all_push_form (p : Parameter) : (ls.push .form p).all = ls.all := rfl

theorem form_push_form (p : Parameter) : (ls.push .form p).form = ls.form ++ [ls.records.length] :=
  rfl

theorem all_add (p : Parameter) : (ls.add p).all = ls.all ++ [ls.records.length] := by
  simp only [add]
  split <;> rfl

theorem form_add (p : Parameter) :
    (ls.add p).form = if p.isFormParam then ls.form ++ [ls.records.length] else ls.form := by
  simp only [add]
  split <;> rfl

theorem all_edit (view : ParameterView) (place : Nat) (f : Parameter → Parameter) :
    (ls.edit view place f).all = ls.all := by
  unfold edit
  split <;> rfl

theorem form_edit (view : ParameterView) (place : Nat) (f : Parameter → Parameter) :
    (ls.edit view place f).form = ls.form := by
  unfold edit
  split <;> rfl

end Primitive

/-! ## Staying within the own records -/

/-- The second lists come from the first ones by changes to the records that these name and by new
records behind all others. -/
structure Within (ls ks : ParameterLists) : Prop where
  grows : ls.records.length ≤ ks.records.length
  keeps : ∀ i, i < ls.records.length → i ∉ ls.listed → ks.records[i]? = ls.records[i]?
  names : ∀ i, i ∈ ks.listed → i ∈ ls.listed ∨ ls.records.length ≤ i

theorem Within.refl (ls : ParameterLists) : ls.Within ls where
  grows := Nat.le_refl _
  keeps _ _ _ := rfl
  names _ hi := Or.inl hi

theorem within_edit (ls : ParameterLists) (view : ParameterView) (place : Nat)
    (f : Parameter → Parameter) : ls.Within (ls.edit view place f) where
  grows := Nat.le_of_eq (ls.length_edit view place f).symm
  keeps i _ hi := by
    unfold edit
    split
    · next j hj =>
      have hmem : j ∈ ls.listed := by
        have := List.mem_of_getElem? hj
        cases view with
        | all => exact List.mem_append_left _ this
        | form => exact List.mem_append_right _ this
      have hne : j ≠ i := fun heq => hi (heq ▸ hmem)
      simp [editRecord, hne]
    · rfl
  names i hi := by
    rw [listed, all_edit, form_edit] at hi
    exact Or.inl hi

theorem mem_or_le_of_mem_concat (numbers : List Nat) (n i : Nat) (h : i ∈ numbers ++ [n]) :
    i ∈ numbers ∨ n ≤ i := by
  rcases List.mem_append.mp h with h | h
  · exact Or.inl h
  · rw [List.mem_singleton.mp h]
    exact Or.inr (Nat.le_refl n)

/-- Lists that name old or new records, list by list. -/
theorem names_of_lists (ls ks : ParameterLists)
    (hall : ∀ i, i ∈ ks.all → i ∈ ls.all ∨ ls.records.length ≤ i)
    (hform : ∀ i, i ∈ ks.form → i ∈ ls.form ∨ ls.records.length ≤ i) (i : Nat)
    (h : i ∈ ks.listed) : i ∈ ls.listed ∨ ls.records.length ≤ i := by
  rcases List.mem_append.mp h with h | h
  · exact (hall i h).imp_left (List.mem_append_left _)
  · exact (hform i h).imp_left (List.mem_append_right _)

theorem within_push (ls : ParameterLists) (view : ParameterView) (p : Parameter) :
    ls.Within (ls.push view p) where
  grows := by rw [records_push, List.length_append]; omega
  keeps i hi _ := by rw [records_push, List.getElem?_append_left hi]
  names i hi := by
    cases view with
    | all =>
      exact names_of_lists ls (ls.push .all p) (mem_or_le_of_mem_concat _ _) (fun _ => Or.inl) i hi
    | form =>
      exact names_of_lists ls (ls.push .form p) (fun _ => Or.inl) (mem_or_le_of_mem_concat _ _) i hi

theorem within_add (ls : ParameterLists) (p : Parameter) : ls.Within (ls.add p) where
  grows := by rw [records_add, List.length_append]; omega
  keeps i hi _ := by rw [records_add, List.getElem?_append_left hi]
  names i hi := by
    refine names_of_lists ls _ ?_ ?_ i hi
    · rw [all_add]
      exact mem_or_le_of_mem_concat _ _
    · rw [form_add]
      split
      · exact mem_or_le_of_mem_concat _ _
      · exact fun _ => Or.inl

theorem within_substituteUploads (ls : ParameterLists) : ls.Within ls.substituteUploads where
  grows := Nat.le_of_eq ls.length_substituteUploads.symm
  keeps i _ hi := by
    have hnot : ∀ p, ¬ ls.Uploaded i p := by
      rintro p (⟨hall, -⟩ | ⟨hform, -⟩)
      · exact hi (List.mem_append_left _ hall)
      · exact hi (List.mem_append_right _ hform)
    rw [records_substituteUploads]
    simp only [hnot, if_false, Option.map_id']
  names i hi := by
    rw [listed, all_substituteUploads, form_substituteUploads] at hi
    exact Or.inl hi

/-- Lists behind a store name none of its records. -/
theorem length_le_of_listed_behind (ls : ParameterLists) (store : List Parameter) (i : Nat)
    (h : i ∈ (ls.behind store).listed) : store.length ≤ i := by
  rw [listed, behind, ← List.map_append, List.mem_map] at h
  obtain ⟨j, -, rfl⟩ := h
  omega

theorem within_behind (ls ks : ParameterLists) : ls.Within (ks.behind ls.records) where
  grows := by rw [behind, List.length_append]; omega
  keeps i hi _ := by rw [behind, List.getElem?_append_left hi]
  names i hi := Or.inr (ks.length_le_of_listed_behind ls.records i hi)

/-- **A step stays within the records of its operation.** -/
theorem within_paramsAfter (step : Step) (fields : Operation) (ls : ParameterLists) :
    ls.Within (step.paramsAfter fields ls) := by
  cases step with
  | edit view place f => exact within_edit ls view place f
  | push view p => exact within_push ls view p
  | add p => exact within_add ls p
  | become r => exact within_behind ls r.toOperation.params
  | simplify primitives => exact within_substituteUploads ls
  | transform primitives =>
    simp only [Step.paramsAfter]
    split
    · exact within_substituteUploads ls
    · exact Within.refl ls
  | set f => exact Within.refl ls
  | resolve schemes => exact Within.refl ls

/-! ## Links -/

/-- The form parameters that are not among all parameters. -/
def orphans (ls : ParameterLists) : List Nat := ls.form.filter (· ∉ ls.all)

/-- No record is listed twice, but that form parameters may be among all parameters. -/
structure Linked (ls : ParameterLists) : Prop where
  all : ls.all.Nodup
  orphans : ls.orphans.Nodup

theorem orphans_congr (ls ks : ParameterLists) (hall : ks.all = ls.all)
    (hform : ks.form = ls.form) : ks.orphans = ls.orphans := by
  rw [orphans, orphans, hall, hform]

theorem Linked.congr (ls ks : ParameterLists) (h : ls.Linked) (hall : ks.all = ls.all)
    (hform : ks.form = ls.form) : ks.Linked := by
  refine ⟨?_, ?_⟩
  · rw [hall]
    exact h.all
  · rw [orphans_congr ls ks hall hform]
    exact h.orphans

theorem length_notMem_all (ls : ParameterLists) : ls.records.length ∉ ls.all := by
  intro h
  have := ls.inRange _ (List.mem_append_left _ h)
  omega

theorem length_notMem_form (ls : ParameterLists) : ls.records.length ∉ ls.form := by
  intro h
  have := ls.inRange _ (List.mem_append_right _ h)
  omega

theorem nodup_append_singleton (numbers : List Nat) (i : Nat) (h : numbers.Nodup)
    (hi : i ∉ numbers) : (numbers ++ [i]).Nodup := by
  rw [← List.concat_eq_append]
  exact List.Nodup.concat hi h

/-- A new record among all parameters takes no orphan's place. -/
theorem filter_notMem_concat (ls : ParameterLists) :
    ls.form.filter (· ∉ ls.all ++ [ls.records.length]) = ls.orphans := by
  refine List.filter_congr fun i hi => ?_
  have hne : i ≠ ls.records.length := fun heq => ls.length_notMem_form (heq ▸ hi)
  simp [hne]

theorem linked_push (ls : ParameterLists) (view : ParameterView) (p : Parameter) (h : ls.Linked) :
    (ls.push view p).Linked := by
  cases view with
  | all =>
    refine ⟨nodup_append_singleton _ _ h.all ls.length_notMem_all, ?_⟩
    rw [orphans, form_push_all, all_push_all, filter_notMem_concat]
    exact h.orphans
  | form =>
    refine ⟨h.all, ?_⟩
    have hnew : [ls.records.length].filter (· ∉ ls.all) = [ls.records.length] := by
      simp [ls.length_notMem_all]
    rw [orphans, form_push_form, all_push_form, List.filter_append, hnew]
    refine nodup_append_singleton _ _ h.orphans fun hmem => ?_
    exact ls.length_notMem_form (List.mem_filter.mp hmem).1

theorem linked_add (ls : ParameterLists) (p : Parameter) (h : ls.Linked) : (ls.add p).Linked := by
  refine ⟨?_, ?_⟩
  · rw [all_add]
    exact nodup_append_singleton _ _ h.all ls.length_notMem_all
  · have hnew : [ls.records.length].filter (· ∉ ls.all ++ [ls.records.length]) = [] := by simp
    rw [orphans, form_add, all_add]
    split
    · rw [List.filter_append, hnew, List.append_nil, filter_notMem_concat]
      exact h.orphans
    · rw [filter_notMem_concat]
      exact h.orphans

theorem linked_addForm (ls : ParameterLists) (place : Option Nat) (p : Parameter) (h : ls.Linked) :
    (ls.addForm place p).Linked := by
  cases place with
  | none => exact linked_push ls .form p h
  | some k =>
    by_cases hk : k < ls.all.length
    · have hold : [ls.all[k]].filter (· ∉ ls.all) = [] := by simp
      rw [addForm, dif_pos hk]
      refine ⟨h.all, ?_⟩
      rw [orphans, form_list_form, all_list_form, List.filter_append, hold, List.append_nil]
      exact h.orphans
    · rw [addForm, dif_neg hk]
      exact linked_push ls .form p h

theorem linked_foldl {α : Type} (f : ParameterLists → α → ParameterLists)
    (hf : ∀ ls a, ls.Linked → (f ls a).Linked) (items : List α) :
    ∀ ls : ParameterLists, ls.Linked → (items.foldl f ls).Linked := by
  induction items with
  | nil => intro ls h; exact h
  | cons a rest ih => intro ls h; exact ih (f ls a) (hf ls a h)

theorem linked_ofAll (all : List Parameter) : (ofAll all).Linked :=
  linked_foldl _ (fun ls p h => linked_push ls .all p h) all .empty
    ⟨List.nodup_nil, List.nodup_nil⟩

theorem linked_ofValues (all form : List Parameter) : (ofValues all form).Linked :=
  linked_foldl _ (fun ls p h => linked_addForm ls (placeOf all p.baseName) p h) form _
    (linked_ofAll all)

theorem linked_copy (ls : ParameterLists) : ls.copy.Linked :=
  linked_foldl _ (fun c i h => linked_addForm c (ls.all.idxOf? i) (ls.record i) h) ls.form _
    (linked_ofAll _)

theorem linked_behind (ls : ParameterLists) (store : List Parameter) (h : ls.Linked) :
    (ls.behind store).Linked := by
  have hinjective : Function.Injective (store.length + · : Nat → Nat) := by
    intro i j hij
    simp only at hij
    omega
  have horphans : (ls.behind store).orphans = ls.orphans.map (store.length + ·) := by
    simp only [orphans, behind, List.filter_map]
    congr 1
    refine List.filter_congr fun i _ => ?_
    exact decide_eq_decide.mpr (not_congr (List.mem_map_of_injective hinjective))
  refine ⟨h.all.map hinjective, ?_⟩
  rw [horphans]
  exact h.orphans.map hinjective

theorem linked_paramsAfter (step : Step) (fields : Operation) (ls : ParameterLists)
    (h : ls.Linked) : (step.paramsAfter fields ls).Linked := by
  have huploads : ls.substituteUploads.Linked :=
    h.congr ls _ ls.all_substituteUploads ls.form_substituteUploads
  cases step with
  | edit view place f => exact h.congr ls _ (ls.all_edit view place f) (ls.form_edit view place f)
  | push view p => exact linked_push ls view p h
  | add p => exact linked_add ls p h
  | become r => exact linked_behind _ _ (linked_ofValues r.allParams r.formParams)
  | simplify primitives => exact huploads
  | transform primitives =>
    simp only [Step.paramsAfter]
    split
    · exact huploads
    · exact h
  | set f => exact h
  | resolve schemes => exact h

end PlayScaffold.ParameterLists
