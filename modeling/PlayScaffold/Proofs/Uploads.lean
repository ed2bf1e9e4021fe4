import PlayScaffold.Operation.Passes

/-!
# Substituting uploads

Both lists of an operation are walked, and a record may be met any number of times.  Each record
comes out as if it had been looked at once: the pass depends on where a record is listed, not on
how often or in which order.

    ls.substituteUploads.records[i]? =
      ls.records[i]?.map fun p => if ls.Uploaded i p then asUpload p else p
                                                                 (records_substituteUploads)
-/

namespace PlayScaffold.ParameterLists

theorem eq_of_parts (ls ks : ParameterLists) (hrecords : ls.records = ks.records)
    (hall : ls.all = ks.all) (hform : ls.form = ks.form) : ls = ks := by
  cases ls
  cases ks
  simp only at hrecords hall hform
  subst hrecords hall hform
  rfl

/-! ## Walking a list of numbers -/

/-- The lists with every numbered record changed, one number after the other. -/
def editAll (ls : ParameterLists) (f : Parameter → Parameter) (numbers : List Nat) :
    ParameterLists :=
  numbers.foldl (fun acc i => acc.editRecord i f) ls

theorem all_editAll (ls : ParameterLists) (f : Parameter → Parameter) (numbers : List Nat) :
    (ls.editAll f numbers).all = ls.all := by
  induction numbers generalizing ls with
  | nil => rfl
  | cons i rest ih => exact ih (ls.editRecord i f)

theorem form_editAll (ls : ParameterLists) (f : Parameter → Parameter) (numbers : List Nat) :
    (ls.editAll f numbers).form = ls.form := by
  induction numbers generalizing ls with
  | nil => rfl
  | cons i rest ih => exact ih (ls.editRecord i f)

/-- A change that does nothing when repeated is made once to each record that is numbered. -/
theorem records_editAll (f : Parameter → Parameter) (hf : ∀ p, f (f p) = f p) (numbers : List Nat) :
    ∀ (ls : ParameterLists) (i : Nat), (ls.editAll f numbers).records[i]? =
      ls.records[i]?.map fun p => if i ∈ numbers then f p else p := by
  induction numbers with
  | nil => intro ls i; simp [editAll]
  | cons j rest ih =>
    intro ls i
    show ((ls.editRecord j f).editAll f rest).records[i]? = _
    rw [ih, editRecord, List.getElem?_modify]
    cases ls.records[i]? with
    | none => rfl
    | some p =>
      by_cases hij : j = i
      · subst hij
        by_cases hrest : j ∈ rest <;> simp [hrest, hf]
      · have hji : i ≠ j := fun h => hij h.symm
        by_cases hrest : i ∈ rest <;> simp [hrest, hij, hji]

/-! ## The pass -/

def uploadIf (test : Parameter → Bool) (p : Parameter) : Parameter :=
  if test p then asUpload p else p

theorem uploadIf_uploadIf (test : Parameter → Bool) (htest : ∀ p, test (asUpload p) = test p)
    (p : Parameter) : uploadIf test (uploadIf test p) = uploadIf test p := by
  unfold uploadIf
  by_cases h : test p = true
  · rw [if_pos h, if_pos ((htest p).trans h)]
    rfl
  · rw [if_neg h, if_neg h]

/-- A parameter becomes a file where it is listed and passes the test. -/
theorem uploadIf_of_listed (test : Parameter → Bool) (listed : Prop) [Decidable listed]
    (p : Parameter) :
    (if listed then uploadIf test p else p) =
      if listed ∧ test p = true then asUpload p else p := by
  unfold uploadIf
  by_cases h : listed
  · rw [if_pos h]
    simp only [h, true_and]
  · rw [if_neg h, if_neg fun hboth => h hboth.1]

theorem substituteUploads_eq (ls : ParameterLists) :
    ls.substituteUploads =
      (ls.editAll (uploadIf Parameter.isUpload) ls.all).editAll (uploadIf Parameter.isFile)
        ls.form := rfl

theorem all_substituteUploads (ls : ParameterLists) : ls.substituteUploads.all = ls.all := by
  rw [substituteUploads_eq, all_editAll, all_editAll]

theorem form_substituteUploads (ls : ParameterLists) : ls.substituteUploads.form = ls.form := by
  rw [substituteUploads_eq, form_editAll, form_editAll]

/-- Is the record of a number an uploaded file, by where it is listed and what it holds? -/
def Uploaded (ls : ParameterLists) (i : Nat) (p : Parameter) : Prop :=
  i ∈ ls.all ∧ p.isUpload = true ∨ i ∈ ls.form ∧ p.isFile = true

instance (ls : ParameterLists) (i : Nat) (p : Parameter) : Decidable (ls.Uploaded i p) := by
  unfold Uploaded; infer_instance

/-- Every record comes out as if it had been looked at once. -/
theorem records_substituteUploads (ls : ParameterLists) (i : Nat) :
    ls.substituteUploads.records[i]? =
      ls.records[i]?.map fun p => if ls.Uploaded i p then asUpload p else p := by
  rw [substituteUploads_eq, records_editAll _ (uploadIf_uploadIf _ fun _ => rfl),
    records_editAll _ (uploadIf_uploadIf _ fun _ => rfl), Option.map_map]
  congr 1
  funext p
  rw [Function.comp_apply, uploadIf_of_listed, uploadIf_of_listed]
  by_cases hall : i ∈ ls.all ∧ p.isUpload = true
  · -- a file of the first walk stays one in the second
    rw [if_pos hall, if_pos (show ls.Uploaded i p from Or.inl hall)]
    exact ite_self _
  · rw [if_neg hall]
    by_cases hform : i ∈ ls.form ∧ p.isFile = true
    · rw [if_pos hform, if_pos (show ls.Uploaded i p from Or.inr hform)]
    · rw [if_neg hform, if_neg (show ¬ ls.Uploaded i p from not_or.mpr ⟨hall, hform⟩)]

theorem substituteUploads_substituteUploads (ls : ParameterLists) :
    ls.substituteUploads.substituteUploads = ls.substituteUploads := by
  have hall := all_substituteUploads ls
  have hform := form_substituteUploads ls
  refine eq_of_parts _ _ (List.ext_getElem? fun i => ?_) (all_substituteUploads _)
    (form_substituteUploads _)
  rw [records_substituteUploads ls.substituteUploads, records_substituteUploads ls,
    Option.map_map]
  congr 1
  funext p
  have hkeeps : ∀ q, ls.substituteUploads.Uploaded i q ↔ ls.Uploaded i q := by
    intro q
    rw [Uploaded, Uploaded, hall, hform]
  by_cases hp : ls.Uploaded i p
  · have hq : ls.Uploaded i (asUpload p) := hp
    simp only [Function.comp_apply, hkeeps, if_pos hp, if_pos hq]
    rfl
  · simp only [Function.comp_apply, hkeeps, if_neg hp]

end PlayScaffold.ParameterLists
