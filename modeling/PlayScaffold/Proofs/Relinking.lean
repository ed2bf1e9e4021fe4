import PlayScaffold.Proofs.FormLinks
import PlayScaffold.Proofs.Isolation

/-!
# Which records the parameters have that are read

The two lists of an operation are read apart.  All parameters get records of their own; each form
parameter then is the first form field of its name among them, or has one more record of its own if
there is none (`LinkedFrom`).  This says of any two entries whether they are one record, and so what
an edit of either is seen through (`LinkedFrom.edit_linked`, `LinkedFrom.edit_own`):

    LinkedFrom all form (ofValues all form)                              (linkedFrom_ofValues)

In a session the records are new ones, which no other operation names (`Session.adopt_linkedFrom`).
-/

namespace PlayScaffold

namespace ParameterLists

/-! ## The first form field of a name -/

/-- The first form field of a name among all parameters stands at this place. -/
def FirstField (all : List Parameter) (name : String) (k : Nat) : Prop :=
  ∃ hk : k < all.length, all[k].isFormParam = true ∧ all[k].baseName = name ∧
    ∀ j (hj : j < k), all[j].isFormParam = true → all[j].baseName ≠ name

def HasField (all : List Parameter) (name : String) : Prop :=
  ∃ p ∈ all, p.isFormParam = true ∧ p.baseName = name

instance (all : List Parameter) (name : String) : Decidable (HasField all name) := by
  unfold HasField; infer_instance

theorem placeOf_eq_some_iff (all : List Parameter) (name : String) (k : Nat) :
    placeOf all name = some k ↔ FirstField all name k := by
  rw [placeOf, List.findIdx?_eq_some_iff_getElem, FirstField]
  simp only [Bool.and_eq_true_iff, beq_iff_eq, not_and, and_assoc]

theorem FirstField.unique {all : List Parameter} {name : String} {k l : Nat}
    (h : FirstField all name k) (h' : FirstField all name l) : k = l := by
  rw [← placeOf_eq_some_iff] at h h'
  exact Option.some.inj (h.symm.trans h')

theorem placeOf_eq_none_iff (all : List Parameter) (name : String) :
    placeOf all name = none ↔ ¬ HasField all name := by
  rw [placeOf, List.findIdx?_eq_none_iff, HasField]
  simp

/-! ## Linking -/

/-- The two lists hold what was read: all parameters in order, each in a record of its own; each
form parameter is the very record of the first form field of its name among them, or else a record
with the value that was read, which stands nowhere else. -/
structure LinkedFrom (all form : List Parameter) (ls : ParameterLists) : Prop where
  values : ls.values .all = all
  apart : ls.all.Nodup
  length : ls.form.length = form.length
  linked : ∀ i (hi : i < form.length), HasField all form[i].baseName →
    ∃ k, FirstField all form[i].baseName k ∧ ls.form[i]? = ls.all[k]?
  own : ∀ i (hi : i < form.length), ¬ HasField all form[i].baseName →
    ∃ number, ls.form[i]? = some number ∧ ls.record number = form[i] ∧ number ∉ ls.all ∧
      ∀ j, ls.form[j]? = some number → j = i

/-- The place of a form parameter among all parameters is that of its name. -/
theorem idxOf?_form_ofValues (all form : List Parameter) (i : Nat) (hi : i < form.length)
    (hi' : i < (ofValues all form).form.length) :
    (ofValues all form).all.idxOf? (ofValues all form).form[i] = placeOf all form[i].baseName := by
  have hlinks := congrArg (·[i]?) (links_ofValues all form)
  simpa only [links, List.getElem?_map, List.getElem?_eq_getElem hi,
    List.getElem?_eq_getElem hi', Option.map_some, Option.some.injEq] using hlinks

/-- An orphan stands in the form once. -/
theorem Linked.eq_of_orphan {ls : ParameterLists} (h : ls.Linked) (i j : Nat)
    (hi : i < ls.form.length) (hj : j < ls.form.length) (heq : ls.form[i] = ls.form[j])
    (horphan : ls.form[i] ∉ ls.all) : i = j := by
  have hpairs := h.orphans
  rw [ParameterLists.orphans, List.Nodup, List.pairwise_filter,
    List.pairwise_iff_getElem] at hpairs
  have hne : ∀ k l (hk : k < ls.form.length) (hl : l < ls.form.length), k < l →
      ls.form[k] = ls.form[l] → ls.form[k] ∈ ls.all := by
    intro k l hk hl hlt hkl
    by_contra hmem
    exact hpairs k l hk hl hlt (by simpa using hmem) (by simpa [hkl] using hmem) hkl
  rcases Nat.lt_trichotomy i j with hlt | heqij | hgt
  · exact absurd (hne i j hi hj hlt heq) horphan
  · exact heqij
  · exact absurd (hne j i hj hi hgt heq.symm) (heq ▸ horphan)

/-- **What is read is linked by name.** -/
theorem linkedFrom_ofValues (all form : List Parameter) :
    LinkedFrom all form (ofValues all form) := by
  have hlinked := linkedByName_ofValues all form
  have hlength : (ofValues all form).form.length = form.length := by
    have hlinks := congrArg List.length (links_ofValues all form)
    rwa [links, List.length_map, List.length_map] at hlinks
  refine ⟨hlinked.values, ?_, hlength, fun i hi hfield => ?_, fun i hi hnone => ?_⟩
  · rw [hlinked.all]
    exact List.nodup_range
  · have hi' : i < (ofValues all form).form.length := hlength ▸ hi
    obtain ⟨k, hplace⟩ := Option.ne_none_iff_exists'.mp
      (mt (placeOf_eq_none_iff all form[i].baseName).mp (not_not.mpr hfield))
    have hidx := (idxOf?_form_ofValues all form i hi hi').trans hplace
    obtain ⟨hk, hnumber, -⟩ := List.idxOf?_eq_some_iff.mp hidx
    refine ⟨k, (placeOf_eq_some_iff _ _ _).mp hplace, ?_⟩
    rw [List.getElem?_eq_getElem hi', List.getElem?_eq_getElem hk, hnumber]
  · have hi' : i < (ofValues all form).form.length := hlength ▸ hi
    have hplace := (placeOf_eq_none_iff all form[i].baseName).mpr hnone
    have horphan : (ofValues all form).form[i] ∉ (ofValues all form).all :=
      List.idxOf?_eq_none_iff.mp ((idxOf?_form_ofValues all form i hi hi').trans hplace)
    refine ⟨_, List.getElem?_eq_getElem hi', ?_, horphan, fun j hj => ?_⟩
    · have hvalue := congrArg (·[i]?) (values_form_ofValues all form)
      simpa only [values, numbers, List.getElem?_map, List.getElem?_eq_getElem hi,
        List.getElem?_eq_getElem hi', Option.map_some, Option.some.injEq, hplace,
        Option.elim_none] using hvalue
    · obtain ⟨hj', hsame⟩ := List.getElem?_eq_some_iff.mp hj
      exact ((linked_ofValues all form).eq_of_orphan i j hi' hj' hsame.symm horphan).symm

/-! ## Edits -/

/-- An edit changes the record that it is made to and no other. -/
theorem record_edit (ls : ParameterLists) (view : ParameterView) (place number : Nat)
    (f : Parameter → Parameter) (h : (ls.numbers view)[place]? = some number) (i : Nat) :
    (ls.edit view place f).record i = if i = number then f (ls.record number) else ls.record i := by
  have hlt : number < ls.records.length := by
    refine ls.inRange number ?_
    cases view with
    | all => exact List.mem_append_left _ (List.mem_of_getElem? h)
    | form => exact List.mem_append_right _ (List.mem_of_getElem? h)
  have hedit : ls.edit view place f = ls.editRecord number f := by rw [edit, h]
  rw [hedit, record, record, record, List.getD_eq_getElem?_getD, List.getD_eq_getElem?_getD,
    List.getD_eq_getElem?_getD, editRecord, List.getElem?_modify]
  by_cases hi : i = number
  · subst hi
    rw [if_pos rfl, List.getElem?_eq_getElem hlt]
    simp
  · simp [hi, Ne.symm hi]

theorem numbers_edit (ls : ParameterLists) (view : ParameterView) (place : Nat)
    (f : Parameter → Parameter) : (ls.edit view place f).numbers = ls.numbers := by
  funext v
  cases v with
  | all => exact ls.all_edit view place f
  | form => exact ls.form_edit view place f

theorem getElem?_values (ls : ParameterLists) (view : ParameterView) (place number : Nat)
    (h : (ls.numbers view)[place]? = some number) :
    (ls.values view)[place]? = some (ls.record number) := by
  rw [values, List.getElem?_map, h]
  rfl

/-- What an edit is seen through: the entries that are the record it is made to. -/
theorem getElem?_values_edit (ls : ParameterLists) (view : ParameterView) (place number : Nat)
    (f : Parameter → Parameter) (h : (ls.numbers view)[place]? = some number)
    (v : ParameterView) (i : Nat) : ((ls.edit view place f).values v)[i]? =
      if (ls.numbers v)[i]? = some number then some (f (ls.record number))
      else (ls.values v)[i]? := by
  rw [values, values, numbers_edit, List.getElem?_map, List.getElem?_map]
  cases hi : (ls.numbers v)[i]? with
  | none => rfl
  | some j =>
    simp only [Option.map_some, Option.some.injEq, record_edit ls view place number f h]
    split <;> rfl

variable {all form : List Parameter} {ls : ParameterLists}

/-- **A form parameter with a counterpart** and the first form field of its name are edited as one:
either edit is seen through both lists. -/
theorem LinkedFrom.edit_linked (h : LinkedFrom all form ls) (i : Nat) (hi : i < form.length)
    (hfield : HasField all form[i].baseName) (f : Parameter → Parameter) :
    ∃ k, FirstField all form[i].baseName k ∧ ls.edit .form i f = ls.edit .all k f ∧
      ((ls.edit .form i f).values .all)[k]? = all[k]?.map f ∧
      ((ls.edit .form i f).values .form)[i]? = all[k]?.map f := by
  obtain ⟨k, hfirst, hsame⟩ := h.linked i hi hfield
  have hi' : i < ls.form.length := h.length.symm ▸ hi
  have hform : (ls.numbers .form)[i]? = some ls.form[i] := List.getElem?_eq_getElem hi'
  have hall : (ls.numbers .all)[k]? = some ls.form[i] := hsame.symm.trans hform
  have hvalue : some (ls.record ls.form[i]) = all[k]? := by
    rw [← ls.getElem?_values .all k _ hall, h.values]
  refine ⟨k, hfirst, ?_, ?_, ?_⟩
  · rw [edit, edit, hform, hall]
  · rw [getElem?_values_edit ls .form i _ f hform, if_pos hall, ← hvalue]
    rfl
  · rw [getElem?_values_edit ls .form i _ f hform, if_pos hform, ← hvalue]
    rfl

/-- **A form parameter without a counterpart** is edited for itself: no other entry of either list
changes. -/
theorem LinkedFrom.edit_own (h : LinkedFrom all form ls) (i : Nat) (hi : i < form.length)
    (hnone : ¬ HasField all form[i].baseName) (f : Parameter → Parameter) :
    (ls.edit .form i f).values .all = all ∧ ∀ j, ((ls.edit .form i f).values .form)[j]? =
      if j = i then some (f form[i]) else (ls.values .form)[j]? := by
  obtain ⟨number, hform, hrecord, hnot, honce⟩ := h.own i hi hnone
  refine ⟨?_, fun j => ?_⟩
  · rw [← h.values]
    refine List.ext_getElem? fun k => ?_
    rw [getElem?_values_edit ls .form i number f hform, if_neg]
    exact fun hk => hnot (List.mem_of_getElem? hk)
  · rw [getElem?_values_edit ls .form i number f hform, hrecord]
    by_cases hj : j = i
    · rw [if_pos hj, if_pos (hj ▸ hform)]
    · have hother : (ls.numbers .form)[j]? ≠ some number := fun hnumber => hj (honce j hnumber)
      rw [if_neg hj, if_neg hother]

/-! ## Other records -/

/-- Which entries are one record does not depend on where the records stand. -/
theorem LinkedFrom.alike (h : LinkedFrom all form ls) {ks : ParameterLists} (halike : ls.Alike ks) :
    LinkedFrom all form ks := by
  have hvalues := halike.values
  obtain ⟨R, hR⟩ := halike
  refine ⟨(hvalues .all).symm.trans h.values, (List.rel_nodup hR.unique hR.all).mp h.apart,
    hR.form.length_eq.symm.trans h.length, fun i hi hfield => ?_, fun i hi hnone => ?_⟩
  · obtain ⟨k, hfirst, hsame⟩ := h.linked i hi hfield
    have hi' : i < ls.form.length := h.length.symm ▸ hi
    have hform : ls.form[i]? = some ls.form[i] := List.getElem?_eq_getElem hi'
    obtain ⟨a, ha, hia⟩ := exists_getElem?_of_forall₂ hR.form i _ hform
    obtain ⟨b, hb, hib⟩ := exists_getElem?_of_forall₂ hR.all k _ (hsame.symm.trans hform)
    exact ⟨k, hfirst, by rw [ha, hb, hR.unique.2 hia hib]⟩
  · obtain ⟨number, hform, hrecord, hnot, honce⟩ := h.own i hi hnone
    obtain ⟨a, ha, hia⟩ := exists_getElem?_of_forall₂ hR.form i number hform
    refine ⟨a, ha, (hR.record number a hia).symm.trans hrecord, fun hmem => ?_, fun j hj => ?_⟩
    · obtain ⟨other, hother, hoa⟩ := exists_of_mem_right hR.all a hmem
      exact hnot (hR.unique.1 hoa hia ▸ hother)
    · obtain ⟨other, hother, hoa⟩ := exists_getElem?_of_forall₂ hR.form.flip j a hj
      exact honce j (hR.unique.1 hoa hia ▸ hother)

end ParameterLists

namespace Session

open ParameterLists (LinkedFrom HasField FirstField)

/-! ## In a session -/

/-- **An operation that is read into a session** has records that no other operation names.  All its
parameters are records apart from each other, which hold what was read; each form parameter is the
very record of the first form field of its name among them, so that an edit of either is one of
both; and a form parameter of another name is a record that nothing else is seen through. -/
theorem adopt_linkedFrom (s : Session) (r : OperationRecord) :
    ∃ op, (s.adopt r.toOperation).operation? s.slots.length = some op ∧
      op.fields = r.toOperation.fields ∧
      (∀ number ∈ op.params.listed, s.records.length ≤ number) ∧
      (∀ k other, k ≠ s.slots.length → (s.adopt r.toOperation).operation? k = some other →
        ∀ number ∈ op.params.listed, number ∉ other.params.listed) ∧
      LinkedFrom r.allParams r.formParams op.params ∧
      ∀ i (hi : i < r.formParams.length) (f : Parameter → Parameter),
        (HasField r.allParams r.formParams[i].baseName →
          ∃ k, FirstField r.allParams r.formParams[i].baseName k ∧
            op.params.edit .form i f = op.params.edit .all k f ∧
            ((op.params.edit .form i f).values .all)[k]? = r.allParams[k]?.map f ∧
            ((op.params.edit .form i f).values .form)[i]? = r.allParams[k]?.map f) ∧
        (¬ HasField r.allParams r.formParams[i].baseName →
          (op.params.edit .form i f).values .all = r.allParams ∧
          ∀ j, ((op.params.edit .form i f).values .form)[j]? =
            if j = i then some (f r.formParams[i]) else (op.params.values .form)[j]?) := by
  have hlinked : LinkedFrom r.allParams r.formParams (r.toOperation.params.behind s.records) :=
    (ParameterLists.linkedFrom_ofValues _ _).alike (ParameterLists.alike_behind _ _)
  have hfresh := r.toOperation.params.length_le_of_listed_behind s.records
  refine ⟨_, operation?_adopt_last s r.toOperation, rfl, hfresh, ?_, hlinked,
    fun i hi f => ⟨fun hfield => hlinked.edit_linked i hi hfield f,
      fun hnone => hlinked.edit_own i hi hnone f⟩⟩
  intro k other hk hother number hnumber hmem
  have hchanged := changed_adopt s r.toOperation
    (ParameterLists.linked_ofValues r.allParams r.formParams)
  obtain ⟨old, hold, hsame⟩ := hchanged.before k hk other hother
  rw [hsame.listed] at hmem
  have hlt := s.lt_of_listed_operation? k old hold number hmem
  have hle := hfresh number hnumber
  omega

/-- A parameter that is no form field, and two form fields of its name; in the form, that name
twice, and a name of which there is no field. -/
def namesakes : OperationRecord :=
  let file (isFormParam : Bool) (type : String) : Parameter :=
    { baseName := "file", dataType := type, isFormParam }
  { allParams := [file false "Long", file true "File", file true "String"]
    formParams := [file true "String", { baseName := "caption", isFormParam := true },
      file true "File"] }

/-- Both form parameters of the name are the first of the two form fields; the other one is for
itself. -/
theorem adopt_linkedFrom_namesakes :
    let s : Session := ofOperations [namesakes.toOperation]
    let rename (p : Parameter) : Parameter := { p with paramName := "upload" }
    ∃ op, (s.adopt namesakes.toOperation).operation? 1 = some op ∧
      LinkedFrom namesakes.allParams namesakes.formParams op.params ∧
      FirstField namesakes.allParams "file" 1 ∧
      op.params.edit .form 0 rename = op.params.edit .all 1 rename ∧
      op.params.edit .form 2 rename = op.params.edit .all 1 rename ∧
      (op.params.edit .form 1 rename).values .all = namesakes.allParams := by
  intro s rename
  obtain ⟨op, hop, -, -, -, hlinked, hedit⟩ := adopt_linkedFrom s namesakes
  have hfirst : FirstField namesakes.allParams "file" 1 := by
    rw [← ParameterLists.placeOf_eq_some_iff]
    decide
  have hfile : HasField namesakes.allParams "file" := by decide
  have hcaption : ¬ HasField namesakes.allParams "caption" := by decide
  obtain ⟨k, hk, hzero, -⟩ := (hedit 0 (by decide) rename).1 hfile
  obtain ⟨l, hl, htwo, -⟩ := (hedit 2 (by decide) rename).1 hfile
  obtain ⟨hone, -⟩ := (hedit 1 (by decide) rename).2 hcaption
  rw [hk.unique hfirst] at hzero
  rw [hl.unique hfirst] at htwo
  exact ⟨op, hop, hlinked, hfirst, hzero, htwo, hone⟩

end Session

end PlayScaffold
