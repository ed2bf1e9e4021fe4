import PlayScaffold.Proofs.InPlaceRun

/-!
# Uploads among shared records

A record may be listed in both lists of an operation, several times in one of them, and by other
operations of the session.  Simplifying operations in place, one after the other, sets the type of
each record that one of them lists as an upload, and leaves all other records, all lists and the
other operations as they are:

    Substituted slots s (s.simplifyAll primitives slots)           (substituted_simplifyAll)

So no record changes when operations are simplified again, however often they are.
-/

namespace PlayScaffold

namespace ParameterLists

/-- Every place of both lists has the record that it had. -/
theorem numbers_substituteUploads (ls : ParameterLists) :
    ls.substituteUploads.numbers = ls.numbers := by
  funext view
  cases view with
  | all => exact all_substituteUploads ls
  | form => exact form_substituteUploads ls

/-- Whether a record is an upload depends on the lists and the record alone. -/
theorem Uploaded.congr {ls ks : ParameterLists} {i : Nat} {p : Parameter} (h : ls.Uploaded i p)
    (hnumbers : ks.numbers = ls.numbers) : ks.Uploaded i p := by
  have hall : ks.all = ls.all := congrFun hnumbers .all
  have hform : ks.form = ls.form := congrFun hnumbers .form
  rw [Uploaded, hall, hform]
  exact h

end ParameterLists

namespace Session

open ParameterLists (asUpload)

/-! ## The records of some slots -/

/-- Is the record of a number an uploaded file, by where the operations of some slots list it? -/
def Uploaded (s : Session) (slots : List Nat) (i : Nat) (p : Parameter) : Prop :=
  ∃ k ∈ slots, ∃ op ∈ s.operation? k, op.params.Uploaded i p

instance (s : Session) (slots : List Nat) (i : Nat) (p : Parameter) :
    Decidable (s.Uploaded slots i p) := by unfold Uploaded; infer_instance

/-- The second session is the first one with the uploads of some slots substituted: the records
that are listed there as uploads have the type of one, every operation lists the records that it
did, and those of other slots have the fields that they had. -/
structure Substituted (slots : List Nat) (s t : Session) : Prop where
  records : ∀ i, t.records[i]? =
    s.records[i]?.map fun p => if s.Uploaded slots i p then asUpload p else p
  lists : ∀ j, (t.operation? j).map (·.params.numbers) = (s.operation? j).map (·.params.numbers)
  fields : ∀ j, j ∉ slots →
    (t.operation? j).map Operation.fields = (s.operation? j).map Operation.fields

theorem uploaded_of_lists {s t : Session} {slots : List Nat} {i : Nat} {p : Parameter}
    (hlists : ∀ j, (t.operation? j).map (·.params.numbers) =
      (s.operation? j).map (·.params.numbers)) (h : s.Uploaded slots i p) :
    t.Uploaded slots i p := by
  obtain ⟨k, hk, op, hop, hup⟩ := h
  have hlist := hlists k
  rw [Option.mem_def.mp hop, Option.map_some] at hlist
  obtain ⟨other, hother, hnumbers⟩ := Option.map_eq_some_iff.mp hlist
  exact ⟨k, hk, other, hother, hup.congr hnumbers⟩

/-- The same records are uploads before and after. -/
theorem Substituted.uploaded_iff {slots : List Nat} {s t : Session} (h : Substituted slots s t)
    (others : List Nat) (i : Nat) (p : Parameter) :
    t.Uploaded others i p ↔ s.Uploaded others i p :=
  ⟨uploaded_of_lists fun j => (h.lists j).symm, uploaded_of_lists h.lists⟩

theorem uploaded_append (s : Session) (slots others : List Nat) (i : Nat) (p : Parameter) :
    s.Uploaded (slots ++ others) i p ↔ s.Uploaded slots i p ∨ s.Uploaded others i p := by
  simp only [Uploaded, List.mem_append, or_and_right, exists_or]

theorem Substituted.refl (s : Session) : Substituted [] s s where
  records i := by simp [Uploaded]
  lists _ := rfl
  fields _ _ := rfl

theorem Substituted.trans {slots others : List Nat} {s t u : Session} (h : Substituted slots s t)
    (h' : Substituted others t u) : Substituted (slots ++ others) s u where
  records i := by
    rw [h'.records, h.records, Option.map_map]
    congr 1
    funext p
    simp only [Function.comp_apply, h.uploaded_iff, uploaded_append]
    by_cases hfirst : s.Uploaded slots i p
    · -- what the later slots do to an upload has been done already
      rw [if_pos hfirst, if_pos (Or.inl hfirst)]
      exact ite_self _
    · simp only [hfirst, false_or, if_false]
  lists j := (h'.lists j).trans (h.lists j)
  fields j hj := by
    rw [List.mem_append, not_or] at hj
    exact (h'.fields j hj.2).trans (h.fields j hj.1)

/-- Slots that are substituted again leave the records alone. -/
theorem Substituted.again {slots others : List Nat} {s t u : Session} (h : Substituted slots s t)
    (h' : Substituted others t u) (hothers : others ⊆ slots) : u.records = t.records := by
  refine List.ext_getElem? fun i => ?_
  rw [h'.records, h.records, Option.map_map]
  congr 1
  funext p
  simp only [Function.comp_apply, h.uploaded_iff]
  by_cases hfirst : s.Uploaded slots i p
  · rw [if_pos hfirst]
    exact ite_self _
  · have hlater : ¬ s.Uploaded others i p := by
      rintro ⟨k, hk, hup⟩
      exact hfirst ⟨k, hothers hk, hup⟩
    rw [if_neg hfirst, if_neg hlater]

/-! ## Simplifying in place -/

theorem uploaded_singleton (s : Session) (k : Nat) (op : Operation)
    (hop : s.operation? k = some op) (i : Nat) (p : Parameter) :
    s.Uploaded [k] i p ↔ op.params.Uploaded i p := by
  simp [Uploaded, hop]

theorem not_uploaded_of_none (s : Session) (k : Nat) (hop : s.operation? k = none) (i : Nat)
    (p : Parameter) : ¬ s.Uploaded [k] i p := by
  simp [Uploaded, hop]

theorem map_eq_of_rel {α : Type} (f : Operation → α)
    (hf : ∀ op other, SameLists op other → f other = f op) {before after : Option Operation}
    (h : Option.Rel SameLists before after) : after.map f = before.map f := by
  cases h with
  | none => rfl
  | some hsame => exact congrArg some (hf _ _ hsame)

theorem SameLists.numbers {op other : Operation} (h : SameLists op other) :
    other.params.numbers = op.params.numbers := by
  funext view
  cases view with
  | all => exact h.all
  | form => exact h.form

/-- One slot simplified. -/
theorem substituted_simplify (primitives : List String) (k : Nat) (s : Session) :
    Substituted [k] s (s.after (.on k (.simplify primitives))) := by
  cases hop : s.operation? k with
  | none =>
    have hafter : s.after (.on k (.simplify primitives)) = s :=
      congrArg (fun done => (InPlace.stateOf done).value) (perform_of_none k _ ⟨s, []⟩ hop)
    rw [hafter]
    refine ⟨fun i => ?_, fun _ => rfl, fun _ _ => rfl⟩
    simp only [not_uploaded_of_none s k hop, if_false, Option.map_id']
  | some op =>
    obtain ⟨hle, hafter⟩ := stateOf_perform k (.simplify primitives) ⟨s, []⟩ op hop
    have hparams : ((Step.simplify primitives).result op).params = op.params.substituteUploads := by
      rw [Step.result_eq]
      rfl
    rw [show s.after (.on k (.simplify primitives)) = _ from hafter]
    have hself := s.operation?_put_self k _ hle (s.lt_of_operation? k op hop)
    have hothers := s.operation?_put_of_ne k _ hle
    refine ⟨fun i => ?_, fun j => ?_, fun j hj => ?_⟩
    · show ((Step.simplify primitives).result op).params.records[i]? = _
      simp only [hparams, ParameterLists.records_substituteUploads,
        s.records_of_operation? k op hop, uploaded_singleton s k op hop]
    · by_cases hj : j = k
      · subst hj
        rw [hself, hop, Option.map_some, Option.map_some, hparams,
          ParameterLists.numbers_substituteUploads]
      · exact map_eq_of_rel _ (fun _ _ => SameLists.numbers) (hothers j hj)
    · have hne : j ≠ k := fun h => hj (List.mem_singleton.mpr h)
      exact map_eq_of_rel _ (fun _ _ h => h.fields) (hothers j hne)

/-- The session with the operations of some slots simplified, one after the other. -/
def simplifyAll (primitives : List String) (slots : List Nat) (s : Session) : Session :=
  s.afterAll (slots.map (.on · (.simplify primitives)))

/-- **Simplifying slots one after the other** substitutes the uploads of all of them. -/
theorem substituted_simplifyAll (primitives : List String) (slots : List Nat) :
    ∀ s : Session, Substituted slots s (s.simplifyAll primitives slots) := by
  induction slots with
  | nil => exact Substituted.refl
  | cons k rest ih =>
    intro s
    exact (substituted_simplify primitives k s).trans (ih _)

end Session

namespace Operation

/-- **Simplifying an operation sets the types of its uploads.**  It lists the records that it did,
the ones that it lists as uploads have the type of an upload, and nothing else of any record is
changed, neither then nor when it is simplified again.  The same is true of operations that are
simplified in place, whatever records they share with each other and with the rest of the
session. -/
theorem simplify_records (primitives again : List String) :
    (∀ op : Operation, let after := (simplify primitives op).value
      after.params.numbers = op.params.numbers ∧
      (∀ i, after.params.records[i]? = op.params.records[i]?.map fun p =>
        if op.params.Uploaded i p then { p with dataType := multipartFileType } else p) ∧
      (simplify again after).value.params = after.params) ∧
    ∀ (s : Session) (slots : List Nat), let after := s.simplifyAll primitives slots
      Session.Substituted slots s after ∧
      (after.simplifyAll again slots).records = after.records := by
  refine ⟨fun op => ?_, fun s slots => ?_⟩
  · have hparams : ∀ primitives op, (simplify primitives op).value.params =
        op.params.substituteUploads := fun primitives op => by rw [simplify_eq]
    refine ⟨?_, fun i => ?_, ?_⟩
    · rw [hparams, ParameterLists.numbers_substituteUploads]
    · rw [hparams]
      exact ParameterLists.records_substituteUploads op.params i
    · rw [hparams, hparams, ParameterLists.substituteUploads_substituteUploads]
  · have hafter := Session.substituted_simplifyAll primitives slots s
    have hlater := Session.substituted_simplifyAll again slots (s.simplifyAll primitives slots)
    exact ⟨hafter, hafter.again hlater (List.Subset.refl slots)⟩

/-- A file that is listed among all parameters alone is no upload unless it is a form field; in the
form it is one. -/
example :
    let file : Parameter := { baseName := "file", dataType := "File", isFile := true }
    let lists : ParameterLists := ⟨[file, file], [0, 0], [1, 1], by decide⟩
    lists.substituteUploads.records.map (·.dataType) = ["File", multipartFileType] := by
  decide

end Operation

end PlayScaffold
