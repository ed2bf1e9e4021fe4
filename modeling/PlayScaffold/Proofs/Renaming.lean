import PlayScaffold.Proofs.Footprint
import PlayScaffold.Proofs.Traversal
import Mathlib.Logic.Relator

/-!
# The same parameters over other records

Which number a record has cannot be seen.  Two pairs of lists are alike if some one-to-one relation
between numbers takes the lists of the one to those of the other and every record to an equal one.
Alike lists hold the same parameters, linked in the same way, and stay alike when the same is done
to both:

    ls.Alike ks → (step.paramsAfter fields ls).Alike (step.paramsAfter fields ks)
                                                                          (alike_paramsAfter)

A copy of linked lists is like them (`alike_copy`).
-/

namespace PlayScaffold.ParameterLists

/-- The relation takes every number that it knows to that of an equal record. -/
structure Renaming (R : Nat → Nat → Prop) (records others : List Parameter) : Prop where
  unique : Relator.BiUnique R
  same : ∀ i j, R i j → ∃ p, records[i]? = some p ∧ others[j]? = some p

/-- The relation takes the lists of the one to those of the other as well. -/
structure Renamed (R : Nat → Nat → Prop) (ls ks : ParameterLists) : Prop extends
    Renaming R ls.records ks.records where
  all : List.Forall₂ R ls.all ks.all
  form : List.Forall₂ R ls.form ks.form

/-- The same parameters, linked in the same way. -/
def Alike (ls ks : ParameterLists) : Prop := ∃ R, Renamed R ls ks

/-! ## Equivalence -/

/-- The same lists over records that agree where the lists look. -/
theorem alike_of_records (ls ks : ParameterLists) (hall : ks.all = ls.all)
    (hform : ks.form = ls.form) (h : ∀ i ∈ ls.listed, ks.records[i]? = ls.records[i]?) :
    ls.Alike ks := by
  refine ⟨fun i j => i ∈ ls.listed ∧ i = j, ⟨⟨?_, ?_⟩, ?_⟩, ?_, ?_⟩
  · rintro i j k ⟨-, rfl⟩ ⟨-, rfl⟩
    rfl
  · rintro i j k ⟨-, rfl⟩ ⟨-, rfl⟩
    rfl
  · rintro i j ⟨hi, rfl⟩
    have hlt := ls.lt_of_listed i hi
    refine ⟨ls.records[i], List.getElem?_eq_getElem hlt, ?_⟩
    rw [h i hi, List.getElem?_eq_getElem hlt]
  · rw [hall]
    exact List.forall₂_same.mpr fun i hi => ⟨List.mem_append_left _ hi, rfl⟩
  · rw [hform]
    exact List.forall₂_same.mpr fun i hi => ⟨List.mem_append_right _ hi, rfl⟩

theorem Alike.refl (ls : ParameterLists) : ls.Alike ls :=
  alike_of_records ls ls rfl rfl fun _ _ => rfl

theorem Alike.symm {ls ks : ParameterLists} (h : ls.Alike ks) : ks.Alike ls := by
  obtain ⟨R, hR⟩ := h
  refine ⟨flip R, ⟨⟨fun i j k hi hj => hR.unique.2 hi hj, hR.unique.1.flip⟩, ?_⟩, ?_, ?_⟩
  · intro i j hij
    obtain ⟨p, hj, hi⟩ := hR.same j i hij
    exact ⟨p, hi, hj⟩
  · exact List.Forall₂.flip hR.all
  · exact List.Forall₂.flip hR.form

theorem Alike.trans {ls ks ms : ParameterLists} (h : ls.Alike ks) (h' : ks.Alike ms) :
    ls.Alike ms := by
  obtain ⟨R, hR⟩ := h
  obtain ⟨S, hS⟩ := h'
  refine ⟨fun i k => ∃ j, R i j ∧ S j k, ⟨⟨?_, ?_⟩, ?_⟩, ?_, ?_⟩
  · rintro i k j ⟨a, hia, haj⟩ ⟨b, hkb, hbj⟩
    rw [hS.unique.1 haj hbj] at hia
    exact hR.unique.1 hia hkb
  · rintro i j k ⟨a, hia, haj⟩ ⟨b, hib, hbk⟩
    rw [hR.unique.2 hia hib] at haj
    exact hS.unique.2 haj hbk
  · rintro i j ⟨a, hia, haj⟩
    obtain ⟨p, hi, ha⟩ := hR.same i a hia
    obtain ⟨q, ha', hj⟩ := hS.same a j haj
    rw [ha] at ha'
    exact ⟨p, hi, (Option.some.inj ha') ▸ hj⟩
  · exact forall₂_through hR.all hS.all fun _ _ j _ hij hjk => ⟨j, hij, hjk⟩
  · exact forall₂_through hR.form hS.form fun _ _ j _ hij hjk => ⟨j, hij, hjk⟩

/-! ## What is seen -/

theorem Renamed.numbers {R : Nat → Nat → Prop} {ls ks : ParameterLists} (h : Renamed R ls ks)
    (view : ParameterView) : List.Forall₂ R (ls.numbers view) (ks.numbers view) := by
  cases view with
  | all => exact h.all
  | form => exact h.form

theorem Renamed.record {R : Nat → Nat → Prop} {ls ks : ParameterLists} (h : Renamed R ls ks)
    (i j : Nat) (hij : R i j) : ls.record i = ks.record j := by
  obtain ⟨p, hi, hj⟩ := h.same i j hij
  rw [ParameterLists.record, ParameterLists.record, List.getD_eq_getElem?_getD,
    List.getD_eq_getElem?_getD, hi, hj]

theorem Alike.values {ls ks : ParameterLists} (h : ls.Alike ks) (view : ParameterView) :
    ls.values view = ks.values view := by
  obtain ⟨R, hR⟩ := h
  have hvalues : List.Forall₂ (· = ·) (ls.values view) (ks.values view) := by
    rw [ParameterLists.values, ParameterLists.values, List.forall₂_map_left_iff,
      List.forall₂_map_right_iff]
    exact (hR.numbers view).imp hR.record
  rwa [List.forall₂_eq_eq_eq] at hvalues

theorem idxOf?_renamed {R : Nat → Nat → Prop} (hR : Relator.BiUnique R) (i j : Nat) (hij : R i j)
    (is js : List Nat) (h : List.Forall₂ R is js) : is.idxOf? i = js.idxOf? j := by
  induction h with
  | nil => rfl
  | @cons a b as bs hab _ ih =>
    have hsame : (a == i) = (b == j) := by
      rw [Bool.eq_iff_iff, beq_iff_eq, beq_iff_eq]
      constructor
      · rintro rfl
        exact hR.2 hab hij
      · rintro rfl
        exact hR.1 hab hij
    rw [List.idxOf?_cons, List.idxOf?_cons, hsame, ih]

theorem Alike.links {ls ks : ParameterLists} (h : ls.Alike ks) : ls.links = ks.links := by
  obtain ⟨R, hR⟩ := h
  have hlinks : List.Forall₂ (· = ·) ls.links ks.links := by
    rw [ParameterLists.links, ParameterLists.links, List.forall₂_map_left_iff,
      List.forall₂_map_right_iff]
    exact hR.form.imp fun i j hij => idxOf?_renamed hR.unique i j hij ls.all ks.all hR.all
  rwa [List.forall₂_eq_eq_eq] at hlinks

/-! ## Doing the same to both -/

theorem renamed_editRecord {R : Nat → Nat → Prop} {ls ks : ParameterLists} (h : Renamed R ls ks)
    (i j : Nat) (hij : R i j) (f : Parameter → Parameter) :
    Renamed R (ls.editRecord i f) (ks.editRecord j f) where
  unique := h.unique
  same a b hab := by
    obtain ⟨p, ha, hb⟩ := h.same a b hab
    have hiff : i = a ↔ j = b := by
      constructor
      · rintro rfl
        exact h.unique.2 hij hab
      · rintro rfl
        exact h.unique.1 hij hab
    refine ⟨if i = a then f p else p, ?_, ?_⟩
    · rw [editRecord, List.getElem?_modify, ha]
      split <;> rfl
    · rw [editRecord, List.getElem?_modify, hb]
      simp only [hiff]
      split <;> rfl
  all := h.all
  form := h.form

theorem renamed_edit {R : Nat → Nat → Prop} {ls ks : ParameterLists} (h : Renamed R ls ks)
    (view : ParameterView) (place : Nat) (f : Parameter → Parameter) :
    Renamed R (ls.edit view place f) (ks.edit view place f) := by
  have hnumbers := h.numbers view
  have hlength := hnumbers.length_eq
  unfold edit
  by_cases hplace : place < (ls.numbers view).length
  · have hother : place < (ks.numbers view).length := by omega
    have hij := hnumbers.get hplace hother
    rw [List.getElem?_eq_getElem hplace, List.getElem?_eq_getElem hother]
    exact renamed_editRecord h _ _ hij f
  · rw [List.getElem?_eq_none (by omega), List.getElem?_eq_none (by omega)]
    exact h

theorem renamed_editAll {R : Nat → Nat → Prop} (f : Parameter → Parameter) (is js : List Nat)
    (hnumbers : List.Forall₂ R is js) :
    ∀ ls ks : ParameterLists, Renamed R ls ks → Renamed R (ls.editAll f is) (ks.editAll f js) := by
  induction hnumbers with
  | nil => intro ls ks h; exact h
  | @cons i j is js hij _ ih =>
    intro ls ks h
    exact ih (ls.editRecord i f) (ks.editRecord j f) (renamed_editRecord h i j hij f)

theorem renamed_substituteUploads {R : Nat → Nat → Prop} {ls ks : ParameterLists}
    (h : Renamed R ls ks) : Renamed R ls.substituteUploads ks.substituteUploads := by
  rw [substituteUploads_eq, substituteUploads_eq]
  exact renamed_editAll _ _ _ h.form _ _ (renamed_editAll _ _ _ h.all ls ks h)

/-- The relation with one more pair of numbers. -/
def withPair (R : Nat → Nat → Prop) (n m : Nat) (i j : Nat) : Prop := R i j ∨ i = n ∧ j = m

theorem biUnique_withPair {R : Nat → Nat → Prop} (hR : Relator.BiUnique R) (n m : Nat)
    (hn : ∀ j, ¬ R n j) (hm : ∀ i, ¬ R i m) : Relator.BiUnique (withPair R n m) := by
  constructor
  · rintro i k j (hij | ⟨rfl, rfl⟩) (hkj | ⟨rfl, hj⟩)
    · exact hR.1 hij hkj
    · exact absurd (hj ▸ hij) (hm i)
    · exact absurd hkj (hm k)
    · rfl
  · rintro i j k (hij | ⟨rfl, rfl⟩) (hik | ⟨hi, rfl⟩)
    · exact hR.2 hij hik
    · exact absurd (hi ▸ hij) (hn j)
    · exact absurd hik (hn k)
    · rfl

/-- A new record on the right for one that the relation does not know yet. -/
theorem Renaming.concat {R : Nat → Nat → Prop} {records others : List Parameter}
    (h : Renaming R records others) (i : Nat) (p : Parameter) (hp : records[i]? = some p)
    (hi : ∀ j, ¬ R i j) : Renaming (withPair R i others.length) records (others ++ [p]) where
  unique := by
    refine biUnique_withPair h.unique _ _ hi fun k hk => ?_
    obtain ⟨q, -, hq⟩ := h.same k _ hk
    simp at hq
  same k j hkj := by
    rcases hkj with hkj | ⟨rfl, rfl⟩
    · obtain ⟨q, hk, hj⟩ := h.same k j hkj
      have hlt := (List.getElem?_eq_some_iff.mp hj).1
      exact ⟨q, hk, by rw [List.getElem?_append_left hlt, hj]⟩
    · exact ⟨p, hp, by simp⟩

/-- More records on the left. -/
theorem Renaming.append_left {R : Nat → Nat → Prop} {records others : List Parameter}
    (h : Renaming R records others) (more : List Parameter) :
    Renaming R (records ++ more) others where
  unique := h.unique
  same i j hij := by
    obtain ⟨p, hi, hj⟩ := h.same i j hij
    have hlt := (List.getElem?_eq_some_iff.mp hi).1
    exact ⟨p, by rw [List.getElem?_append_left hlt, hi], hj⟩

/-- Two new records that hold the same parameter. -/
theorem renamed_withRecord {R : Nat → Nat → Prop} {ls ks : ParameterLists} (h : Renamed R ls ks)
    (p : Parameter) :
    Renamed (withPair R ls.records.length ks.records.length) (ls.withRecord p)
      (ks.withRecord p) where
  toRenaming := by
    refine (h.toRenaming.append_left [p]).concat _ p (by simp) fun j hj => ?_
    obtain ⟨q, hq, -⟩ := h.same _ j hj
    simp at hq
  all := h.all.imp fun _ _ => Or.inl
  form := h.form.imp fun _ _ => Or.inl

theorem renamed_list {R : Nat → Nat → Prop} {ls ks : ParameterLists} (h : Renamed R ls ks)
    (view : ParameterView) (i j : Nat) (hij : R i j) (hi : i < ls.records.length)
    (hj : j < ks.records.length) : Renamed R (ls.list view i hi) (ks.list view j hj) := by
  have hone : List.Forall₂ R [i] [j] := List.Forall₂.cons hij List.Forall₂.nil
  cases view with
  | all => exact ⟨⟨h.unique, h.same⟩, List.rel_append h.all hone, h.form⟩
  | form => exact ⟨⟨h.unique, h.same⟩, h.all, List.rel_append h.form hone⟩

theorem renamed_push {R : Nat → Nat → Prop} {ls ks : ParameterLists} (h : Renamed R ls ks)
    (view : ParameterView) (p : Parameter) :
    Renamed (withPair R ls.records.length ks.records.length) (ls.push view p) (ks.push view p) :=
  renamed_list (renamed_withRecord h p) view _ _ (Or.inr ⟨rfl, rfl⟩) _ _

theorem alike_push {ls ks : ParameterLists} (h : ls.Alike ks) (view : ParameterView)
    (p : Parameter) : (ls.push view p).Alike (ks.push view p) := by
  obtain ⟨R, hR⟩ := h
  exact ⟨_, renamed_push hR view p⟩

theorem alike_add {ls ks : ParameterLists} (h : ls.Alike ks) (p : Parameter) :
    (ls.add p).Alike (ks.add p) := by
  obtain ⟨R, hR⟩ := h
  simp only [add]
  split
  · exact ⟨_, renamed_list (renamed_push hR .all p) .form _ _ (Or.inr ⟨rfl, rfl⟩) _ _⟩
  · exact ⟨_, renamed_push hR .all p⟩

/-- Where the records stand does not matter. -/
theorem alike_behind (ls : ParameterLists) (store : List Parameter) :
    ls.Alike (ls.behind store) := by
  refine ⟨fun i j => i < ls.records.length ∧ j = store.length + i, ⟨⟨?_, ?_⟩, ?_⟩, ?_, ?_⟩
  · rintro i j k ⟨-, hi⟩ ⟨-, hj⟩
    omega
  · rintro i j k ⟨-, rfl⟩ ⟨-, rfl⟩
    rfl
  · rintro i j ⟨hi, rfl⟩
    refine ⟨ls.records[i], List.getElem?_eq_getElem hi, ?_⟩
    rw [behind, List.getElem?_append_right (Nat.le_add_right _ _), Nat.add_sub_cancel_left,
      List.getElem?_eq_getElem hi]
  · rw [behind, List.forall₂_map_right_iff]
    exact List.forall₂_same.mpr fun i hi => ⟨ls.inRange i (List.mem_append_left _ hi), rfl⟩
  · rw [behind, List.forall₂_map_right_iff]
    exact List.forall₂_same.mpr fun i hi => ⟨ls.inRange i (List.mem_append_right _ hi), rfl⟩

/-- **Alike lists stay alike** when the same step is done to both. -/
theorem alike_paramsAfter (step : Step) (fields : Operation) {ls ks : ParameterLists}
    (h : ls.Alike ks) : (step.paramsAfter fields ls).Alike (step.paramsAfter fields ks) := by
  have huploads : ls.substituteUploads.Alike ks.substituteUploads := by
    obtain ⟨R, hR⟩ := h
    exact ⟨R, renamed_substituteUploads hR⟩
  cases step with
  | edit view place f =>
    obtain ⟨R, hR⟩ := h
    exact ⟨R, renamed_edit hR view place f⟩
  | push view p => exact alike_push h view p
  | add p => exact alike_add h p
  | become r => exact (alike_behind _ ls.records).symm.trans (alike_behind _ ks.records)
  | simplify primitives => exact huploads
  | transform primitives =>
    simp only [Step.paramsAfter]
    split
    · exact huploads
    · exact h
  | set f => exact h
  | resolve schemes => exact h

/-! ## Copies -/

theorem getElem?_records_of_listed (ls : ParameterLists) (i : Nat) (h : i ∈ ls.listed) :
    ls.records[i]? = some (ls.record i) := by
  have hlt := ls.lt_of_listed i h
  rw [record, List.getD_eq_getElem?_getD, List.getElem?_eq_getElem hlt, Option.getD_some]

/-- Copying all parameters, one after the other; `done` are those that are copied already. -/
theorem renaming_copyAll (ls : ParameterLists) (rest : List Nat) :
    ∀ (done : List Nat) (R : Nat → Nat → Prop) (c : ParameterLists),
      done ++ rest = ls.all → (done ++ rest).Nodup → Renaming R ls.records c.records →
      List.Forall₂ R done c.all → (∀ i j, R i j → i ∈ done) →
      ∃ S, Renaming S ls.records (((rest.map ls.record).foldl (·.push .all ·) c)).records ∧
        List.Forall₂ S ls.all ((rest.map ls.record).foldl (·.push .all ·) c).all ∧
        ((rest.map ls.record).foldl (·.push .all ·) c).form = c.form ∧
        ∀ i j, S i j → i ∈ ls.all := by
  -- the relation grows by a pair for each of the others
  induction rest with
  | nil =>
    intro done R c hall _ hR hdone hdomain
    rw [List.append_nil] at hall
    subst hall
    exact ⟨R, hR, hdone, rfl, hdomain⟩
  | cons i rest ih =>
    intro done R c hall hnodup hR hdone hdomain
    have hi : i ∈ ls.listed := by
      rw [listed, ← hall]
      simp
    have hnew : ∀ j, ¬ R i j := by
      intro j hij
      rw [List.nodup_append'] at hnodup
      exact hnodup.2.2 (hdomain i j hij) List.mem_cons_self
    have hlast : List.Forall₂ (withPair R i c.records.length) [i] [c.records.length] :=
      List.Forall₂.cons (Or.inr ⟨rfl, rfl⟩) List.Forall₂.nil
    rw [List.map_cons, List.foldl_cons]
    refine ih (done ++ [i]) (withPair R i c.records.length) (c.push .all (ls.record i)) ?_ ?_ ?_ ?_
      ?_
    · rw [List.append_assoc]
      exact hall
    · rw [List.append_assoc]
      exact hnodup
    · rw [records_push]
      exact hR.concat i _ (ls.getElem?_records_of_listed i hi) hnew
    · rw [all_push_all]
      exact List.rel_append (hdone.imp fun _ _ => Or.inl) hlast
    · rintro k j (hkj | ⟨rfl, -⟩)
      · exact List.mem_append_left _ (hdomain k j hkj)
      · simp

/-- Copying the form.  A form parameter that is among all parameters is linked to the copy of its
record; each of the others is copied, and since no orphan is listed twice, it is new. -/
theorem renamed_copyForm (ls : ParameterLists) (rest : List Nat) :
    ∀ (done : List Nat) (R : Nat → Nat → Prop) (c : ParameterLists),
      done ++ rest = ls.form → ls.orphans.Nodup → Renaming R ls.records c.records →
      List.Forall₂ R ls.all c.all → List.Forall₂ R done c.form →
      (∀ i j, R i j → i ∈ ls.all ∨ i ∈ done) →
      ls.Alike (rest.foldl (fun c i => c.addForm (ls.all.idxOf? i) (ls.record i)) c) := by
  induction rest with
  | nil =>
    intro done R c hform _ hR hall hdone _
    rw [List.append_nil] at hform
    subst hform
    exact ⟨R, hR, hall, hdone⟩
  | cons i rest ih =>
    intro done R c hform horphans hR hall hdone hdomain
    have hlength := hall.length_eq
    have hi : i ∈ ls.listed := by
      rw [listed, ← hform]
      simp
    have hsplit : done ++ [i] ++ rest = ls.form := by
      rw [List.append_assoc]
      exact hform
    rw [List.foldl_cons]
    cases hplace : ls.all.idxOf? i with
    | some k =>
      obtain ⟨hk, hki, -⟩ := List.idxOf?_eq_some_iff.mp hplace
      have hk' : k < c.all.length := by omega
      have hlinked : R i c.all[k] := by
        have := hall.get hk hk'
        simpa [hki] using this
      have hlast : List.Forall₂ R [i] [c.all[k]] := List.Forall₂.cons hlinked List.Forall₂.nil
      rw [addForm, dif_pos hk']
      refine ih (done ++ [i]) R _ hsplit horphans ?_ hall ?_ ?_
      · rw [records_list]
        exact hR
      · exact List.rel_append hdone hlast
      · intro a b hab
        exact (hdomain a b hab).imp_right (List.mem_append_left _)
    | none =>
      have hout : i ∉ ls.all := by
        simpa using hplace
      have hnew : ∀ j, ¬ R i j := by
        intro j hij
        have hmem : i ∈ done := (hdomain i j hij).resolve_left hout
        rw [orphans, ← hform, List.filter_append, List.nodup_append'] at horphans
        refine horphans.2.2 (List.mem_filter.mpr ⟨hmem, by simpa using hout⟩) ?_
        exact List.mem_filter.mpr ⟨List.mem_cons_self, by simpa using hout⟩
      have hlast : List.Forall₂ (withPair R i c.records.length) [i] [c.records.length] :=
        List.Forall₂.cons (Or.inr ⟨rfl, rfl⟩) List.Forall₂.nil
      rw [addForm]
      refine ih (done ++ [i]) (withPair R i c.records.length) _ hsplit horphans ?_ ?_ ?_ ?_
      · rw [records_push]
        exact hR.concat i _ (ls.getElem?_records_of_listed i hi) hnew
      · exact hall.imp fun _ _ => Or.inl
      · exact List.rel_append (hdone.imp fun _ _ => Or.inl) hlast
      · rintro a b (hab | ⟨rfl, -⟩)
        · exact (hdomain a b hab).imp_right (List.mem_append_left _)
        · simp

/-- **A copy of linked lists is like them.** -/
theorem alike_copy (ls : ParameterLists) (h : ls.Linked) : ls.Alike ls.copy := by
  have hempty : Renaming (fun _ _ => False) ls.records ParameterLists.empty.records :=
    ⟨⟨fun _ _ _ hf => hf.elim, fun _ _ _ hf => hf.elim⟩, fun _ _ hf => hf.elim⟩
  obtain ⟨R, hR, hall, hform, hdomain⟩ := renaming_copyAll ls ls.all [] _ .empty rfl h.all hempty
    List.Forall₂.nil fun _ _ hf => hf.elim
  have hnone : (ofAll (ls.values .all)).form = [] := hform
  refine renamed_copyForm ls ls.form [] R (ofAll (ls.values .all)) rfl h.orphans hR hall ?_ ?_
  · rw [hnone]
    exact List.Forall₂.nil
  · intro i j hij
    exact Or.inl (hdomain i j hij)

end PlayScaffold.ParameterLists
