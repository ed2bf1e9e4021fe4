import PlayScaffold.Proofs.Renaming
import PlayScaffold.Session

/-!
# Copies are apart

Operations of a session that come from separate descriptions, and copies of them, name no record of
each other (`Separate`).  A command on one slot is therefore not seen in any other, and what a slot
shows in the end is what its own commands make of its operation:

    s.Separate → s.Shows k op →
      (s.afterAll commands).Shows k
        ((commands.filter (·.slot = k)).foldl Command.resultOf op)        (shows_afterAll)

A copy starts out by showing what the original does (`shows_copy`).
-/

namespace PlayScaffold

/-! ## Operations that look alike -/

/-- An operation as its users see it: its fields, the parameters in its lists, and which of all
parameters each form parameter is. -/
structure OperationView where
  fields : Operation
  allParams : List Parameter
  formParams : List Parameter
  links : List (Option Nat)

namespace Operation

def view (op : Operation) : OperationView :=
  ⟨op.fields, op.params.values .all, op.params.values .form, op.params.links⟩

/-- The same operation, over any records. -/
def LooksLike (op other : Operation) : Prop :=
  op.fields = other.fields ∧ op.params.Alike other.params

theorem LooksLike.refl (op : Operation) : op.LooksLike op :=
  ⟨rfl, ParameterLists.Alike.refl op.params⟩

theorem LooksLike.trans {op other third : Operation} (h : op.LooksLike other)
    (h' : other.LooksLike third) : op.LooksLike third := ⟨h.1.trans h'.1, h.2.trans h'.2⟩

theorem LooksLike.view_eq {op other : Operation} (h : op.LooksLike other) :
    op.view = other.view := by
  simp only [view, h.1, h.2.values, h.2.links]

/-- Operations that look alike do so when the same step is done to both. -/
theorem LooksLike.result {op other : Operation} (h : op.LooksLike other) (step : Step) :
    (step.result op).LooksLike (step.result other) := by
  obtain ⟨hfields, hparams⟩ := h
  rw [Step.result_eq step op, Step.result_eq step other, hfields]
  exact ⟨rfl, ParameterLists.alike_paramsAfter step other.fields hparams⟩

theorem looksLike_copy (op : Operation) (h : op.params.Linked) : op.LooksLike op.copy :=
  ⟨rfl, ParameterLists.alike_copy op.params h⟩

end Operation

namespace Session

/-! ## Looking after putting back -/

/-- The same lists with the same fields, over records that may have changed. -/
structure SameLists (op other : Operation) : Prop where
  fields : other.fields = op.fields
  all : other.params.all = op.params.all
  form : other.params.form = op.params.form

theorem SameLists.listed {op other : Operation} (h : SameLists op other) :
    other.params.listed = op.params.listed := by
  rw [ParameterLists.listed, ParameterLists.listed, h.all, h.form]

theorem operation?_isSome_iff (s : Session) (k : Nat) :
    (s.operation? k).isSome ↔ k < s.slots.length := by
  unfold operation?
  split <;> simp_all

theorem lt_of_operation? (s : Session) (k : Nat) (op : Operation) (h : s.operation? k = some op) :
    k < s.slots.length := by
  rw [← operation?_isSome_iff, h]
  rfl

theorem operation?_put_self (s : Session) (k : Nat) (op : Operation)
    (h : s.records.length ≤ op.params.records.length) (hk : k < s.slots.length) :
    (s.put k op h).operation? k = some op := by
  have hk' : k < (s.put k op h).slots.length := by simpa [put] using hk
  rw [operation?, dif_pos hk']
  simp [put, Slot.of, Operation.fields]

/-- The same lists in a slot are the same lists of its operation. -/
theorem rel_sameLists_of_slots (s t : Session) (j : Nat) (h : t.slots[j]? = s.slots[j]?) :
    Option.Rel SameLists (s.operation? j) (t.operation? j) := by
  by_cases hlt : j < s.slots.length
  · rw [List.getElem?_eq_getElem hlt] at h
    obtain ⟨hlt', hslot⟩ := List.getElem?_eq_some_iff.mp h
    rw [operation?, operation?, dif_pos hlt, dif_pos hlt']
    refine Option.Rel.some ⟨?_, ?_, ?_⟩ <;> simp [hslot, Operation.fields]
  · rw [List.getElem?_eq_none (Nat.le_of_not_lt hlt)] at h
    have hlt' : ¬ j < t.slots.length := Nat.not_lt.mpr (List.getElem?_eq_none_iff.mp h)
    rw [operation?, operation?, dif_neg hlt, dif_neg hlt']
    exact Option.Rel.none

/-- Other slots keep their lists. -/
theorem operation?_put_of_ne (s : Session) (k : Nat) (op : Operation)
    (h : s.records.length ≤ op.params.records.length) (j : Nat) (hj : j ≠ k) :
    Option.Rel SameLists (s.operation? j) ((s.put k op h).operation? j) :=
  rel_sameLists_of_slots s _ j (List.getElem?_set_ne (Ne.symm hj))

theorem operation?_adopt_last (s : Session) (op : Operation) :
    (s.adopt op).operation? s.slots.length =
      some { op with params := op.params.behind s.records } := by
  have hlt : s.slots.length < (s.adopt op).slots.length := by simp [adopt]
  rw [operation?, dif_pos hlt]
  simp [adopt, Slot.of, Operation.fields, ParameterLists.behind]

theorem operation?_adopt_of_ne (s : Session) (op : Operation) (j : Nat) (hj : j ≠ s.slots.length) :
    Option.Rel SameLists (s.operation? j) ((s.adopt op).operation? j) := by
  refine rel_sameLists_of_slots s _ j ?_
  rw [adopt]
  rcases Nat.lt_or_gt_of_ne hj with hlt | hgt
  · exact List.getElem?_append_left hlt
  · rw [List.getElem?_eq_none (Nat.le_of_lt hgt), List.getElem?_eq_none]
    rw [List.length_append, List.length_singleton]
    exact hgt

/-- What corresponds to an operation is one. -/
theorem eq_some_of_rel {R : Operation → Operation → Prop} {op : Operation}
    {after : Option Operation} (h : Option.Rel R (some op) after) :
    ∃ other, after = some other ∧ R op other := by
  cases h with
  | some h => exact ⟨_, rfl, h⟩

/-! ## What a command changes -/

/-- One slot apart, the second session is the first one: all other slots keep their lists, the
records that the slot did not name are as they were, and it names no old record anew. -/
structure Changed (k : Nat) (s t : Session) : Prop where
  others : ∀ j, j ≠ k → Option.Rel SameLists (s.operation? j) (t.operation? j)
  keeps : ∀ i, i < s.records.length → (∀ op, s.operation? k = some op → i ∉ op.params.listed) →
    t.records[i]? = s.records[i]?
  names : ∀ op, t.operation? k = some op → ∀ i ∈ op.params.listed,
    (∃ old, s.operation? k = some old ∧ i ∈ old.params.listed) ∨ s.records.length ≤ i
  linked : (∀ op, s.operation? k = some op → op.params.Linked) →
    ∀ op, t.operation? k = some op → op.params.Linked

theorem rel_sameLists_refl (found : Option Operation) : Option.Rel SameLists found found := by
  cases found with
  | none => exact Option.Rel.none
  | some op => exact Option.Rel.some ⟨rfl, rfl, rfl⟩

theorem Changed.refl (k : Nat) (s : Session) : Changed k s s where
  others j _ := rel_sameLists_refl (s.operation? j)
  keeps _ _ _ := rfl
  names op h _ hi := Or.inl ⟨op, h, hi⟩
  linked h := h

theorem changed_put (s : Session) (k : Nat) (old op : Operation)
    (h : s.records.length ≤ op.params.records.length) (hold : s.operation? k = some old)
    (hwithin : old.params.Within op.params) (hlinked : old.params.Linked → op.params.Linked) :
    Changed k s (s.put k op h) := by
  have hself := operation?_put_self s k op h (s.lt_of_operation? k old hold)
  have hrecords := s.records_of_operation? k old hold
  refine ⟨operation?_put_of_ne s k op h, fun i hi hnot => ?_, fun new hnew i hi => ?_,
    fun hall new hnew => ?_⟩
  · have := hwithin.keeps i (by rw [hrecords]; exact hi) (hnot old hold)
    rw [hrecords] at this
    exact this
  · rw [hself] at hnew
    rw [← Option.some.inj hnew] at hi
    rcases hwithin.names i hi with hi | hi
    · exact Or.inl ⟨old, hold, hi⟩
    · rw [hrecords] at hi
      exact Or.inr hi
  · rw [hself] at hnew
    rw [← Option.some.inj hnew]
    exact hlinked (hall old hold)

theorem changed_adopt (s : Session) (op : Operation) (hlinked : op.params.Linked) :
    Changed s.slots.length s (s.adopt op) := by
  have hself := operation?_adopt_last s op
  refine ⟨operation?_adopt_of_ne s op, fun i hi _ => ?_, fun new hnew i hi => ?_,
    fun _ new hnew => ?_⟩
  · rw [adopt, List.getElem?_append_left hi]
  · rw [hself] at hnew
    rw [← Option.some.inj hnew] at hi
    exact Or.inr (op.params.length_le_of_listed_behind s.records i hi)
  · rw [hself] at hnew
    rw [← Option.some.inj hnew]
    exact op.params.linked_behind s.records hlinked

theorem stateOf_finish (s : Session) (k : Nat) (done : EStateM.Result Error (Logged Operation) Unit)
    (h : s.records.length ≤ (InPlace.stateOf done).value.params.records.length) (op : Operation)
    (hop : (InPlace.stateOf done).value = op) :
    (InPlace.stateOf (s.finish k done h)).value = s.put k op (hop ▸ h) := by
  subst hop
  cases done <;> rfl

theorem perform_of_some (k : Nat) (step : Step) (st : Logged Session) (op : Operation)
    (hop : st.value.operation? k = some op) :
    ∃ h, perform k step st = st.value.finish k (step.act ⟨op, st.warnings⟩) h := by
  unfold perform
  split
  · next hnone =>
    rw [hop] at hnone
    cases hnone
  · next found hfound =>
    obtain rfl : found = op := Option.some.inj (hfound.symm.trans hop)
    exact ⟨st.value.length_le_stateOf_act k step ⟨found, st.warnings⟩ hop, rfl⟩

/-- A step puts its result back, whether it fails or not. -/
theorem stateOf_perform (k : Nat) (step : Step) (st : Logged Session)
    (op : Operation) (hop : st.value.operation? k = some op) :
    ∃ h, (InPlace.stateOf (perform k step st)).value =
      st.value.put k (step.result op) h := by
  obtain ⟨h, hperform⟩ := perform_of_some k step st op hop
  rw [hperform]
  exact ⟨_, stateOf_finish st.value k _ h _ (step.value_act ⟨op, st.warnings⟩)⟩

theorem perform_of_none (k : Nat) (step : Step) (st : Logged Session)
    (hop : st.value.operation? k = none) : perform k step st = .ok () st := by
  unfold perform
  split
  · rfl
  · next found hfound =>
    rw [hop] at hfound
    cases hfound

theorem changed_perform (k : Nat) (step : Step) (st : Logged Session) :
    Changed k st.value (InPlace.stateOf (perform k step st)).value := by
  cases hop : st.value.operation? k with
  | none =>
    rw [perform_of_none k step st hop]
    exact Changed.refl k st.value
  | some op =>
    obtain ⟨h, hput⟩ := stateOf_perform k step st op hop
    have hparams : (step.result op).params = step.paramsAfter op.fields op.params := by
      rw [Step.result_eq]
    rw [hput]
    refine changed_put st.value k op _ h hop ?_ fun hlinked => ?_
    · rw [hparams]
      exact ParameterLists.within_paramsAfter step op.fields op.params
    · rw [hparams]
      exact ParameterLists.linked_paramsAfter step op.fields op.params hlinked

theorem changed_copy (s : Session) (k : Nat) : Changed s.slots.length s (s.copy k) := by
  unfold copy
  split
  · exact Changed.refl _ s
  · next op _ => exact changed_adopt s op.copy (ParameterLists.linked_copy op.params)

/-- The slot that a command writes: its own, or a new one for a copy. -/
def Command.target (s : Session) : Command → Nat
  | .on slot _ => slot
  | .copy _ => s.slots.length

/-- **A command changes one slot.** -/
theorem changed_after (s : Session) (c : Command) :
    Changed (c.target s) s (s.after c) := by
  cases c with
  | on slot step => exact changed_perform slot step ⟨s, []⟩
  | copy slot => exact changed_copy s slot

/-! ## Slots that are apart -/

/-- The lists of each slot are linked, and no two slots name the same record. -/
structure Separate (s : Session) : Prop where
  linked : ∀ k op, s.operation? k = some op → op.params.Linked
  apart : ∀ j k op other, j ≠ k → s.operation? j = some op → s.operation? k = some other →
    ∀ i ∈ op.params.listed, i ∉ other.params.listed

theorem lt_of_listed_operation? (s : Session) (k : Nat) (op : Operation)
    (h : s.operation? k = some op) (i : Nat) (hi : i ∈ op.params.listed) :
    i < s.records.length := by
  rw [← s.records_of_operation? k op h]
  exact op.params.lt_of_listed i hi

/-- Another slot after a change is the slot that it was. -/
theorem Changed.before {k : Nat} {s t : Session} (h : Changed k s t) (j : Nat) (hj : j ≠ k)
    (op : Operation) (hop : t.operation? j = some op) :
    ∃ old, s.operation? j = some old ∧ SameLists old op := by
  have hrel := h.others j hj
  rw [hop] at hrel
  cases hold : s.operation? j with
  | none => rw [hold] at hrel; cases hrel
  | some old =>
    rw [hold] at hrel
    cases hrel with
    | some hsame => exact ⟨old, rfl, hsame⟩

theorem Separate.changed {k : Nat} {s t : Session} (hs : s.Separate) (h : Changed k s t) :
    t.Separate := by
  have hown : ∀ op, t.operation? k = some op → ∀ j, j ≠ k → ∀ other,
      t.operation? j = some other → ∀ i ∈ op.params.listed, i ∉ other.params.listed := by
    intro op hop j hj other hother i hi hmem
    obtain ⟨old, hold, hsame⟩ := h.before j hj other hother
    rw [hsame.listed] at hmem
    rcases h.names op hop i hi with ⟨before, hbefore, hi⟩ | hi
    · exact hs.apart k j before old (Ne.symm hj) hbefore hold i hi hmem
    · have := s.lt_of_listed_operation? j old hold i hmem
      omega
  refine ⟨fun j op hop => ?_, fun j l op other hjl hop hother i hi hmem => ?_⟩
  · by_cases hj : j = k
    · subst hj
      exact h.linked (fun old hold => hs.linked j old hold) op hop
    · obtain ⟨old, hold, hsame⟩ := h.before j hj op hop
      exact (hs.linked j old hold).congr _ _ hsame.all hsame.form
  · by_cases hj : j = k
    · subst hj
      exact hown op hop l (Ne.symm hjl) other hother i hi hmem
    · by_cases hl : l = k
      · subst hl
        exact hown other hother j hj op hop i hmem hi
      · obtain ⟨old, hold, hsame⟩ := h.before j hj op hop
        obtain ⟨old', hold', hsame'⟩ := h.before l hl other hother
        rw [hsame.listed] at hi
        rw [hsame'.listed] at hmem
        exact hs.apart j l old old' hjl hold hold' i hi hmem

theorem separate_after (s : Session) (c : Command) (h : s.Separate) :
    (s.after c).Separate := h.changed (changed_after s c)

theorem separate_afterAll (commands : List Command) :
    ∀ s : Session, s.Separate → (s.afterAll commands).Separate := by
  induction commands with
  | nil => intro s h; exact h
  | cons c rest ih =>
    intro s h
    exact ih (s.after c) (separate_after s c h)

theorem separate_empty : empty.Separate := by
  have hnone : ∀ k, empty.operation? k = none := by
    intro k
    rw [operation?, dif_neg (by simp [empty])]
  refine ⟨fun k op h => ?_, fun j k op other _ h => ?_⟩
  · rw [hnone] at h
    cases h
  · rw [hnone] at h
    cases h

theorem separate_ofOperations (operations : List Operation)
    (h : ∀ op ∈ operations, op.params.Linked) : (ofOperations operations).Separate := by
  suffices hall : ∀ (rest : List Operation) (s : Session), s.Separate →
      (∀ op ∈ rest, op.params.Linked) → (rest.foldl adopt s).Separate from
    hall operations empty separate_empty h
  intro rest
  induction rest with
  | nil => intro s hs _; exact hs
  | cons op rest ih =>
    intro s hs hlinked
    obtain ⟨hop, hrest⟩ := List.forall_mem_cons.mp hlinked
    exact ih (s.adopt op) (hs.changed (changed_adopt s op hop)) hrest

/-! ## What a slot shows -/

/-- The slot shows this operation, over whatever records. -/
def Shows (s : Session) (k : Nat) (op : Operation) : Prop :=
  ∃ shown, s.operation? k = some shown ∧ op.LooksLike shown

def view? (s : Session) (k : Nat) : Option OperationView := (s.operation? k).map Operation.view

theorem Shows.view? {s : Session} {k : Nat} {op : Operation} (h : s.Shows k op) :
    s.view? k = some op.view := by
  obtain ⟨shown, hshown, halike⟩ := h
  rw [Session.view?, hshown, Option.map_some, halike.view_eq]

/-- A change is not seen in any other slot. -/
theorem Shows.changed {s t : Session} {j k : Nat} {op : Operation} (h : s.Shows j op)
    (hs : s.Separate) (hchanged : Changed k s t) (hj : j ≠ k) : t.Shows j op := by
  obtain ⟨shown, hshown, halike⟩ := h
  have hrel := hchanged.others j hj
  rw [hshown] at hrel
  obtain ⟨after, hafter, hsame⟩ := eq_some_of_rel hrel
  refine ⟨after, hafter, halike.trans ⟨hsame.fields.symm, ?_⟩⟩
  refine ParameterLists.alike_of_records _ _ hsame.all hsame.form fun i hi => ?_
  rw [t.records_of_operation? j after hafter, s.records_of_operation? j shown hshown]
  refine hchanged.keeps i (s.lt_of_listed_operation? j shown hshown i hi) fun op hop => ?_
  exact hs.apart j k shown op hj hshown hop i hi

/-- What a command makes of the operation of its slot: a copy leaves it alone. -/
def Command.resultOf (op : Operation) : Command → Operation
  | .on _ step => step.result op
  | .copy _ => op

theorem shows_after_self (s : Session) (c : Command) (op : Operation)
    (hs : s.Separate) (h : s.Shows c.slot op) :
    (s.after c).Shows c.slot (c.resultOf op) := by
  cases c with
  | on slot step =>
    obtain ⟨shown, hshown, halike⟩ := h
    obtain ⟨hle, hput⟩ := stateOf_perform slot step ⟨s, []⟩ shown hshown
    have hself := operation?_put_self s slot (step.result shown) hle
      (s.lt_of_operation? slot shown hshown)
    refine ⟨step.result shown, ?_, halike.result step⟩
    rw [← hself]
    exact congrArg (fun t : Session => t.operation? slot) hput
  | copy slot =>
    obtain ⟨shown, hshown, -⟩ := id h
    have hne : slot ≠ s.slots.length := by
      have := s.lt_of_operation? slot shown hshown
      omega
    exact h.changed hs (changed_copy s slot) hne

theorem shows_after_other (s : Session) (c : Command) (j : Nat)
    (op : Operation) (hs : s.Separate) (h : s.Shows j op) (hj : c.slot ≠ j) :
    (s.after c).Shows j op := by
  cases c with
  | on slot step => exact h.changed hs (changed_perform slot step ⟨s, []⟩) (Ne.symm hj)
  | copy slot =>
    obtain ⟨shown, hshown, -⟩ := id h
    have hne : j ≠ s.slots.length := by
      have := s.lt_of_operation? j shown hshown
      omega
    exact h.changed hs (changed_copy s slot) hne

/-- **A slot shows what its own commands make of its operation**, whatever is done to the other
slots in between. -/
theorem shows_afterAll (k : Nat) (commands : List Command) :
    ∀ (s : Session) (op : Operation), s.Separate → s.Shows k op →
      (s.afterAll commands).Shows k
        ((commands.filter (·.slot = k)).foldl (Command.resultOf) op) := by
  induction commands with
  | nil => intro s op _ h; exact h
  | cons c rest ih =>
    intro s op hs h
    have hafter := separate_after s c hs
    by_cases hc : c.slot = k
    · subst hc
      rw [List.filter_cons_of_pos (by simp), List.foldl_cons]
      exact ih _ _ hafter (shows_after_self s c op hs h)
    · rw [List.filter_cons_of_neg (by simpa using hc)]
      exact ih _ _ hafter (shows_after_other s c k op hs h hc)

/-- A copy shows what the original does. -/
theorem shows_copy (s : Session) (k : Nat) (op : Operation) (hs : s.Separate) (h : s.Shows k op) :
    (s.copy k).Shows s.slots.length op := by
  obtain ⟨shown, hshown, halike⟩ := h
  have hcopy := shown.looksLike_copy (hs.linked k shown hshown)
  have hbehind := ParameterLists.alike_behind shown.copy.params s.records
  refine ⟨{ shown.copy with params := shown.copy.params.behind s.records }, ?_,
    halike.trans (hcopy.trans ⟨rfl, hbehind⟩)⟩
  rw [copy, hshown]
  exact operation?_adopt_last s shown.copy

end Session

end PlayScaffold
