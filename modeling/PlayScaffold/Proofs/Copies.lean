import PlayScaffold.Proofs.Isolation
import Mathlib.Logic.Relation

/-!
# Copies of operations

Let `s` be any session of operations that were read or made new, after any commands.  Copying the
operation of slot `k` gives slot `c`.  From there on, commands may be mixed at will:

* slot `k` ends up with what its own commands alone make of it;
* slot `c` ends up with what the same commands would have made of slot `k`;
* copies of a whole model are not touched by a run on the model.

    (s.after (.copy k)).afterAll commands                              (afterAll_copy_isolated)
-/

namespace PlayScaffold

/-! ## Where operations come from -/

/-- An operation of a session was read or made new. -/
inductive Origin where
  | read (r : OperationRecord)
  | new (operationId httpMethod path : String)

/-- The operation before anything is done to it. -/
def Origin.operation : Origin → Operation
  | .read r => r.toOperation
  | .new operationId httpMethod path => Operation.new operationId httpMethod path

theorem Origin.linked (o : Origin) : o.operation.params.Linked := by
  cases o with
  | read r => exact ParameterLists.linked_ofValues r.allParams r.formParams
  | new operationId httpMethod path => exact ParameterLists.linked_ofAll []

namespace Session

def ofOrigins (origins : List Origin) : Session := ofOperations (origins.map Origin.operation)

theorem separate_ofOrigins (origins : List Origin) : (ofOrigins origins).Separate := by
  refine separate_ofOperations _ fun op hop => ?_
  obtain ⟨o, -, rfl⟩ := List.mem_map.mp hop
  exact o.linked

theorem exists_shows (s : Session) (k : Nat) (h : k < s.slots.length) : ∃ op, s.Shows k op := by
  obtain ⟨op, hop⟩ := Option.isSome_iff_exists.mp ((s.operation?_isSome_iff k).mpr h)
  exact ⟨op, op, hop, Operation.LooksLike.refl op⟩

/-! ## Programs on some of the slots -/

/-- The second session comes from the first one by changes of these slots. -/
def ChangedAt (slots : List Nat) : Session → Session → Prop :=
  Relation.ReflTransGen fun s t => ∃ k ∈ slots, Changed k s t

section ChangedAt

variable {slots : List Nat} {s t : Session}

theorem ChangedAt.separate (h : ChangedAt slots s t) (hs : s.Separate) : t.Separate := by
  induction h with
  | refl => exact hs
  | tail _ hchanged ih =>
    obtain ⟨k, -, hchanged⟩ := hchanged
    exact ih.changed hchanged

/-- The other slots show what they did. -/
theorem ChangedAt.shows (h : ChangedAt slots s t) (hs : s.Separate) (j : Nat) (hj : j ∉ slots)
    (op : Operation) (hop : s.Shows j op) : t.Shows j op := by
  induction h with
  | refl => exact hop
  | tail hsteps hchanged ih =>
    obtain ⟨k, hk, hchanged⟩ := hchanged
    refine ih.changed (ChangedAt.separate hsteps hs) hchanged ?_
    rintro rfl
    exact hj hk

end ChangedAt

/-- Whatever the program does, and also where it fails, it changes no slots but these. -/
def Touches {α : Type} (slots : List Nat) (p : InPlace Session α) : Prop :=
  ∀ st : Logged Session, ChangedAt slots st.value (InPlace.stateOf (p st)).value

variable {α β : Type} (slots : List Nat)

theorem touches_pure (a : α) : Touches slots (pure a : InPlace Session α) :=
  fun _ => Relation.ReflTransGen.refl

theorem touches_log (x : Logged α) : Touches slots (InPlace.log x) :=
  fun _ => Relation.ReflTransGen.refl

theorem touches_bind (p : InPlace Session α) (f : α → InPlace Session β) (hp : Touches slots p)
    (hf : ∀ a, Touches slots (f a)) : Touches slots (p >>= f) := by
  intro st
  have hfirst := hp st
  cases hresult : p st with
  | error e st' =>
    rw [InPlace.bind_of_error p f st st' e hresult]
    rwa [hresult] at hfirst
  | ok a st' =>
    rw [InPlace.bind_of_ok p f st st' a hresult]
    rw [hresult] at hfirst
    exact hfirst.trans (hf a st')

theorem touches_perform (k : Nat) (step : Step) (hk : k ∈ slots) :
    Touches slots (perform k step) :=
  fun st => Relation.ReflTransGen.single ⟨k, hk, changed_perform k step st⟩

theorem touches_forM (f : Nat → InPlace Session Unit) (hf : ∀ k ∈ slots, Touches slots (f k)) :
    Touches slots (slots.forM f) := by
  suffices hall : ∀ rest : List Nat, rest ⊆ slots → Touches slots (rest.forM f) from
    hall slots (List.Subset.refl slots)
  intro rest
  induction rest with
  | nil => intro _; exact touches_pure slots ()
  | cons k rest ih =>
    intro hsub
    obtain ⟨hk, hrest⟩ := List.cons_subset.mp hsub
    exact touches_bind slots (f k) _ (hf k hk) fun _ => ih hrest

theorem touches_generate (primitives : List String) (schemes : List SecurityScheme) :
    Touches slots (generate primitives slots schemes) := by
  have hforM : ∀ step, Touches slots (slots.forM fun k => perform k step) := fun step =>
    touches_forM slots _ fun k hk => touches_perform slots k step hk
  refine touches_bind slots _ _ (hforM _) fun _ => ?_
  refine touches_bind slots _ _ (touches_log slots _) fun decorated => ?_
  exact touches_bind slots _ _ (hforM _) fun _ => touches_pure slots _

/-! ## Copies of several slots -/

/-- The session with a copy of each of the slots behind its own. -/
def copyAll (s : Session) (slots : List Nat) : Session := s.afterAll (slots.map .copy)

theorem length_slots_copy (s : Session) (k : Nat) (h : k < s.slots.length) :
    (s.copy k).slots.length = s.slots.length + 1 := by
  obtain ⟨op, hop⟩ := Option.isSome_iff_exists.mp ((s.operation?_isSome_iff k).mpr h)
  rw [copy, hop]
  exact List.length_append

theorem foldl_resultOf_copies (op : Operation) (commands : List Command)
    (h : ∀ c ∈ commands, ∃ k, c = .copy k) : commands.foldl Command.resultOf op = op := by
  induction commands with
  | nil => rfl
  | cons c rest ih =>
    obtain ⟨⟨k, rfl⟩, hrest⟩ := List.forall_mem_cons.mp h
    exact ih hrest

/-- Copying changes no slot that is there. -/
theorem shows_copyAll (s : Session) (slots : List Nat) (j : Nat) (op : Operation) (hs : s.Separate)
    (h : s.Shows j op) : (s.copyAll slots).Shows j op := by
  have hafter := shows_afterAll j (slots.map .copy) s op hs h
  rwa [foldl_resultOf_copies] at hafter
  intro c hc
  obtain ⟨k, -, rfl⟩ := List.mem_map.mp (List.mem_filter.mp hc).1
  exact ⟨k, rfl⟩

/-- Each copy shows what its slot does. -/
theorem shows_copyAll_behind (slots : List Nat) : ∀ s : Session, s.Separate →
    (∀ k ∈ slots, k < s.slots.length) → ∀ i (hi : i < slots.length) op, s.Shows slots[i] op →
      (s.copyAll slots).Shows (s.slots.length + i) op := by
  induction slots with
  | nil => intro s _ _ i hi; exact absurd hi (Nat.not_lt_zero i)
  | cons k rest ih =>
    intro s hs hslots i hi op h
    obtain ⟨hk, hrest⟩ := List.forall_mem_cons.mp hslots
    have hs' : (s.copy k).Separate := separate_after s (.copy k) hs
    have hlength := length_slots_copy s k hk
    show ((s.copy k).copyAll rest).Shows (s.slots.length + i) op
    -- the first copy is a slot that all later ones leave alone
    cases i with
    | zero => exact shows_copyAll (s.copy k) rest s.slots.length op hs' (shows_copy s k op hs h)
    | succ i =>
      have hi' : i < rest.length := Nat.lt_of_succ_lt_succ hi
      have hshown : (s.copy k).Shows rest[i] op := shows_copyAll s [k] rest[i] op hs h
      have hlater := ih (s.copy k) hs'
        (fun j hj => by have := hrest j hj; omega) i hi' op hshown
      rwa [hlength, Nat.add_right_comm] at hlater

/-! ## Isolation -/

theorem resultOf_at (k : Nat) (op : Operation) (c : Command) :
    (c.at k).resultOf op = c.resultOf op := by
  cases c <;> rfl

theorem slot_at (k : Nat) (c : Command) : (c.at k).slot = k := by
  cases c <;> rfl

/-- A slot after commands that are all made out to it. -/
theorem shows_afterAll_at (s : Session) (k : Nat) (op : Operation) (commands : List Command)
    (hs : s.Separate) (h : s.Shows k op) :
    (s.afterAll (commands.map (·.at k))).Shows k (commands.foldl Command.resultOf op) := by
  have hafter := shows_afterAll k (commands.map (·.at k)) s op hs h
  rw [List.filter_eq_self.mpr ?_, List.foldl_map] at hafter
  · simpa only [resultOf_at] using hafter
  · intro c hc
    obtain ⟨d, -, rfl⟩ := List.mem_map.mp hc
    simp [slot_at]

/-- Commands for one slot, picked out of others before or after. -/
theorem shows_afterAll_filter (s : Session) (k : Nat) (op : Operation) (commands : List Command)
    (hs : s.Separate) (h : s.Shows k op) :
    (s.afterAll (commands.filter (·.slot = k))).Shows k
      ((commands.filter (·.slot = k)).foldl Command.resultOf op) := by
  have hafter := shows_afterAll k (commands.filter (·.slot = k)) s op hs h
  rw [List.filter_filter] at hafter
  simpa only [Bool.and_self] using hafter

/-- **Copies are isolated.**  Whatever is done to an operation and its copy, in whatever order and
with whatever else in between, the operation ends as if there were no copy, and the copy as the
operation would have if the steps on the copy had been done to it.  Copies of a whole model show
what they were made from when a run on the model has ended or failed. -/
theorem afterAll_copy_isolated (origins : List Origin) (before : List Command) (s : Session)
    (hs : s = (ofOrigins origins).afterAll before) (k : Nat) (hk : k < s.slots.length) :
    (∀ commands : List Command,
      let forked := (s.after (.copy k)).afterAll commands
      let own := commands.filter (·.slot = k)
      let copied := commands.filter (·.slot = s.slots.length)
      (∃ v, forked.view? k = some v ∧ (s.afterAll own).view? k = some v) ∧
      ∃ v, forked.view? s.slots.length = some v ∧
        (s.afterAll (copied.map (·.at k))).view? k = some v) ∧
    ∀ (primitives : List String) (slots : List Nat) (schemes : List SecurityScheme),
      (∀ j ∈ slots, j < s.slots.length) →
      let ran := generate primitives slots schemes ⟨s.copyAll slots, []⟩
      ∀ i (hi : i < slots.length), ∃ v,
        (InPlace.stateOf ran).value.view? (s.slots.length + i) = some v ∧
        s.view? slots[i] = some v := by
  have hseparate : s.Separate := by
    rw [hs]
    exact separate_afterAll before _ (separate_ofOrigins origins)
  have hforked : (s.after (.copy k)).Separate := separate_after s (.copy k) hseparate
  refine ⟨fun commands => ⟨?_, ?_⟩, fun primitives slots schemes hslots i hi => ?_⟩
  · obtain ⟨op, hop⟩ := exists_shows s k hk
    have hkept : (s.after (.copy k)).Shows k op := shows_copyAll s [k] k op hseparate hop
    exact ⟨_, (shows_afterAll k commands _ op hforked hkept).view?,
      (shows_afterAll_filter s k op commands hseparate hop).view?⟩
  · obtain ⟨op, hop⟩ := exists_shows s k hk
    have hcopy : (s.after (.copy k)).Shows s.slots.length op := shows_copy s k op hseparate hop
    exact ⟨_, (shows_afterAll s.slots.length commands _ op hforked hcopy).view?,
      (shows_afterAll_at s k op _ hseparate hop).view?⟩
  · obtain ⟨op, hop⟩ := exists_shows s slots[i] (hslots _ (List.getElem_mem hi))
    have hcopy := shows_copyAll_behind slots s hseparate hslots i hi op hop
    have hcopied : (s.copyAll slots).Separate := separate_afterAll _ s hseparate
    have hnew : s.slots.length + i ∉ slots := fun hmem => by
      have := hslots _ hmem
      omega
    have htouches := touches_generate slots primitives schemes ⟨s.copyAll slots, []⟩
    exact ⟨op.view, (htouches.shows hcopied _ hnew op hcopy).view?, hop.view?⟩

/-- The upload of a photo: a file in the form, which is one of all parameters, and a caption. -/
def photoUpload : OperationRecord where
  operationId := "addPhoto"
  httpMethod := "POST"
  path := "/photos"
  allParams := [{ baseName := "photo", isFormParam := true, isFile := true }]
  formParams := [{ baseName := "photo", isFormParam := true, isFile := true },
    { baseName := "caption", isFormParam := true }]

/-- The photo of the copy gets another type and the original is simplified: each shows its own steps
and not those of the other, and the photo of the copy is still one record in both lists. -/
theorem afterAll_copy_isolated_photo :
    let s := (ofOrigins [.read photoUpload]).afterAll []
    let retype : Step := .edit .form 0 fun p => { p with dataType := "Bytes" }
    let forked := (s.after (.copy 0)).afterAll
      [.on 1 retype, .on 0 (.simplify []), .copy 1, .on 2 (.transform [])]
    forked.view? 0 = (s.afterAll [.on 0 (.simplify [])]).view? 0 ∧
    forked.view? 1 = (s.afterAll [.on 0 retype, .copy 0]).view? 0 ∧
    (forked.view? 0).map (fun v => v.allParams.map (·.dataType)) = some [multipartFileType] ∧
    (forked.view? 1).map (fun v => v.allParams.map (·.dataType)) = some ["Bytes"] ∧
    (forked.view? 1).map (·.links) = some [some 0, none] := by
  intro s retype forked
  obtain ⟨hcommands, -⟩ := afterAll_copy_isolated [.read photoUpload] [] s rfl 0 (by decide)
  obtain ⟨⟨v, hv, hown⟩, w, hw, hcopied⟩ := hcommands
    [.on 1 retype, .on 0 (.simplify []), .copy 1, .on 2 (.transform [])]
  exact ⟨hv.trans hown.symm, hw.trans hcopied.symm, by decide +kernel, by decide +kernel,
    by decide +kernel⟩

end Session

end PlayScaffold
