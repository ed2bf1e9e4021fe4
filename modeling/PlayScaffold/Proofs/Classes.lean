import PlayScaffold.Proofs.Bundle
import PlayScaffold.Proofs.ByteOrder
import PlayScaffold.Rendering

/-!
# Classes part the operations

Each operation of a bundle belongs to one of its classes, which come in the order of their bytes:

    (b.apiClasses.flatMap b.operationsFor).Perm b.operations

What a template sees of the classes says the same: the groups of the global context are the classes
with their operations, and a template of a class sees the operations of its group
(`classes_part_operations`).
-/

namespace PlayScaffold

open Template (Context)

/-! ## Groups by key -/

section Groups

variable {α κ : Type} [DecidableEq κ]

/-- The items whose keys are listed, key by key. -/
theorem perm_flatMap_filter_mem (key : α → κ) (items : List α) (keys : List κ) (h : keys.Nodup) :
    (keys.flatMap fun k => items.filter (key · == k)).Perm (items.filter (key · ∈ keys)) := by
  induction keys with
  | nil => simp
  | cons k rest ih =>
    obtain ⟨hk, hrest⟩ := List.nodup_cons.mp h
    -- the items of the first key are those that the others leave out
    have hfirst : (items.filter (key · ∈ k :: rest)).filter (key · == k) =
        items.filter (key · == k) := by
      rw [List.filter_filter]
      refine List.filter_congr fun x _ => ?_
      by_cases hx : key x = k <;> simp [hx]
    have hothers : (items.filter (key · ∈ k :: rest)).filter (fun x => !(key x == k)) =
        items.filter (key · ∈ rest) := by
      rw [List.filter_filter]
      refine List.filter_congr fun x _ => ?_
      by_cases hx : key x = k
      · simp [hx, hk]
      · simp [hx]
    have hsplit := List.filter_append_perm (key · == k) (items.filter (key · ∈ k :: rest))
    rw [hfirst, hothers] at hsplit
    rw [List.flatMap_cons]
    exact ((ih hrest).append_left _).trans hsplit

/-- Items by key are the items, if every key is listed once. -/
theorem perm_flatMap_filter (key : α → κ) (items : List α) (keys : List κ) (h : keys.Nodup)
    (hkeys : ∀ x ∈ items, key x ∈ keys) :
    (keys.flatMap fun k => items.filter (key · == k)).Perm items := by
  have hperm := perm_flatMap_filter_mem key items keys h
  rwa [List.filter_eq_self.mpr fun x hx => decide_eq_true (hkeys x hx)] at hperm

end Groups

/-! ## Classes -/

theorem Operation.apiClass_ne_empty (op : Operation) : op.apiClass ≠ "" := by
  unfold apiClass
  simp only
  split
  · decide
  · next h => exact h

namespace Bundle

theorem mem_operationsFor (b : Bundle) (c : String) (op : Operation) :
    op ∈ b.operationsFor c ↔ op ∈ b.operations ∧ op.apiClass = c := by
  rw [operationsFor, List.mem_filter, beq_iff_eq]

theorem mem_apiClasses (b : Bundle) (c : String) :
    c ∈ b.apiClasses ↔ ∃ op ∈ b.operations, op.apiClass = c := mem_classesOf b.operations c

/-- The classes ascend in the order of their bytes. -/
theorem pairwise_apiClasses (b : Bundle) :
    b.apiClasses.Pairwise fun c d => Text.utf8 c < Text.utf8 d :=
  (KeyMap.pairwise_keys _).imp fun {c d} h => (Text.utf8_lt_iff c d).mpr h

theorem perm_operationsFor (b : Bundle) :
    (b.apiClasses.flatMap b.operationsFor).Perm b.operations :=
  perm_flatMap_filter Operation.apiClass b.operations b.apiClasses (nodup_classesOf b.operations)
    fun op hop => (mem_apiClasses b op.apiClass).mpr ⟨op, hop, rfl⟩

/-! ## What templates see -/

/-- The group of a class in the context of all templates. -/
def groupJson (b : Bundle) (c : String) : Json :=
  Json.ofFields [("classname", .str c), ("operations", b.operationsJson c)]

theorem get?_globalContext_apis (b : Bundle) :
    b.globalContext.get? "apis" = some (.arr (b.apiClasses.map b.groupJson)) := by
  have hapis : b.apisJson = .arr (b.apiClasses.map b.groupJson) := rfl
  rw [← hapis]
  simp [globalContext, KeyMap.get?_insert]

theorem entries_groupJson (b : Bundle) (c : String) :
    b.groupJson c = .obj [("classname", .str c), ("operations", b.operationsJson c)] := by
  have hlt : "classname" < "operations" := by decide
  simp [groupJson, Json.ofFields, Json.object, KeyMap.ofList, KeyMap.insertNew, KeyMap.empty,
    KeyMap.insertEntry, hlt]

theorem get?_classContext (b : Bundle) (global : Context) (c key : String) :
    (b.classContext global c).get? key =
      if key = "operations" then some (b.operationsJson c)
      else if key = "classname" then some (.str c)
      else global.get? key := by
  rw [classContext, KeyMap.get?_insert, KeyMap.get?_insert]

/-- **The classes part the operations.**  They ascend in the order of their bytes, none is without a
name or without operations, each operation belongs to exactly one, in its order among the others,
and together they hold all operations.  The groups that all templates see are the classes with their
operations; a template of a class sees the operations of its group, its name, and whatever else all
templates see. -/
theorem classes_part_operations (b : Bundle) :
    b.apiClasses.Pairwise (fun c d => Text.utf8 c < Text.utf8 d) ∧ "" ∉ b.apiClasses ∧
    (∀ c ∈ b.apiClasses, b.operationsFor c ≠ []) ∧
    (∀ op ∈ b.operations, ∃! c, c ∈ b.apiClasses ∧ op ∈ b.operationsFor c) ∧
    (∀ c, (b.operationsFor c).Sublist b.operations) ∧
    (b.apiClasses.flatMap b.operationsFor).Perm b.operations ∧
    ∃ groups, b.globalContext.get? "apis" = some (.arr groups) ∧
      List.Forall₂ (fun c group => group = .obj [("classname", .str c),
        ("operations", .arr ((b.operationsFor c).map Operation.toJson))]) b.apiClasses groups ∧
      List.Forall₂ (fun c group => ∀ global : Context,
          (b.classContext global c).get? "operations" = Template.field? group "operations" ∧
          (b.classContext global c).get? "classname" = Template.field? group "classname" ∧
          ∀ key, key ≠ "classname" → key ≠ "operations" →
            (b.classContext global c).get? key = global.get? key)
        b.apiClasses groups := by
  refine ⟨b.pairwise_apiClasses, ?_, ?_, ?_, fun c => List.filter_sublist, b.perm_operationsFor,
    b.apiClasses.map b.groupJson, b.get?_globalContext_apis, ?_, ?_⟩
  · intro h
    obtain ⟨op, -, hop⟩ := (b.mem_apiClasses "").mp h
    exact op.apiClass_ne_empty hop
  · intro c hc hnone
    obtain ⟨op, hop, hclass⟩ := (b.mem_apiClasses c).mp hc
    have hmem := (b.mem_operationsFor c op).mpr ⟨hop, hclass⟩
    rw [hnone] at hmem
    cases hmem
  · intro op hop
    refine ⟨op.apiClass, ⟨(b.mem_apiClasses _).mpr ⟨op, hop, rfl⟩,
      (b.mem_operationsFor _ op).mpr ⟨hop, rfl⟩⟩, fun c hc => ?_⟩
    exact ((b.mem_operationsFor c op).mp hc.2).2.symm
  · rw [List.forall₂_map_right_iff, List.forall₂_same]
    exact fun c _ => b.entries_groupJson c
  · rw [List.forall₂_map_right_iff, List.forall₂_same]
    intro c _ global
    rw [entries_groupJson]
    refine ⟨?_, ?_, fun key hname hoperations => ?_⟩
    · rw [get?_classContext, if_pos rfl]
      rfl
    · rw [get?_classContext, if_neg (by decide), if_pos rfl]
      rfl
    · rw [get?_classContext, if_neg hoperations, if_neg hname]

end Bundle

end PlayScaffold
