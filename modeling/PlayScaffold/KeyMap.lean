/-!
# Maps with ascending keys

A `KeyMap` lists its entries by ascending key, each key once.  Keys ascend by code point, which for
texts in UTF-8 is the order of their bytes.  The order is part of the type, so that two maps with
the same entries are equal.
-/

namespace PlayScaffold

/-- Entries in ascending order of their keys. -/
structure KeyMap (α : Type) where
  entries : List (String × α)
  ascending : entries.Pairwise (·.1 < ·.1)

namespace KeyMap

variable {α β : Type}

/-! ## Insertion -/

/-- The entries with `value` at `key`; where the key has a value already, `choose` takes the new
and the old one. -/
def insertEntry (choose : α → α → α) (key : String) (value : α) :
    List (String × α) → List (String × α)
  | [] => [(key, value)]
  | (k, v) :: rest =>
    if key < k then (key, value) :: (k, v) :: rest
    else if key = k then (k, choose value v) :: rest
    else (k, v) :: insertEntry choose key value rest

theorem key_mem_insertEntry {choose : α → α → α} {key : String} {value : α}
    {entries : List (String × α)} {e : String × α}
    (h : e ∈ insertEntry choose key value entries) : e.1 = key ∨ ∃ f ∈ entries, f.1 = e.1 := by
  induction entries with
  | nil => simp_all [insertEntry]
  | cons f rest ih =>
    simp only [insertEntry] at h
    split at h
    · simp only [List.mem_cons] at h
      rcases h with rfl | rfl | h
      · exact .inl rfl
      · exact .inr ⟨_, List.mem_cons_self, rfl⟩
      · exact .inr ⟨e, List.mem_cons_of_mem _ h, rfl⟩
    · split at h
      · simp only [List.mem_cons] at h
        rcases h with rfl | h
        · exact .inr ⟨_, List.mem_cons_self, rfl⟩
        · exact .inr ⟨e, List.mem_cons_of_mem _ h, rfl⟩
      · simp only [List.mem_cons] at h
        rcases h with rfl | h
        · exact .inr ⟨_, List.mem_cons_self, rfl⟩
        · rcases ih h with h | ⟨g, hg, he⟩
          · exact .inl h
          · exact .inr ⟨g, List.mem_cons_of_mem _ hg, he⟩

theorem insertEntry_ascending {choose : α → α → α} {key : String} {value : α}
    {entries : List (String × α)} (h : entries.Pairwise (·.1 < ·.1)) :
    (insertEntry choose key value entries).Pairwise (·.1 < ·.1) := by
  induction entries with
  | nil => simp [insertEntry]
  | cons f rest ih =>
    obtain ⟨hf, hrest⟩ := List.pairwise_cons.1 h
    simp only [insertEntry]
    split
    · rename_i hlt
      refine List.pairwise_cons.2 ⟨fun e he => ?_, h⟩
      rcases List.mem_cons.1 he with rfl | he
      · exact hlt
      · exact String.lt_trans hlt (hf e he)
    · split
      · exact List.pairwise_cons.2 ⟨hf, hrest⟩
      · rename_i hnot hne
        refine List.pairwise_cons.2 ⟨fun e he => ?_, ih hrest⟩
        rcases key_mem_insertEntry he with he | ⟨g, hg, he⟩
        · rcases Std.lt_trichotomy f.1 key with hlt | heq | hgt
          · exact he ▸ hlt
          · exact absurd heq.symm hne
          · exact absurd hgt hnot
        · exact he ▸ hf g hg

/-- The map with `value` at `key`, whatever was there. -/
def insert (m : KeyMap α) (key : String) (value : α) : KeyMap α :=
  ⟨insertEntry (fun new _ => new) key value m.entries, insertEntry_ascending m.ascending⟩

/-- The map with `value` at `key`, unless the key has a value already. -/
def insertNew (m : KeyMap α) (key : String) (value : α) : KeyMap α :=
  ⟨insertEntry (fun _ old => old) key value m.entries, insertEntry_ascending m.ascending⟩

/-! ## Construction and look-up -/

def empty : KeyMap α := ⟨[], List.Pairwise.nil⟩

instance : Inhabited (KeyMap α) := ⟨empty⟩

/-- The map of a list of entries in any order; of several values at one key the last one counts. -/
def ofList (entries : List (String × α)) : KeyMap α :=
  entries.foldr (fun e m => m.insertNew e.1 e.2) empty

def get? (m : KeyMap α) (key : String) : Option α := m.entries.lookup key

def keys (m : KeyMap α) : List String := m.entries.map (·.1)

def size (m : KeyMap α) : Nat := m.entries.length

end KeyMap

end PlayScaffold
