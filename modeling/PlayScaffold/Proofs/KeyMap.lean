import PlayScaffold.KeyMap

/-!
# Looking up in maps with ascending keys

A map is determined by what stands at its keys.  Inserting changes one key and nothing else, and
inserting what is there already changes nothing at all.

    (m.insert key value).get? k = if k = key then some value else m.get? k      (get?_insert)
    m.insert key value = m ↔ m.get? key = some value                            (insert_eq_self_iff)
    m.get? key = some value ↔ (key, value) ∈ m.entries                          (get?_eq_some_iff)
    k ∈ (ofList entries).keys ↔ k ∈ entries.map (·.1)                           (mem_keys_ofList)
    ofList m.entries = m                                                        (ofList_entries)
    (ofList entries).get? k = entries.lookup k, if no key comes twice           (get?_ofList)

The entries whose keys pass a test are the map of the entries that passed it before
(`filter_entries_ofList`): a map of several records falls apart into them again.  They depend on
what stands at those keys alone (`filter_entries_eq`).
-/

namespace PlayScaffold.KeyMap

variable {α : Type}

theorem lookup_insertEntry (choose : α → α → α) (key : String) (value : α)
    (entries : List (String × α)) (k : String) (hk : k ≠ key) :
    (insertEntry choose key value entries).lookup k = entries.lookup k := by
  have hbeq : (k == key) = false := beq_eq_false_iff_ne.mpr hk
  induction entries with
  | nil => simp [insertEntry, List.lookup_cons, hbeq]
  | cons e rest ih =>
    obtain ⟨l, v⟩ := e
    rw [insertEntry]
    split
    · rw [List.lookup_cons, hbeq]
    · split
      · next heq =>
        subst heq
        simp only [List.lookup_cons, hbeq]
      · simp only [List.lookup_cons, ih]

theorem lookup_insertEntry_self (key : String) (value : α) (entries : List (String × α)) :
    (insertEntry (fun new _ => new) key value entries).lookup key = some value := by
  induction entries with
  | nil => simp [insertEntry]
  | cons e rest ih =>
    obtain ⟨l, v⟩ := e
    rw [insertEntry]
    split
    · simp
    · next hlt =>
      split
      · next heq => simp [heq]
      · next hne =>
        rw [List.lookup_cons, beq_eq_false_iff_ne.mpr hne]
        exact ih

theorem lookup_insertEntry_of_none (choose : α → α → α) (key : String) (value : α)
    (entries : List (String × α)) (h : entries.lookup key = none) :
    (insertEntry choose key value entries).lookup key = some value := by
  induction entries with
  | nil => simp [insertEntry]
  | cons e rest ih =>
    obtain ⟨l, v⟩ := e
    rw [List.lookup_cons] at h
    rw [insertEntry]
    split at h
    · cases h
    · next hne =>
      have hkey : key ≠ l := beq_eq_false_iff_ne.mp hne
      split
      · simp
      · rw [List.lookup_cons, hne]
        exact ih h

/-- Only the key that is inserted at changes. -/
theorem get?_insert (m : KeyMap α) (key : String) (value : α) (k : String) :
    (m.insert key value).get? k = if k = key then some value else m.get? k := by
  by_cases hk : k = key
  · rw [if_pos hk, hk]
    exact lookup_insertEntry_self key value m.entries
  · rw [if_neg hk]
    exact lookup_insertEntry _ key value m.entries k hk

theorem lookup_eq_some_iff_mem (entries : List (String × α))
    (h : entries.Pairwise (·.1 < ·.1)) (key : String) (value : α) :
    entries.lookup key = some value ↔ (key, value) ∈ entries := by
  induction entries with
  | nil => simp
  | cons e rest ih =>
    obtain ⟨l, v⟩ := e
    obtain ⟨hfirst, hrest⟩ := List.pairwise_cons.mp h
    rw [List.lookup_cons, List.mem_cons]
    by_cases hkey : key = l
    · subst hkey
      rw [beq_self_eq_true]
      constructor
      · intro hv
        exact Or.inl (by rw [Option.some.inj hv])
      · rintro (heq | hmem)
        · rw [(Prod.mk.inj heq).2]
        · exact absurd (hfirst _ hmem) (String.lt_irrefl key)
    · rw [beq_eq_false_iff_ne.mpr hkey]
      show rest.lookup key = some value ↔ _
      rw [ih hrest]
      constructor
      · exact Or.inr
      · rintro (heq | hmem)
        · exact absurd (Prod.mk.inj heq).1 hkey
        · exact hmem

/-- What is found at a key is what the map holds there. -/
theorem get?_eq_some_iff (m : KeyMap α) (key : String) (value : α) :
    m.get? key = some value ↔ (key, value) ∈ m.entries :=
  lookup_eq_some_iff_mem m.entries m.ascending key value

theorem insertEntry_of_mem (key : String) (value : α) (entries : List (String × α))
    (h : entries.Pairwise (·.1 < ·.1)) (hmem : (key, value) ∈ entries) :
    insertEntry (fun new _ => new) key value entries = entries := by
  induction entries with
  | nil => cases hmem
  | cons e rest ih =>
    obtain ⟨l, v⟩ := e
    obtain ⟨hfirst, hrest⟩ := List.pairwise_cons.mp h
    rw [insertEntry]
    rcases List.mem_cons.mp hmem with heq | hmem
    · obtain ⟨rfl, rfl⟩ := Prod.mk.inj heq
      rw [if_neg (String.lt_irrefl key), if_pos rfl]
    · have hlt : l < key := hfirst _ hmem
      have hne : key ≠ l := fun heq => String.lt_irrefl l (heq ▸ hlt)
      rw [if_neg (fun hgt => String.lt_irrefl l (String.lt_trans hlt hgt)), if_neg hne,
        ih hrest hmem]

/-- Inserting changes nothing exactly where the value is there already. -/
theorem insert_eq_self_iff (m : KeyMap α) (key : String) (value : α) :
    m.insert key value = m ↔ m.get? key = some value := by
  constructor
  · intro h
    rw [← h, get?_insert, if_pos rfl]
  · intro h
    have := insertEntry_of_mem key value m.entries m.ascending ((get?_eq_some_iff m key value).mp h)
    cases m
    simp only [insert, mk.injEq]
    exact this

/-! ## Keys -/

theorem mem_keys_insertEntry (choose : α → α → α) (key : String) (value : α)
    (entries : List (String × α)) (k : String) :
    k ∈ (insertEntry choose key value entries).map (·.1) ↔ k = key ∨ k ∈ entries.map (·.1) := by
  induction entries with
  | nil => simp [insertEntry]
  | cons e rest ih =>
    obtain ⟨l, v⟩ := e
    rw [insertEntry]
    split
    · simp
    · split
      · next heq => simp [heq]
      · rw [List.map_cons, List.mem_cons, ih, List.map_cons, List.mem_cons]
        exact or_left_comm

theorem mem_keys_ofList (entries : List (String × α)) (k : String) :
    k ∈ (ofList entries).keys ↔ k ∈ entries.map (·.1) := by
  induction entries with
  | nil => simp [ofList, keys, empty]
  | cons e rest ih =>
    rw [List.map_cons, List.mem_cons, ← ih]
    exact mem_keys_insertEntry (fun _ old => old) e.1 e.2 (ofList rest).entries k

theorem pairwise_keys (m : KeyMap α) : m.keys.Pairwise (· < ·) := List.pairwise_map.mpr m.ascending

/-- No key is listed twice. -/
theorem nodup_keys (m : KeyMap α) : m.keys.Nodup := by
  refine List.nodup_iff_pairwise_ne.mpr (m.pairwise_keys.imp fun {k l} hlt heq => ?_)
  rw [heq] at hlt
  exact String.lt_irrefl _ hlt

/-- Which keys there are decides their order. -/
theorem keys_eq_of_mem_iff {β : Type} (m : KeyMap α) (n : KeyMap β)
    (h : ∀ k, k ∈ m.keys ↔ k ∈ n.keys) : m.keys = n.keys := by
  have hperm : m.keys.Perm n.keys := (List.perm_ext_iff_of_nodup m.nodup_keys n.nodup_keys).mpr h
  refine List.Perm.eq_of_pairwise (fun k l _ _ hkl hlk => ?_) m.pairwise_keys n.pairwise_keys hperm
  exact absurd (String.lt_trans hkl hlk) (String.lt_irrefl k)

/-- Maps that agree at some keys have the same entries there, in the same order. -/
theorem filter_entries_eq (m n : KeyMap α) (test : String → Bool)
    (h : ∀ key, test key = true → m.get? key = n.get? key) :
    m.entries.filter (fun e => test e.1) = n.entries.filter fun e => test e.1 := by
  have hnodup : ∀ l : KeyMap α, (l.entries.filter fun e => test e.1).Nodup := by
    intro l
    refine List.nodup_iff_pairwise_ne.mpr ((l.ascending.filter _).imp fun {e f} hlt heq => ?_)
    rw [heq] at hlt
    exact String.lt_irrefl _ hlt
  have hmem : ∀ e, (e ∈ m.entries.filter fun e => test e.1) ↔
      e ∈ n.entries.filter fun e => test e.1 := by
    rintro ⟨key, value⟩
    rw [List.mem_filter, List.mem_filter]
    refine and_congr_left fun hkey => ?_
    rw [← get?_eq_some_iff, ← get?_eq_some_iff, h key hkey]
  have hperm := (List.perm_ext_iff_of_nodup (hnodup m) (hnodup n)).mpr hmem
  refine List.Perm.eq_of_pairwise (fun e f _ _ hef hfe => ?_) (m.ascending.filter _)
    (n.ascending.filter _) hperm
  exact absurd (String.lt_trans hef hfe) (String.lt_irrefl _)

/-! ## Maps of lists -/

@[simp] theorem entries_ofList_nil : (ofList ([] : List (String × α))).entries = [] := rfl

@[simp] theorem entries_ofList_cons (e : String × α) (rest : List (String × α)) :
    (ofList (e :: rest)).entries =
      insertEntry (fun _ old => old) e.1 e.2 (ofList rest).entries := rfl

theorem insertEntry_of_lt (choose : α → α → α) (key : String) (value : α)
    (entries : List (String × α)) (h : ∀ e ∈ entries, key < e.1) :
    insertEntry choose key value entries = (key, value) :: entries := by
  cases entries with
  | nil => rfl
  | cons e rest => rw [insertEntry, if_pos (h e List.mem_cons_self)]

/-- Entries in ascending order are those of a map already. -/
theorem ofList_entries (m : KeyMap α) : ofList m.entries = m := by
  obtain ⟨entries, h⟩ := m
  induction entries with
  | nil => rfl
  | cons e rest ih =>
    obtain ⟨hfirst, hrest⟩ := List.pairwise_cons.mp h
    show (ofList rest).insertNew e.1 e.2 = _
    rw [ih hrest]
    simp only [insertNew, insertEntry_of_lt _ e.1 e.2 rest hfirst]

/-- A map of entries with distinct keys holds what the list does. -/
theorem get?_ofList (entries : List (String × α)) (h : (entries.map (·.1)).Nodup) (key : String) :
    (ofList entries).get? key = entries.lookup key := by
  induction entries with
  | nil => rfl
  | cons e rest ih =>
    obtain ⟨l, v⟩ := e
    obtain ⟨hnew, hrest⟩ := List.nodup_cons.mp h
    have ih := ih hrest
    rw [get?] at ih ⊢
    rw [entries_ofList_cons, List.lookup_cons]
    by_cases hkey : key = l
    · subst hkey
      have hnone : rest.lookup key = none := by
        rw [List.lookup_eq_none_iff]
        intro f hf
        rw [bne_iff_ne]
        intro heq
        exact hnew (List.mem_map.mpr ⟨f, hf, heq.symm⟩)
      rw [beq_self_eq_true, lookup_insertEntry_of_none _ key v _ (ih.trans hnone)]
    · rw [beq_eq_false_iff_ne.mpr hkey, lookup_insertEntry _ l v _ key hkey, ih]

theorem filter_insertEntry (choose : α → α → α) (key : String) (value : α)
    (entries : List (String × α)) (h : entries.Pairwise (·.1 < ·.1)) (test : String → Bool) :
    (insertEntry choose key value entries).filter (fun e => test e.1) =
      if test key then insertEntry choose key value (entries.filter fun e => test e.1)
      else entries.filter fun e => test e.1 := by
  induction entries with
  | nil => cases hkey : test key <;> simp [insertEntry, hkey]
  | cons e rest ih =>
    obtain ⟨l, v⟩ := e
    obtain ⟨hfirst, hrest⟩ := List.pairwise_cons.mp h
    rw [insertEntry]
    split
    · next hlt =>
      have hall : ∀ f ∈ ((l, v) :: rest).filter (fun e => test e.1), key < f.1 := by
        intro f hf
        rcases List.mem_cons.mp (List.mem_filter.mp hf).1 with rfl | hf
        · exact hlt
        · exact String.lt_trans hlt (hfirst f hf)
      rw [insertEntry_of_lt choose key value _ hall]
      cases hkey : test key <;> simp [hkey]
    · next hnot =>
      split
      · next heq =>
        subst heq
        cases hkey : test key <;> simp [insertEntry, hkey]
      · next hne =>
        cases hl : test l <;> cases hkey : test key <;>
          simp [insertEntry, hl, hkey, hnot, hne, ih hrest]

/-- Leaving out keys commutes with making a map. -/
theorem filter_entries_ofList (entries : List (String × α)) (test : String → Bool) :
    (ofList entries).entries.filter (fun e => test e.1) =
      (ofList (entries.filter fun e => test e.1)).entries := by
  induction entries with
  | nil => rfl
  | cons e rest ih =>
    rw [entries_ofList_cons, filter_insertEntry _ e.1 e.2 _ (ofList rest).ascending, ih]
    rw [List.filter_cons]
    split <;> rfl

/-! ## The first of several entries -/

/-- The first entry with `Q`, behind entries that all have `P`, is the one with the least key of all
those that do not have `P`. -/
theorem exists_first_iff (entries : List (String × α)) (h : entries.Pairwise (·.1 < ·.1))
    (P Q : String × α → Prop) :
    (∃ before e after, entries = before ++ e :: after ∧ (∀ f ∈ before, P f) ∧ Q e) ↔
      ∃ e ∈ entries, Q e ∧ ∀ f ∈ entries, ¬ P f → f = e ∨ e.1 < f.1 := by
  constructor
  · rintro ⟨before, e, after, rfl, hbefore, he⟩
    obtain ⟨-, hafter, -⟩ := List.pairwise_append.mp h
    refine ⟨e, List.mem_append_right _ List.mem_cons_self, he, fun f hf hfails => ?_⟩
    rcases List.mem_append.mp hf with hf | hf
    · exact absurd (hbefore f hf) hfails
    · rcases List.mem_cons.mp hf with rfl | hf
      · exact Or.inl rfl
      · exact Or.inr ((List.pairwise_cons.mp hafter).1 f hf)
  · rintro ⟨e, hmem, he, hfirst⟩
    obtain ⟨before, after, rfl⟩ := List.append_of_mem hmem
    refine ⟨before, e, after, rfl, fun f hf => ?_, he⟩
    have hlt : f.1 < e.1 := (List.pairwise_append.mp h).2.2 f hf e List.mem_cons_self
    apply Classical.byContradiction
    intro hfails
    rcases hfirst f (List.mem_append_left _ hf) hfails with rfl | hgt
    · exact String.lt_irrefl _ hlt
    · exact String.lt_irrefl _ (String.lt_trans hlt hgt)

end PlayScaffold.KeyMap
