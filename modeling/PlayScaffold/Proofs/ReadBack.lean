import PlayScaffold.Operation.Form
import PlayScaffold.Proofs.KeyMap
import PlayScaffold.Proofs.Record

/-!
# Reading what was written

Texts, truth values, maps and lists are read back as they were written.  A record is written as an
object, whose fields stand in the order of their keys.  It is read back if its form takes these
fields one after the other from the empty record to the one that was written; other fields may stand
between them:

    form.Fills form.initial (form.known m.entries) record →
      form.readObject m.entries = .ok (the record with all other fields noted)
                                                                       (readObject_of_fills)
-/

namespace PlayScaffold

open Json (Fault)

/-! ## Values -/

namespace Encoding

theorem toJson_record (fields : List (String × Encoding)) :
    (record fields).toJson = Json.ofFields (fieldsToJson fields) := rfl

theorem fieldsToJson_eq_map (fields : List (String × Encoding)) :
    fieldsToJson fields = fields.map fun f => (f.1, f.2.toJson) := by
  induction fields with
  | nil => rfl
  | cons f rest ih => rw [fieldsToJson, ih, List.map_cons]

theorem toJson_list {α : Type} (encode : α → Encoding) (xs : List α) :
    (Encoding.list (xs.map encode)).toJson = .arr (xs.map fun x => (encode x).toJson) := by
  rw [toJson]
  congr 1
  induction xs with
  | nil => rfl
  | cons x xs ih => rw [List.map_cons, itemsToJson, ih, List.map_cons]

end Encoding

namespace Reading

theorem option_ofOption (s : Option String) :
    Reading.option Reading.string (Json.ofOption s) = .ok s := by
  cases s <;> rfl

theorem entries_given (fields : List (String × Json)) :
    entries (fields.map fun (k, v) => (.ok k, v)) = .ok fields := by
  induction fields with
  | nil => rfl
  | cons f rest ih =>
    rw [List.map_cons, entries, ih]
    rfl

theorem map_object (m : KeyMap Json) : Reading.map (Json.object m) = .ok m := by
  show (entries (m.entries.map fun (k, v) => (.ok k, v)) >>= fun values =>
    pure (KeyMap.ofList values)) = _
  rw [entries_given]
  exact congrArg Except.ok m.ofList_entries

/-- A list is read back if its items are. -/
theorem list_toJson {α : Type} (read : Json → Except ReadError α) (encode : α → Encoding)
    (h : ∀ x, read (encode x).toJson = .ok x) (xs : List α) :
    Reading.list read (Encoding.list (xs.map encode)).toJson = .ok xs := by
  have hitems : (xs.map fun x => (encode x).toJson).mapM read = .ok xs := by
    rw [mapM_eq_ok_iff, List.forall₂_map_left_iff]
    exact List.forall₂_same.mpr fun x _ => h x
  rw [Encoding.toJson_list]
  show ((xs.map fun x => (encode x).toJson).mapM read >>= fun values => pure values) = _
  rw [hitems]
  rfl

end Reading

/-! ## Records -/

namespace RecordForm

variable {α : Type} (form : RecordForm Json α)

def known (fields : List (String × Json)) : List (String × Json) :=
  fields.filter fun f => form.fields.contains f.1

def unknown (fields : List (String × Json)) : List (String × Json) :=
  fields.filter fun f => !form.fields.contains f.1

theorem known_append (fields others : List (String × Json))
    (h : ∀ f ∈ others, f.1 ∉ form.fields) :
    form.known (fields ++ others) = form.known fields := by
  have hnone : others.filter (fun f => form.fields.contains f.1) = [] := by
    simpa [List.filter_eq_nil_iff] using fun key j hf => h (key, j) hf
  rw [known, List.filter_append, hnone, List.append_nil, known]

theorem unknown_append (fields others : List (String × Json))
    (h : ∀ f ∈ others, f.1 ∉ form.fields) :
    form.unknown (fields ++ others) = form.unknown fields ++ others := by
  have hall : others.filter (fun f => !form.fields.contains f.1) = others := by
    simpa [List.filter_eq_self] using fun key j hf => h (key, j) hf
  rw [unknown, List.filter_append, hall, unknown]

/-- The form takes the fields one after the other from the first record to the second one. -/
inductive Fills : α → List (String × Json) → α → Prop where
  | nil (record : α) : Fills record [] record
  | cons {record next after : α} {key : String} {j : Json} {rest : List (String × Json)}
      (hput : form.put record key j = .ok next) (h : Fills next rest after) :
      Fills record ((key, j) :: rest) after

/-- A field of another name is noted, and it makes no difference when. -/
structure Notes (note : α → String × Json → α) : Prop where
  other : ∀ record key j, form.other record key j = .ok (note record (key, j))
  put : ∀ record after key j f, form.put record key j = .ok after →
    form.put (note record f) key j = .ok (note after f)

variable {form}

theorem notes_ignore (h : form.other = Reading.ignore) : form.Notes fun record _ => record where
  other record key j := by rw [h]; rfl
  put _ _ _ _ _ hput := hput

theorem Fills.noted {note : α → String × Json → α} (hform : form.Notes note) (f : String × Json)
    {record after : α} {fields : List (String × Json)} (h : form.Fills record fields after) :
    form.Fills (note record f) fields (note after f) := by
  induction h with
  | nil record => exact .nil _
  | cons hput _ ih => exact .cons (hform.put _ _ _ _ f hput) ih

theorem readFields_of_fills {note : α → String × Json → α} (hform : form.Notes note)
    (fields : List (String × Json)) :
    ∀ (seen : List String) (record after : α), (fields.map (·.1)).Nodup →
      (∀ f ∈ fields, f.1 ∉ seen) → form.Fills record (form.known fields) after →
      ∃ names, form.readFields seen record (fields.map fun (k, v) => (.ok k, v)) =
          .ok ((form.unknown fields).foldl note after, names) ∧
        ∀ name, name ∈ names ↔ name ∈ seen ∨ name ∈ (form.known fields).map (·.1) := by
  -- a field of another name is noted before those behind it are read, and so in the record that
  -- they are put into
  induction fields with
  | nil =>
    intro seen record after _ _ h
    cases h
    exact ⟨seen, rfl, by simp [known]⟩
  | cons f rest ih =>
    intro seen record after hnodup hseen h
    obtain ⟨key, j⟩ := f
    obtain ⟨hnew, hrest⟩ := List.nodup_cons.mp hnodup
    obtain ⟨hkey, hlater⟩ := List.forall_mem_cons.mp hseen
    have hmap : ((key, j) :: rest).map (fun (k, v) => ((.ok k : Except Fault String), v)) =
        (.ok key, j) :: rest.map fun (k, v) => (.ok k, v) := rfl
    by_cases hin : key ∈ form.fields
    · have hknown : form.known ((key, j) :: rest) = (key, j) :: form.known rest :=
        List.filter_cons_of_pos (by simpa using hin)
      have hunknown : form.unknown ((key, j) :: rest) = form.unknown rest :=
        List.filter_cons_of_neg (by simpa using hin)
      rw [hknown] at h ⊢
      rw [hunknown, hmap, readFields_known form seen record key j _ hin, if_neg hkey]
      cases h with
      | @cons _ next _ _ _ _ hput h =>
        have hseen' : ∀ f ∈ rest, f.1 ∉ key :: seen := by
          intro f hf hmem
          rcases List.mem_cons.mp hmem with heq | hmem
          · exact hnew (List.mem_map.mpr ⟨f, hf, heq⟩)
          · exact hlater f hf hmem
        obtain ⟨names, hread, hnames⟩ := ih (key :: seen) next after hrest hseen' h
        refine ⟨names, by rw [hput]; exact hread, fun name => ?_⟩
        rw [hnames, List.map_cons, List.mem_cons, List.mem_cons]
        exact or_assoc.trans or_left_comm
    · have hknown : form.known ((key, j) :: rest) = form.known rest :=
        List.filter_cons_of_neg (by simpa using hin)
      have hunknown : form.unknown ((key, j) :: rest) = (key, j) :: form.unknown rest :=
        List.filter_cons_of_pos (by simpa using hin)
      rw [hknown] at h ⊢
      rw [hunknown, hmap, readFields_unknown form seen record key j _ hin, hform.other]
      exact ih seen (note record (key, j)) _ hrest hlater (h.noted hform (key, j))

/-- **A record that its fields fill is read back** from an object, with the other fields noted. -/
theorem readObject_of_fills {note : α → String × Json → α} (hform : form.Notes note)
    (m : KeyMap Json) (record : α)
    (hrequired : ∀ name ∈ form.required, name ∈ (form.known m.entries).map (·.1))
    (h : form.Fills form.initial (form.known m.entries) record) :
    form.readObject (m.entries.map fun (k, v) => (.ok k, v)) (.ok ()) =
      .ok ((form.unknown m.entries).foldl note record) := by
  obtain ⟨names, hread, hnames⟩ := readFields_of_fills hform m.entries [] form.initial record
    m.nodup_keys (by simp) h
  have hfound : (form.required.find? fun name => !names.contains name) = none := by
    rw [List.find?_eq_none]
    intro name hname
    simpa using (hnames name).mpr (.inr (hrequired name hname))
  rw [readObject, hread]
  show (form.checkRequired names >>= fun _ => _) = _
  rw [checkRequired, hfound]
  rfl

theorem readFields_eq_foldlM (hother : form.other = Reading.ignore)
    (fields : List (String × Json)) :
    ∀ (seen : List String) (record : α), (fields.map (·.1)).Nodup → (∀ f ∈ fields, f.1 ∉ seen) →
      Prod.fst <$> form.readFields seen record (fields.map fun (k, v) => (.ok k, v)) =
        (form.known fields).foldlM (fun record f => form.put record f.1 f.2) record := by
  induction fields with
  | nil =>
    intro seen record _ _
    rfl
  | cons f rest ih =>
    intro seen record hnodup hseen
    obtain ⟨key, j⟩ := f
    obtain ⟨hnew, hrest⟩ := List.nodup_cons.mp hnodup
    obtain ⟨hkey, hlater⟩ := List.forall_mem_cons.mp hseen
    rw [List.map_cons]
    by_cases hin : key ∈ form.fields
    · have hknown : form.known ((key, j) :: rest) = (key, j) :: form.known rest :=
        List.filter_cons_of_pos (by simpa using hin)
      have hseen' : ∀ f ∈ rest, f.1 ∉ key :: seen := by
        intro f hf hmem
        rcases List.mem_cons.mp hmem with heq | hmem
        · exact hnew (List.mem_map.mpr ⟨f, hf, heq⟩)
        · exact hlater f hf hmem
      rw [hknown, List.foldlM_cons, readFields_known form seen record key j _ hin, if_neg hkey]
      cases hput : form.put record key j with
      | error e => rfl
      | ok next => exact ih (key :: seen) next hrest hseen'
    · have hknown : form.known ((key, j) :: rest) = form.known rest :=
        List.filter_cons_of_neg (by simpa using hin)
      rw [hknown, readFields_unknown form seen record key j _ hin, hother]
      exact ih seen record hrest hlater

/-- A form without required fields that ignores other fields takes those that it knows, one after
the other. -/
theorem read_object (hother : form.other = Reading.ignore) (hrequired : form.required = [])
    (m : KeyMap Json) :
    form.read (Json.object m) =
      (form.known m.entries).foldlM (fun record f => form.put record f.1 f.2) form.initial := by
  rw [← readFields_eq_foldlM hother m.entries [] form.initial m.nodup_keys (by simp)]
  show form.readObject (m.entries.map fun (k, v) => (.ok k, v)) (.ok ()) = _
  rw [readObject]
  cases form.readFields [] form.initial (m.entries.map fun (k, v) => (.ok k, v)) with
  | error e => rfl
  | ok read =>
    have hcheck : form.checkRequired read.2 = .ok () := by rw [checkRequired, hrequired]; rfl
    show (form.checkRequired read.2 >>= fun _ => pure read.1) = _
    rw [hcheck]
    rfl

/-- What is known of a map is the map of what is known. -/
theorem known_entries_ofList (form : RecordForm Json α) (fields : List (String × Json)) :
    form.known (KeyMap.ofList fields).entries = (KeyMap.ofList (form.known fields)).entries :=
  KeyMap.filter_entries_ofList fields fun key => form.fields.contains key

theorem unknown_entries_ofList (form : RecordForm Json α) (fields : List (String × Json)) :
    form.unknown (KeyMap.ofList fields).entries = (KeyMap.ofList (form.unknown fields)).entries :=
  KeyMap.filter_entries_ofList fields fun key => !form.fields.contains key

/-- A record that ignores other fields is read back from the object of its fields in any order. -/
theorem read_of_fills (hother : form.other = Reading.ignore) (fields written : List (String × Json))
    (record : α) (hwritten : (KeyMap.ofList fields).entries = written)
    (hrequired : ∀ name ∈ form.required, name ∈ (form.known written).map (·.1))
    (h : form.Fills form.initial (form.known written) record) :
    form.read (Json.ofFields fields) = .ok record := by
  rw [← hwritten] at hrequired h
  have hread := readObject_of_fills (notes_ignore hother) (KeyMap.ofList fields) record hrequired h
  rw [List.foldl_fixed] at hread
  exact hread

end RecordForm

end PlayScaffold
