import PlayScaffold.Proofs.Traversal
import PlayScaffold.Reading.Record

/-!
# Reading records

A record is built field by field, so what every field keeps holds of each record that is read
(`RecordForm.read_keeps`).

Fields of other names are passed over.  `SameFields names R` says that two lists of fields differ
in fields of the given names only, wherever they stand, and up to `R` in the values of the others;
a form that knows none of the names reads the same record from both
(`RecordForm.read_eq_of_fields`).
-/

namespace PlayScaffold

open Json (Fault)

variable {δ α : Type}

theorem Reading.refuse_ne_ok [Document δ] (d : δ) (wanted : String) (value : α) :
    (Reading.refuse d wanted : Except ReadError α) ≠ .ok value := by
  unfold Reading.refuse
  split <;> simp

theorem Reading.json_eq_ok [Document δ] (d : δ) (j : Json) (h : Reading.json d = .ok j) :
    Document.json d = .ok j := by
  unfold Reading.json at h
  cases hj : Document.json d with
  | error f => rw [hj] at h; cases h
  | ok found => rw [hj] at h; rw [Except.ok.inj h]

namespace RecordForm

/-! ## One field after the other -/

theorem readFields_known (form : RecordForm δ α) (seen : List String) (record : α) (key : String)
    (d : δ) (rest : List (Except Fault String × δ)) (h : key ∈ form.fields) :
    form.readFields seen record ((.ok key, d) :: rest) =
      if key ∈ seen then .error (.duplicateField key)
      else form.put record key d >>= fun after => form.readFields (key :: seen) after rest := by
  by_cases hseen : key ∈ seen
  · rw [if_pos hseen]
    simp [readFields, ReadError.ofFault, bind, Except.bind, h, hseen, throw, throwThe,
      MonadExceptOf.throw]
  · rw [if_neg hseen]
    simp [readFields, ReadError.ofFault, bind, Except.bind, h, hseen]

theorem readFields_unknown (form : RecordForm δ α) (seen : List String) (record : α) (key : String)
    (d : δ) (rest : List (Except Fault String × δ)) (h : key ∉ form.fields) :
    form.readFields seen record ((.ok key, d) :: rest) =
      form.other record key d >>= fun after => form.readFields seen after rest := by
  simp [readFields, ReadError.ofFault, bind, Except.bind, h]

/-- A record that is read is what its fields make of the one before any is read. -/
theorem exists_readFields (form : RecordForm δ α) (fields : List (Except Fault String × δ))
    (ending : Except Fault Unit) (record : α) (h : form.readObject fields ending = .ok record) :
    ∃ seen, form.readFields [] form.initial fields = .ok (record, seen) := by
  obtain ⟨after, hafter, h⟩ := (bind_eq_ok_iff _ _ _).mp h
  obtain ⟨-, -, h⟩ := (bind_eq_ok_iff _ _ _).mp h
  obtain ⟨-, -, h⟩ := (bind_eq_ok_iff _ _ _).mp h
  rw [← Except.ok.inj h]
  exact ⟨after.2, hafter⟩

/-! ## What every field keeps -/

/-- A property of the record before any field is read that no field breaks. -/
structure Keeps (form : RecordForm δ α) (P : α → Prop) : Prop where
  initial : P form.initial
  put : ∀ record name d after, P record → form.put record name d = .ok after → P after
  other : ∀ record name d after, P record → form.other record name d = .ok after → P after

variable {form : RecordForm δ α} {P : α → Prop}

theorem readFields_keeps (hP : form.Keeps P) (fields : List (Except Fault String × δ)) :
    ∀ seen record after, P record → form.readFields seen record fields = .ok after →
      P after.1 := by
  induction fields with
  | nil =>
    intro seen record after hrecord h
    rw [← Except.ok.inj h]
    exact hrecord
  | cons field rest ih =>
    intro seen record after hrecord h
    obtain ⟨key, d⟩ := field
    cases key with
    | error f => cases h
    | ok key =>
      by_cases hkey : key ∈ form.fields
      · rw [readFields_known form seen record key d rest hkey] at h
        split at h
        · cases h
        · obtain ⟨next, hnext, h⟩ := (bind_eq_ok_iff _ _ _).mp h
          exact ih _ next after (hP.put record key d next hrecord hnext) h
      · rw [readFields_unknown form seen record key d rest hkey] at h
        obtain ⟨next, hnext, h⟩ := (bind_eq_ok_iff _ _ _).mp h
        exact ih _ next after (hP.other record key d next hrecord hnext) h

theorem readItems_keeps (hP : form.Keeps P) (ending : Except Fault Unit) (names : List String) :
    ∀ count record items after, P record →
      form.readItems ending count record names items = .ok after → P after.1 := by
  induction names with
  | nil =>
    intro count record items after hrecord h
    rw [readItems] at h
    rw [← Except.ok.inj h]
    exact hrecord
  | cons name names ih =>
    intro count record items after hrecord h
    cases items with
    | nil =>
      obtain ⟨-, -, h⟩ := (bind_eq_ok_iff _ _ _).mp h
      split at h
      · cases h
      · exact ih _ record [] after hrecord h
    | cons d items =>
      obtain ⟨next, hnext, h⟩ := (bind_eq_ok_iff _ _ _).mp h
      exact ih _ next items after (hP.put record name d next hrecord hnext) h

variable [Document δ]

/-- **What every field keeps holds of every record that is read.** -/
theorem read_keeps (hP : form.Keeps P) (d : δ) (record : α) (h : form.read d = .ok record) :
    P record := by
  unfold read at h
  split at h
  · next fields ending hshape =>
    obtain ⟨seen, hseen⟩ := form.exists_readFields fields ending record h
    exact readFields_keeps hP fields [] form.initial (record, seen) hP.initial hseen
  · next items ending hshape =>
    obtain ⟨after, hafter, h⟩ := (bind_eq_ok_iff _ _ _).mp h
    have hrecord := readItems_keeps hP ending form.fields 0 form.initial items after hP.initial
      hafter
    simp only at h
    split at h
    · cases h
    · obtain ⟨-, -, h⟩ := (bind_eq_ok_iff _ _ _).mp h
      rw [← Except.ok.inj h]
      exact hrecord
  · exact absurd h (Reading.refuse_ne_ok d _ record)

end RecordForm

/-! ## Lists -/

variable [Document δ]

theorem Reading.list_eq_ok (read : δ → Except ReadError α) (d : δ) (values : List α)
    (h : Reading.list read d = .ok values) : ∃ items : List δ, items.mapM read = .ok values := by
  unfold Reading.list at h
  split at h
  · next items ending hshape =>
    obtain ⟨read, hread, h⟩ := (bind_eq_ok_iff _ _ _).mp h
    obtain ⟨-, -, h⟩ := (bind_eq_ok_iff _ _ _).mp h
    exact ⟨items, by rw [hread, ← Except.ok.inj h]⟩
  · exact absurd h (Reading.refuse_ne_ok d _ values)

/-! ## Fields that are passed over -/

theorem Reading.ignore_of_skip (record : α) (name : String) (d : δ)
    (h : Document.skip d = .ok ()) : Reading.ignore record name d = .ok record := by
  rw [Reading.ignore, Reading.skip, h]
  rfl

theorem Reading.eq_of_ignore (record after : α) (name : String) (d : δ)
    (h : Reading.ignore record name d = .ok after) : after = record := by
  obtain ⟨-, -, h⟩ := (bind_eq_ok_iff _ _ _).mp h
  exact (Except.ok.inj h).symm

/-- Two lists of fields that differ in fields of the given names, whose values can be passed over,
and up to `R` in the values of all others. -/
inductive SameFields (names : List String) (R : Except Fault String → δ → δ → Prop) :
    List (Except Fault String × δ) → List (Except Fault String × δ) → Prop where
  | nil : SameFields names R [] []
  | field (key : Except Fault String) (d e : δ) (fields others : List (Except Fault String × δ))
      (hvalue : R key d e) (h : SameFields names R fields others) :
      SameFields names R ((key, d) :: fields) ((key, e) :: others)
  | left (name : String) (d : δ) (fields others : List (Except Fault String × δ))
      (hname : name ∈ names) (hskip : Document.skip d = .ok ())
      (h : SameFields names R fields others) :
      SameFields names R ((.ok name, d) :: fields) others
  | right (name : String) (e : δ) (fields others : List (Except Fault String × δ))
      (hname : name ∈ names) (hskip : Document.skip e = .ok ())
      (h : SameFields names R fields others) :
      SameFields names R fields ((.ok name, e) :: others)

namespace RecordForm

/-- The names are no fields of the form, and it does not tell values apart that `R` relates. -/
structure Ignores (form : RecordForm δ α) (names : List String)
    (R : Except Fault String → δ → δ → Prop) : Prop where
  other : form.other = Reading.ignore
  unknown : ∀ name ∈ names, name ∉ form.fields
  put : ∀ key d e record, key ∈ form.fields → R (.ok key) d e →
    form.put record key d = form.put record key e
  skip : ∀ key d e, key ∉ form.fields → R (.ok key) d e → Document.skip d = Document.skip e

variable {form : RecordForm δ α} {names : List String} {R : Except Fault String → δ → δ → Prop}

theorem readFields_skip (hform : form.Ignores names R) (seen : List String) (record : α)
    (name : String) (d : δ) (rest : List (Except Fault String × δ)) (hname : name ∈ names)
    (hskip : Document.skip d = .ok ()) :
    form.readFields seen record ((.ok name, d) :: rest) = form.readFields seen record rest := by
  rw [readFields_unknown form seen record name d rest (hform.unknown name hname), hform.other,
    Reading.ignore_of_skip record name d hskip]
  rfl

theorem readFields_eq (hform : form.Ignores names R)
    (fields others : List (Except Fault String × δ)) (h : SameFields names R fields others) :
    ∀ seen record, form.readFields seen record fields = form.readFields seen record others := by
  induction h with
  | nil =>
    intro seen record
    rfl
  | field key d e fields others hvalue _ ih =>
    intro seen record
    cases key with
    | error f => rfl
    | ok key =>
      by_cases hkey : key ∈ form.fields
      · rw [readFields_known form seen record key d fields hkey,
          readFields_known form seen record key e others hkey,
          hform.put key d e record hkey hvalue]
        simp only [ih]
      · have hsame : form.other record key d = form.other record key e := by
          rw [hform.other, Reading.ignore, Reading.ignore, Reading.skip, Reading.skip,
            hform.skip key d e hkey hvalue]
        rw [readFields_unknown form seen record key d fields hkey,
          readFields_unknown form seen record key e others hkey, hsame]
        simp only [ih]
  | left name d fields others hname hd _ ih =>
    intro seen record
    rw [readFields_skip hform seen record name d fields hname hd, ih]
  | right name e fields others hname he _ ih =>
    intro seen record
    rw [readFields_skip hform seen record name e others hname he, ih]

/-- **What is passed over has no influence**: the same record is read, or none for the same
reason. -/
theorem read_eq_of_fields (hform : form.Ignores names R) (d e : δ)
    (fields others : List (Except Fault String × δ)) (ending : Except Fault Unit)
    (hd : Document.shape d = .object fields ending)
    (he : Document.shape e = .object others ending) (h : SameFields names R fields others) :
    form.read d = form.read e := by
  have hsame := readFields_eq hform fields others h [] form.initial
  unfold read
  rw [hd, he]
  simp only [readObject, hsame]

/-- Two lists are read alike if the form does not tell their first items apart. -/
theorem read_eq_of_head (d e x y : δ) (rest : List δ) (ending : Except Fault Unit) (name : String)
    (others : List String) (hfields : form.fields = name :: others)
    (hd : Document.shape d = .list (x :: rest) ending)
    (he : Document.shape e = .list (y :: rest) ending)
    (h : ∀ record, form.put record name x = form.put record name y) :
    form.read d = form.read e := by
  unfold read
  rw [hd, he]
  simp only [readList, hfields, readItems, h, List.length_cons]

end RecordForm

end PlayScaffold
