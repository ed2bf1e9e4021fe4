import PlayScaffold.Proofs.SchemeRoundTrip

/-!
# Foreign fields of a scheme

A scheme shares its object with its mechanism, so all fields but the base ones are kept until `type`
has been looked at.  Still the fields of the other mechanisms, and any that no scheme has, make no
difference: reading the fields and then forgetting what is foreign is reading the fields that are
left without them,

    forget <$> form.readObject fields ending =
      form.readObject (fields.filter (isNamed own)) ending                   (readObject_forget)

and what is forgotten has no part in the scheme that is made in the end.  So two objects that agree
on the fields of a scheme of their `type` are read as the same scheme, or refused for the same
reason.
-/

namespace PlayScaffold

open Json (Fault)

variable {δ α : Type}

/-! ## Forgetting fields -/

namespace RecordForm

/-- Does the field have one of the names?  A field whose key has a fault is never left out. -/
def isNamed (names : List String) : Except Fault String × δ → Bool
  | (.ok key, _) => names.contains key
  | (.error _, _) => true

variable [Document δ]

/-- All fields but the named ones can be read as JSON. -/
def ForeignReadable (own : List String) (fields : List (Except Fault String × δ)) : Prop :=
  ∀ key d, (.ok key, d) ∈ fields → key ∉ own → ∃ j, Document.json d = .ok j

theorem ForeignReadable.of_cons {own : List String} {field : Except Fault String × δ}
    {rest : List (Except Fault String × δ)} (h : ForeignReadable own (field :: rest)) :
    ForeignReadable own rest := fun key d hmem => h key d (List.mem_cons_of_mem _ hmem)

/-- What the form notes of fields other than its own can be forgotten before it reads on. -/
structure Forgets (form : RecordForm δ α) (own : List String) (forget : α → α) : Prop where
  known : ∀ name ∈ form.fields, name ∈ own
  initial : forget form.initial = form.initial
  put : ∀ record name d, form.put (forget record) name d = forget <$> form.put record name d
  kept : ∀ record name d, name ∈ own →
    form.other (forget record) name d = forget <$> form.other record name d
  foreign : ∀ record name d j, name ∉ own → Document.json d = .ok j →
    forget <$> form.other record name d = .ok (forget record)

variable {form : RecordForm δ α} {own : List String} {forget : α → α}

theorem readFields_forget (hform : form.Forgets own forget)
    (fields : List (Except Fault String × δ)) :
    ∀ seen record, ForeignReadable own fields →
      form.readFields seen (forget record) (fields.filter (isNamed own)) =
        Prod.map forget id <$> form.readFields seen record fields := by
  induction fields with
  | nil => intro seen record _; rfl
  | cons field rest ih =>
    intro seen record hreadable
    have hrest := hreadable.of_cons
    obtain ⟨key, d⟩ := field
    cases key with
    | error f => rfl
    | ok key =>
      -- a foreign field leaves a record that is the same once it is forgotten
      by_cases hown : key ∈ own
      · rw [List.filter_cons_of_pos (by simpa [isNamed] using hown)]
        by_cases hkey : key ∈ form.fields
        · rw [readFields_known form seen _ key d _ hkey, readFields_known form seen _ key d _ hkey,
            hform.put]
          split
          · rfl
          · cases form.put record key d with
            | error e => rfl
            | ok next => exact ih (key :: seen) next hrest
        · rw [readFields_unknown form seen _ key d _ hkey,
            readFields_unknown form seen _ key d _ hkey, hform.kept record key d hown]
          cases form.other record key d with
          | error e => rfl
          | ok next => exact ih seen next hrest
      · have hkey : key ∉ form.fields := fun hmem => hown (hform.known key hmem)
        obtain ⟨j, hj⟩ := hreadable key d List.mem_cons_self hown
        obtain ⟨next, hnext, hsame⟩ :=
          (map_eq_ok_iff _ _ _).mp (hform.foreign record key d j hown hj)
        rw [List.filter_cons_of_neg (by simpa [isNamed] using hown),
          readFields_unknown form seen record key d rest hkey, hnext, ← hsame]
        exact ih seen next hrest

/-- **Reading and forgetting** is reading what is left to read. -/
theorem readObject_forget (hform : form.Forgets own forget)
    (fields : List (Except Fault String × δ)) (ending : Except Fault Unit)
    (h : ForeignReadable own fields) :
    forget <$> form.readObject fields ending =
      form.readObject (fields.filter (isNamed own)) ending := by
  have hfields := readFields_forget hform fields [] form.initial h
  rw [hform.initial] at hfields
  rw [readObject, readObject, hfields]
  cases form.readFields [] form.initial fields with
  | error e => rfl
  | ok read =>
    cases ending with
    | error f => rfl
    | ok _ =>
      show forget <$> (form.checkRequired read.2 >>= fun _ => pure read.1) =
        form.checkRequired read.2 >>= fun _ => pure (forget read.1)
      cases form.checkRequired read.2 <;> rfl

end RecordForm

open RecordForm (isNamed ForeignReadable Forgets)

/-! ## Mechanisms -/

namespace Mechanism

theorem forgets_id (kind : MechanismKind) (own : List String)
    (h : ∀ name ∈ kind.fieldNames.1, name ∈ own) : (form kind).Forgets own id where
  known := h
  initial := rfl
  put _ _ _ := (id_map _).symm
  kept _ _ _ _ := (id_map _).symm
  foreign _ _ _ _ _ _ := rfl

/-- A mechanism depends on `type`, and on the fields of the kind that this selects. -/
theorem ofFields_filter (own : List String) (fields : List (String × Json)) (htype : "type" ∈ own)
    (hkind : ∀ kind, MechanismKind.ofFields fields = .ok kind →
      ∀ name ∈ kind.fieldNames.1, name ∈ own) :
    ofFields (fields.filter fun f => own.contains f.1) = ofFields fields := by
  have hsame : MechanismKind.ofFields (fields.filter fun f => own.contains f.1) =
      MechanismKind.ofFields fields := by
    rw [← MechanismKind.ofFields_filter, List.filter_filter, ← MechanismKind.ofFields_filter fields]
    refine congrArg _ (List.filter_congr fun f _ => ?_)
    by_cases hf : f.1 = "type"
    · simp [hf, htype]
    · simp [hf]
  rw [ofFields, ofFields, hsame]
  cases hread : MechanismKind.ofFields fields with
  | error e => rfl
  | ok kind =>
    have hforget := RecordForm.readObject_forget (forgets_id kind own (hkind kind hread))
      (fields.map fun f => (.ok f.1, f.2)) (.ok ()) fun _ d _ _ => ⟨d, rfl⟩
    rw [id_map, List.filter_map] at hforget
    exact hforget.symm

end Mechanism

theorem MechanismKind.exists_of_ofFields (fields : List (String × Json)) (kind : MechanismKind)
    (h : ofFields fields = .ok kind) : ∃ j, ("type", j) ∈ fields ∧ read j = .ok kind := by
  induction fields with
  | nil => cases h
  | cons f rest ih =>
    obtain ⟨key, j⟩ := f
    rw [ofFields] at h
    split at h
    · next hkey =>
      obtain ⟨read, hread, h⟩ := (bind_eq_ok_iff _ _ _).mp h
      split at h
      · cases h
      · exact ⟨j, hkey ▸ List.mem_cons_self, by rw [hread]; exact h⟩
    · obtain ⟨j, hmem, hread⟩ := ih h
      exact ⟨j, List.mem_cons_of_mem _ hmem, hread⟩

/-! ## Schemes -/

namespace SecurityScheme

/-- The parts with all but the named fields forgotten. -/
def Parts.onlyNamed (own : List String) (p : Parts) : Parts :=
  { p with others := p.others.filter fun f => own.contains f.1 }

section

variable [Document δ]

theorem Parts.put_onlyNamed (own : List String) (p : Parts) (name : String) (d : δ) :
    (p.onlyNamed own).put name d = onlyNamed own <$> p.put name d := by
  unfold Parts.put
  split <;> simp only [map_bind, map_pure] <;> rfl

/-- The parts of a scheme forget all that is neither theirs nor in the list. -/
theorem Parts.forgets_onlyNamed (own : List String)
    (h : ∀ name ∈ (form (δ := δ)).fields, name ∈ own) :
    (form (δ := δ)).Forgets own (onlyNamed own) where
  known := h
  initial := rfl
  put := put_onlyNamed own
  kept p name d hname := by
    show (p.onlyNamed own).keep name d = onlyNamed own <$> p.keep name d
    rw [keep, keep, map_bind]
    refine congrArg _ (funext fun j => ?_)
    simp [onlyNamed, hname]
  foreign p name d j hname hj := by
    show onlyNamed own <$> p.keep name d = .ok (p.onlyNamed own)
    rw [keep, Reading.json, hj]
    show Except.ok _ = Except.ok _
    simp [onlyNamed, hname]

theorem Parts.others_put (p after : Parts) (name : String) (d : δ) (h : p.put name d = .ok after) :
    after.others = p.others := by
  unfold put at h
  split at h
  case h_5 => rw [← Except.ok.inj h]
  all_goals
    obtain ⟨value, -, h⟩ := (bind_eq_ok_iff _ _ _).mp h
    rw [← Except.ok.inj h]

/-- What is kept besides the base fields was among the fields. -/
theorem Parts.mem_others (fields : List (Except Fault String × δ)) :
    ∀ (seen : List String) (p : Parts) (after : Parts × List String),
      form.readFields seen p fields = .ok after → ∀ f ∈ after.1.others,
        f ∈ p.others ∨ ∃ d, (.ok f.1, d) ∈ fields ∧ Document.json d = .ok f.2 := by
  induction fields with
  | nil =>
    intro seen p after h f hf
    rw [← Except.ok.inj h] at hf
    exact Or.inl hf
  | cons field rest ih =>
    intro seen p after h f hf
    obtain ⟨key, d⟩ := field
    have hlater : (∃ d, ((.ok f.1 : Except Fault String), d) ∈ rest ∧ Document.json d = .ok f.2) →
        ∃ e, ((.ok f.1 : Except Fault String), e) ∈ (key, d) :: rest ∧ Document.json e = .ok f.2 :=
      fun ⟨e, he, hjson⟩ => ⟨e, List.mem_cons_of_mem _ he, hjson⟩
    cases key with
    | error fault => cases h
    | ok key =>
      by_cases hkey : key ∈ (form (δ := δ)).fields
      · rw [RecordForm.readFields_known form seen p key d rest hkey] at h
        split at h
        · cases h
        · obtain ⟨next, hnext, h⟩ := (bind_eq_ok_iff _ _ _).mp h
          rw [← others_put p next key d hnext]
          exact (ih _ next after h f hf).imp_right hlater
      · rw [RecordForm.readFields_unknown form seen p key d rest hkey] at h
        obtain ⟨next, hnext, h⟩ := (bind_eq_ok_iff _ _ _).mp h
        obtain ⟨j, hj, hnext⟩ := (bind_eq_ok_iff _ _ _).mp hnext
        rcases ih seen next after h f hf with hf | hf
        · rw [← Except.ok.inj hnext] at hf
          rcases List.mem_append.mp hf with hf | hf
          · exact Or.inl hf
          · obtain rfl := List.mem_singleton.mp hf
            exact Or.inr ⟨d, List.mem_cons_self, Reading.json_eq_ok d j hj⟩
        · exact Or.inr (hlater hf)

/-- The field `type` selects the kind of mechanism. -/
def Selects (fields : List (Except Fault String × δ)) (kind : MechanismKind) : Prop :=
  ∃ d j, (.ok "type", d) ∈ fields ∧ Document.json d = .ok j ∧ MechanismKind.read j = .ok kind

theorem selects_filter_iff (own : List String) (fields : List (Except Fault String × δ))
    (kind : MechanismKind) (htype : "type" ∈ own) :
    Selects (fields.filter (isNamed own)) kind ↔ Selects fields kind := by
  have hkept : ∀ d : δ, isNamed own (.ok "type", d) = true := fun d => by
    simpa [isNamed] using htype
  simp only [Selects, List.mem_filter, hkept, and_true]

/-- The base fields of a scheme, and the one that selects its mechanism. -/
def commonNames : List String := ["name", "description", "scopes", "vendorExtensions", "type"]

/-- The names are those of all fields that a scheme is read from. -/
structure Covers (own : List String) (fields : List (Except Fault String × δ)) : Prop where
  common : ∀ name ∈ commonNames, name ∈ own
  mechanism : ∀ kind, Selects fields kind → ∀ name ∈ kind.fieldNames.1, name ∈ own

theorem Covers.type_mem {own : List String} {fields : List (Except Fault String × δ)}
    (h : Covers own fields) : "type" ∈ own := h.common _ (by decide)

/-- The scheme that is made of parts depends on what is not foreign in them. -/
theorem ofParts_onlyNamed (own : List String) (fields : List (Except Fault String × δ))
    (ending : Except Fault Unit) (p : Parts) (hread : Parts.form.readObject fields ending = .ok p)
    (hcovers : Covers own fields) : ofParts (p.onlyNamed own) = ofParts p := by
  obtain ⟨seen, hseen⟩ := RecordForm.exists_readFields _ fields ending p hread
  have hmechanism : Mechanism.ofFields (p.onlyNamed own).others = Mechanism.ofFields p.others := by
    refine Mechanism.ofFields_filter own _ hcovers.type_mem fun kind hselected =>
      hcovers.mechanism kind ?_
    obtain ⟨j, hmem, hj⟩ := MechanismKind.exists_of_ofFields _ kind hselected
    rcases Parts.mem_others fields [] {} (p, seen) hseen _ hmem with hnone | ⟨d, hd, hjson⟩
    · cases hnone
    · exact ⟨d, j, hd, hjson, hj⟩
  rw [ofParts, ofParts, hmechanism]
  rfl

theorem covers_filter_iff (own : List String) (fields : List (Except Fault String × δ))
    (htype : "type" ∈ own) : Covers own (fields.filter (isNamed own)) ↔ Covers own fields := by
  have hselects := fun kind => selects_filter_iff own fields kind htype
  constructor
  · rintro ⟨hcommon, hmechanism⟩
    exact ⟨hcommon, fun kind hkind => hmechanism kind ((hselects kind).mpr hkind)⟩
  · rintro ⟨hcommon, hmechanism⟩
    exact ⟨hcommon, fun kind hkind => hmechanism kind ((hselects kind).mp hkind)⟩

/-- **The scheme of some fields** is the scheme of those among them that are not foreign. -/
theorem readObject_filter (own : List String) (fields : List (Except Fault String × δ))
    (ending : Except Fault Unit) (hcovers : Covers own fields)
    (hforeign : ForeignReadable own fields) :
    Parts.form.readObject (fields.filter (isNamed own)) ending >>= ofParts =
      Parts.form.readObject fields ending >>= ofParts := by
  have hforgets := Parts.forgets_onlyNamed (δ := δ) own fun name hname =>
    hcovers.common name (List.mem_append_left ["type"] hname)
  rw [← RecordForm.readObject_forget hforgets fields ending hforeign]
  cases hp : (Parts.form (δ := δ)).readObject fields ending with
  | error e => rfl
  | ok p => exact ofParts_onlyNamed own fields ending p hp hcovers

/-- **Foreign fields make no difference**: documents with the same fields of their own, in the same
order, are read as the same scheme or refused for the same reason. -/
theorem read_eq_of_filter_eq (own : List String) (d e : δ)
    (fields others : List (Except Fault String × δ)) (ending : Except Fault Unit)
    (hd : Document.shape d = .object fields ending)
    (he : Document.shape e = .object others ending) (hcovers : Covers own fields)
    (hfields : ForeignReadable own fields) (hothers : ForeignReadable own others)
    (hsame : fields.filter (isNamed own) = others.filter (isNamed own)) : read d = read e := by
  have hcovers' : Covers own others := by
    rwa [← covers_filter_iff own others hcovers.type_mem, ← hsame,
      covers_filter_iff own fields hcovers.type_mem]
  rw [read, read, hd, he]
  calc Parts.form.readObject fields ending >>= ofParts
      = Parts.form.readObject (fields.filter (isNamed own)) ending >>= ofParts :=
        (readObject_filter own fields ending hcovers hfields).symm
    _ = Parts.form.readObject (others.filter (isNamed own)) ending >>= ofParts := by rw [hsame]
    _ = Parts.form.readObject others ending >>= ofParts :=
        readObject_filter own others ending hcovers' hothers

end

/-! ## Objects -/

/-- The names of the fields that a scheme is read from, if this stands at `type`. -/
def ownNames (type? : Option Json) : List String :=
  commonNames ++ match type?.map MechanismKind.read with
    | some (.ok kind) => kind.fieldNames.1
    | _ => []

theorem covers_ownNames (m : KeyMap Json) :
    Covers (ownNames (m.get? "type"))
      (m.entries.map fun (k, v) => ((.ok k : Except Fault String), v)) := by
  refine ⟨fun name hname => List.mem_append_left _ hname, ?_⟩
  rintro kind ⟨d, j, hd, hj, hread⟩ name hname
  obtain ⟨⟨key, value⟩, hmem, heq⟩ := List.mem_map.mp hd
  obtain ⟨hkey, rfl⟩ := Prod.mk.inj heq
  obtain rfl : key = "type" := Except.ok.inj hkey
  obtain rfl : value = j := Except.ok.inj hj
  have htype : m.get? "type" = some value := (m.get?_eq_some_iff _ _).mpr hmem
  refine List.mem_append_right _ ?_
  rw [htype, Option.map_some, hread]
  exact hname

/-- **A scheme is read from its own fields.**  Two objects that agree on the base fields, on `type`
and on the fields of the mechanism that this selects, if it selects any, are read as the same scheme
or refused for the same reason, whatever else stands in them. -/
theorem read_eq_of_agree (m n : KeyMap Json)
    (h : ∀ name ∈ ownNames (m.get? "type"), m.get? name = n.get? name) :
    read (Json.object m) = read (Json.object n) := by
  let own := ownNames (m.get? "type")
  have hentries : m.entries.filter (fun f => own.contains f.1) =
      n.entries.filter fun f => own.contains f.1 :=
    KeyMap.filter_entries_eq m n own.contains fun key hkey => h key (by simpa using hkey)
  refine read_eq_of_filter_eq own _ _ _ _ (.ok ()) rfl rfl (covers_ownNames m)
    (fun _ d _ _ => ⟨d, rfl⟩) (fun _ d _ _ => ⟨d, rfl⟩) ?_
  rw [List.filter_map, List.filter_map]
  exact congrArg _ hentries

/-- An object of the second mechanism, which its number selects. -/
def loginObject : KeyMap Json where
  entries := [("name", .str "login"), ("scheme", .str "basic"), ("type", .num (.int 1))]
  ascending := by decide

/-- The same with fields of the three other mechanisms, none of which they could have. -/
def loginObjectMixed : KeyMap Json where
  entries := [("flow", .num (.int 5)), ("keyParamName", .null), ("location", .arr []),
    ("name", .str "login"), ("openIdConnectUrl", .bool true), ("scheme", .str "basic"),
    ("type", .num (.int 1))]
  ascending := by decide

/-- The fields of other mechanisms do no harm. -/
theorem read_eq_of_agree_login :
    (∀ name ∈ ownNames (loginObject.get? "type"),
      loginObject.get? name = loginObjectMixed.get? name) ∧
    read (Json.object loginObjectMixed) = read (Json.object loginObject) ∧
    read (Json.object loginObject) =
      .ok { name := "login", mechanism := .http "basic" none } := by
  have hagree : ∀ name ∈ ["name", "description", "scopes", "vendorExtensions", "type", "scheme",
      "bearerFormat"], loginObject.get? name = loginObjectMixed.get? name := by
    simp only [List.forall_mem_cons]
    exact ⟨rfl, rfl, rfl, rfl, rfl, rfl, rfl, nofun⟩
  exact ⟨hagree, (read_eq_of_agree loginObject loginObjectMixed hagree).symm, rfl⟩

end SecurityScheme

end PlayScaffold
