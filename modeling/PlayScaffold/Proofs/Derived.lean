import PlayScaffold.Proofs.Bundle
import PlayScaffold.Proofs.Record

/-!
# What a run derives from a document

The derived fields of an operation are never read: documents that differ in nothing else are read as
the same model (`ApiModel.read_alike`), and a run starts from operations without them
(`ApiModel.underived_of_read`).

The return type, its container, whether it is primitive and the example among the extensions then
follow from the return type of the document alone; all else is kept (`Operation.Derives`).
-/

namespace PlayScaffold

open Json (Fault)

/-! ## Documents that are read alike -/

namespace Operation

section Reading

variable {δ : Type} [Document δ]

/-- The fields that an operation is written with and never read from. -/
def derivedNames : List String := ["returnContainer", "returnTypeIsPrimitive", "authMethods"]

/-- Two documents of an operation that differ in its derived fields only: in their values, or in
whether and where they stand. -/
inductive Alike : δ → δ → Prop where
  | refl (d : δ) : Alike d d
  | object {d e : δ} (fields others : List (Except Fault String × δ)) (ending : Except Fault Unit)
      (hd : Document.shape d = .object fields ending)
      (he : Document.shape e = .object others ending)
      (h : SameFields derivedNames (fun _ x y => x = y) fields others) : Alike d e

theorem ignores_derivedNames :
    (OperationRecord.form (δ := δ)).Ignores derivedNames fun _ x y => x = y where
  other := rfl
  unknown := by
    show ∀ name ∈ derivedNames, name ∉ OperationRecord.fieldNames
    decide
  put := fun key x y record _ hxy => by rw [hxy]
  skip := fun key x y _ hxy => by rw [hxy]

theorem read_alike (d e : δ) (h : Alike d e) : Operation.read d = Operation.read e := by
  cases h with
  | refl => rfl
  | object fields others ending hd he hfields =>
    unfold Operation.read
    rw [RecordForm.read_eq_of_fields ignores_derivedNames d e fields others ending hd he hfields]

/-- Two lists of such documents. -/
inductive AlikeLists : δ → δ → Prop where
  | refl (d : δ) : AlikeLists d d
  | list {d e : δ} (items others : List δ) (ending : Except Fault Unit)
      (hd : Document.shape d = .list items ending) (he : Document.shape e = .list others ending)
      (h : List.Forall₂ Alike items others) : AlikeLists d e

theorem list_read_alike (d e : δ) (h : AlikeLists d e) :
    Reading.list Operation.read d = Reading.list Operation.read e := by
  cases h with
  | refl => rfl
  | list items others ending hd he hitems =>
    have hsame : items.mapM Operation.read = others.mapM Operation.read :=
      mapM_congr_forall₂ _ _ _ (hitems.imp read_alike)
    unfold Reading.list
    rw [hd, he]
    simp only [hsame]

end Reading

end Operation

namespace ApiModel

variable {δ : Type} [Document δ]

/-- Are the values at a key of a model the same but for the derived fields of operations? -/
def AlikeAt (key : Except Fault String) (x y : δ) : Prop :=
  x = y ∨ key = .ok "operations" ∧ Operation.AlikeLists x y

/-- Two documents of a model that differ in the derived fields of its operations only. -/
inductive Alike : δ → δ → Prop where
  | refl (d : δ) : Alike d d
  | object {d e : δ} (fields others : List (Except Fault String × δ)) (ending : Except Fault Unit)
      (hd : Document.shape d = .object fields ending)
      (he : Document.shape e = .object others ending)
      (h : SameFields [] AlikeAt fields others) : Alike d e
  | list {d e : δ} (x y : δ) (rest : List δ) (ending : Except Fault Unit)
      (hd : Document.shape d = .list (x :: rest) ending)
      (he : Document.shape e = .list (y :: rest) ending)
      (h : Operation.AlikeLists x y) : Alike d e

theorem put_operations_alike (m : ApiModel) (x y : δ) (h : Operation.AlikeLists x y) :
    put m "operations" x = put m "operations" y := by
  show (Reading.list Operation.read x >>= fun ops => pure { m with operations := ops }) =
    (Reading.list Operation.read y >>= fun ops => pure { m with operations := ops })
  rw [Operation.list_read_alike x y h]

theorem ignores_alikeAt : (form (δ := δ)).Ignores [] AlikeAt where
  other := rfl
  unknown := by simp
  put := by
    rintro key x y m - (rfl | ⟨hkey, hxy⟩)
    · rfl
    · rw [Except.ok.inj hkey]
      exact put_operations_alike m x y hxy
  skip := by
    rintro key x y hunknown (rfl | ⟨hkey, -⟩)
    · rfl
    · rw [Except.ok.inj hkey] at hunknown
      exact absurd List.mem_cons_self hunknown

/-- **Derived fields have no influence**: the same model is read, or none for the same reason. -/
theorem read_alike (d e : δ) (h : Alike d e) : form.read d = form.read e := by
  cases h with
  | refl => rfl
  | object fields others ending hd he hfields =>
    exact RecordForm.read_eq_of_fields ignores_alikeAt d e fields others ending hd he hfields
  | list x y rest ending hd he hxy =>
    exact RecordForm.read_eq_of_head d e x y rest ending "operations" _ rfl hd he
      fun m => put_operations_alike m x y hxy

/-! ## What is read -/

/-- Nothing is derived of the operation yet. -/
def Underived (op : Operation) : Prop :=
  op.returnContainer = none ∧ op.returnTypeIsPrimitive = false ∧ op.authMethods = []

theorem keeps_toOperation :
    (form (δ := δ)).Keeps fun m => ∀ op ∈ m.operations, ∃ r : OperationRecord, r.toOperation = op
    where
  initial := fun op hop => nomatch hop
  put := by
    intro m name d after hm h
    change put m name d = .ok after at h
    unfold put at h
    split at h
    · obtain ⟨ops, hops, h⟩ := (bind_eq_ok_iff _ _ _).mp h
      obtain ⟨items, hitems⟩ := Reading.list_eq_ok _ _ _ hops
      rw [← Except.ok.inj h]
      intro op hop
      obtain ⟨item, -, hread⟩ := exists_of_mem_mapM _ _ _ hitems op hop
      obtain ⟨r, -, hr⟩ := (map_eq_ok_iff _ _ _).mp hread
      exact ⟨r, hr⟩
    · obtain ⟨schemes, -, h⟩ := (bind_eq_ok_iff _ _ _).mp h
      rw [← Except.ok.inj h]
      exact hm
    · obtain ⟨document, -, h⟩ := (bind_eq_ok_iff _ _ _).mp h
      rw [← Except.ok.inj h]
      exact hm
    · rw [← Except.ok.inj h]
      exact hm
  other := by
    intro m name d after hm h
    rw [Reading.eq_of_ignore m after name d h]
    exact hm

/-- The operations of a model that is read are those of records. -/
theorem exists_record_of_read (d : δ) (m : ApiModel) (h : form.read d = .ok m) :
    ∀ op ∈ m.operations, ∃ r : OperationRecord, r.toOperation = op :=
  RecordForm.read_keeps keeps_toOperation d m h

/-- A model that is read starts without derived fields. -/
theorem underived_of_read (d : δ) (m : ApiModel) (h : form.read d = .ok m) :
    ∀ op ∈ m.operations, Underived op := by
  intro op hop
  obtain ⟨r, rfl⟩ := exists_record_of_read d m h op hop
  exact ⟨rfl, rfl, rfl⟩

end ApiModel

/-! ## What is derived -/

namespace Operation

/-- **What a run makes of an operation.**  The return type is taken out of its container, of which
nothing but white space is lost; one that is no container stays.  Whether it is primitive is decided
by what is left of it.  An example is noted for two types, and all else is kept. -/
structure Derives (primitives : List String) (op out : Operation) : Prop where
  container : ∀ type c, op.returnType = some type → ContainerType.parse? type = some c →
    out.returnContainer = some c.kind ∧ out.returnType = some c.element ∧
      Text.squeeze c.text.toList = Text.squeeze type.toList ∧
      (c.key.isSome = true ↔ c.kind = .map)
  plain : (∀ type, op.returnType = some type → ContainerType.parse? type = none) →
    out.returnContainer = none ∧ out.returnType = op.returnType
  primitive : out.returnTypeIsPrimitive = true ↔
    out.returnType = none ∨ ∃ type ∈ primitives, out.returnType = some type
  boolean : op.returnType = some "Boolean" →
    out.vendorExtensions.get? "x-missing-return-info-if-needed" = some (.str "true")
  decimal : op.returnType = some "BigDecimal" →
    out.vendorExtensions.get? "x-missing-return-info-if-needed" = some (.str "1.0")
  unannotated : op.returnType ≠ some "Boolean" → op.returnType ≠ some "BigDecimal" →
    out.vendorExtensions = op.vendorExtensions
  extensions : ∀ key, key ≠ "x-missing-return-info-if-needed" →
    out.vendorExtensions.get? key = op.vendorExtensions.get? key
  operationId : out.operationId = op.operationId
  httpMethod : out.httpMethod = op.httpMethod
  baseName : out.baseName = op.baseName
  summary : out.summary = op.summary
  notes : out.notes = op.notes
  security : out.security = op.security

theorem isPrimitive_iff (primitives : List String) (type : Option String) :
    isPrimitive primitives type = true ↔
      type = none ∨ ∃ name ∈ primitives, type = some name := by
  cases type with
  | none => simp [isPrimitive]
  | some name => simp [isPrimitive]

theorem notedExtensions_of_ne (op : Operation) (hboolean : op.returnType ≠ some "Boolean")
    (hdecimal : op.returnType ≠ some "BigDecimal") : op.notedExtensions = op.vendorExtensions := by
  rw [notedExtensions_eq_iff]
  intro text htext
  unfold returnExample? at htext
  split at htext
  · next h => exact absurd h hboolean
  · next h => exact absurd h hdecimal
  · cases htext

theorem get?_notedExtensions_of_ne (op : Operation) (key : String)
    (hkey : key ≠ returnExampleExtension) :
    op.notedExtensions.get? key = op.vendorExtensions.get? key := by
  unfold notedExtensions
  split
  · rw [KeyMap.get?_insert, if_neg hkey]
  · rfl

theorem get?_notedExtensions (op : Operation) (text : String)
    (h : returnExample? op.returnType = some text) :
    op.notedExtensions.get? returnExampleExtension = some (.str text) := by
  rw [notedExtensions, h, KeyMap.get?_insert, if_pos rfl]

theorem derives_of_finishesAs (primitives : List String) (schemes : List DecoratedScheme)
    (op out : Operation) (hop : op.returnContainer = none)
    (h : op.FinishesAs primitives schemes out) : op.Derives primitives out := by
  obtain ⟨path, -, rfl⟩ := h
  -- the route plays no part: everything is derived from the return type and the extensions
  have htype : (op.finished primitives schemes (String.ofList path)).returnType = op.bareType := rfl
  have hcontainer : (op.finished primitives schemes (String.ofList path)).returnContainer =
      op.notedContainer := rfl
  have hext : (op.finished primitives schemes (String.ofList path)).vendorExtensions =
      op.notedExtensions := rfl
  constructor
  case container =>
    intro type c hsome hparse
    have hc : op.container? = some c := by rw [container?, hsome, Option.bind_some, hparse]
    rw [htype, hcontainer, bareType, notedContainer, hc]
    exact ⟨rfl, rfl, ContainerType.squeeze_text type c hparse,
      ContainerType.isSome_key_iff type c hparse⟩
  case plain =>
    intro hplain
    have hc : op.container? = none := by
      rw [container?, Option.bind_eq_none_iff]
      exact hplain
    rw [htype, hcontainer, (bareType_eq_iff op).mpr hc, notedContainer, hc, hop]
    exact ⟨ite_self none, rfl⟩
  case primitive =>
    rw [htype]
    exact isPrimitive_iff primitives op.bareType
  case boolean =>
    intro hboolean
    rw [hext]
    exact get?_notedExtensions op "true" (by rw [hboolean]; rfl)
  case decimal =>
    intro hdecimal
    rw [hext]
    exact get?_notedExtensions op "1.0" (by rw [hdecimal]; rfl)
  case unannotated => exact notedExtensions_of_ne op
  case extensions => exact get?_notedExtensions_of_ne op
  all_goals rfl

end Operation

namespace Bundle

variable {δ : Type} [Document δ]

/-- **What a run derives** from a JSON value or the draft of a text that is read: each operation as
`Derives` says, whatever derived fields the document holds. -/
theorem run_derives (d : δ) (options : Options) (primitives : List String) (model : ApiModel)
    (done : Logged Bundle) (hread : ApiModel.form.read d = .ok model)
    (hrun : run options primitives model = .ok done) :
    List.Forall₂ (Operation.Derives primitives) model.operations done.value.operations ∧
    ∀ e, ApiModel.Alike d e → ApiModel.form.read e = .ok model := by
  obtain ⟨-, -, -, -, hops⟩ := run_eq_ok options primitives model done hrun
  have hunderived := ApiModel.underived_of_read d model hread
  refine ⟨?_, fun e he => ?_⟩
  · rw [List.forall₂_iff_zip] at hops ⊢
    refine ⟨hops.1, fun {op out} hmem => ?_⟩
    exact Operation.derives_of_finishesAs primitives _ op out
      (hunderived op (List.of_mem_zip hmem).1).1 (hops.2 hmem)
  · rw [← ApiModel.read_alike d e he, hread]

/-- An operation that returns a map, with other fields before the return type. -/
def mapOperation (noted : List (String × Json)) : Json :=
  .obj ([("operationId", .str "getPets"), ("path", .str "/pets")] ++ noted ++
    [("returnType", .str " Map< String , List<Pet> > ")])

def mapDocument (noted : List (String × Json)) : Json :=
  .obj [("operations", .arr [mapOperation noted])]

theorem mapDocument_alike :
    ApiModel.Alike (mapDocument [("returnContainer", .str "Set")]) (mapDocument []) := by
  have hfields : SameFields Operation.derivedNames (fun _ (x y : Json) => x = y)
      [(.ok "operationId", .str "getPets"), (.ok "path", .str "/pets"),
        (.ok "returnContainer", .str "Set"),
        (.ok "returnType", .str " Map< String , List<Pet> > ")]
      [(.ok "operationId", .str "getPets"), (.ok "path", .str "/pets"),
        (.ok "returnType", .str " Map< String , List<Pet> > ")] :=
    .field _ _ _ _ _ rfl <| .field _ _ _ _ _ rfl <| .left "returnContainer" _ _ _ (by decide) rfl <|
      .field _ _ _ _ _ rfl .nil
  have hoperation : Operation.Alike (mapOperation [("returnContainer", .str "Set")])
      (mapOperation []) := .object _ _ (.ok ()) rfl rfl hfields
  have hlist : Operation.AlikeLists (Json.arr [mapOperation [("returnContainer", .str "Set")]])
      (Json.arr [mapOperation []]) := .list _ _ (.ok ()) rfl rfl (.cons hoperation .nil)
  exact .object _ _ (.ok ()) rfl rfl (.field _ _ _ _ _ (.inr ⟨rfl, hlist⟩) .nil)

/-- A map of lists is a map, whatever the document says, and its values are lists. -/
theorem run_derives_map : ∃ model done,
    ApiModel.form.read (mapDocument [("returnContainer", .str "Set")]) = .ok model ∧
    run {} defaultPrimitives model = .ok done ∧
    (done.value.operations.map fun op => (op.returnContainer, op.returnType)) =
      [(some .map, some "List<Pet>")] ∧
    ApiModel.form.read (mapDocument []) = .ok model :=
  ⟨_, _, rfl, rfl, rfl,
    (run_derives (mapDocument [("returnContainer", .str "Set")]) {} defaultPrimitives _ _ rfl rfl).2
      (mapDocument []) mapDocument_alike⟩

end Bundle

end PlayScaffold
