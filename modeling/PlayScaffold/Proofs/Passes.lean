import PlayScaffold.Proofs.ContainerType
import PlayScaffold.Proofs.KeyMap
import PlayScaffold.Proofs.Route
import PlayScaffold.Proofs.Uploads

/-!
# Transforming an operation, once and twice

`value_simplify` writes the result of a simplification field by field.  A second transformation
finds the route and the uploads as the first one left them, but it sees the element of a container
as a return type of its own:

    op.transform primitives = .ok once →
      ∃ twice, once.value.transform primitives = .ok twice ∧
        (twice.value = once.value ↔ op.Settled)                       (transform_transform)

So `List<List<Pet>>` loses a container with each pass, and `List<Boolean>` gains an example with the
second one.
-/

namespace PlayScaffold.Operation

/-! ## One pass -/

/-- The container around the return type, if there is one. -/
def container? (op : Operation) : Option ContainerType := op.returnType.bind ContainerType.parse?

/-- The type inside the container, or the return type itself. -/
def bareType (op : Operation) : Option String :=
  match op.container? with
  | some c => some c.element
  | none => op.returnType

/-- The container that a simplification notes: a missing return type has none, and one that is no
container keeps what was noted before. -/
def notedContainer (op : Operation) : Option ContainerKind :=
  match op.container? with
  | some c => some c.kind
  | none => if op.returnType = none then none else op.returnContainer

/-- The extensions with an example of the return type, where the type has one. -/
def notedExtensions (op : Operation) : KeyMap Json :=
  match returnExample? op.returnType with
  | some text => op.vendorExtensions.insert returnExampleExtension (.str text)
  | none => op.vendorExtensions

theorem annotate_eq (op : Operation) :
    op.annotate = { op with vendorExtensions := op.notedExtensions } := by
  unfold annotate notedExtensions
  cases returnExample? op.returnType <;> rfl

theorem value_unwrap (op : Operation) :
    op.unwrap.value =
      { op with returnType := op.bareType, returnContainer := op.notedContainer } := by
  obtain ⟨_, _, _, _, _, _, _, returnType, _, _, _, _, _⟩ := op
  cases returnType with
  | none => rfl
  | some type =>
    cases hparse : ContainerType.parse? type with
    | some c => simp only [unwrap, bareType, notedContainer, container?, Option.bind_some, hparse,
        Logged.value_pure]
    | none =>
      simp only [unwrap, bareType, notedContainer, container?, Option.bind_some, hparse,
        reduceCtorEq, if_false]
      split <;> rfl

/-- The simplified operation, field by field. -/
def simplified (primitives : List String) (op : Operation) : Operation :=
  { op with
    vendorExtensions := op.notedExtensions
    returnType := op.bareType
    returnContainer := op.notedContainer
    returnTypeIsPrimitive := isPrimitive primitives op.bareType
    params := op.params.substituteUploads }

theorem value_simplify (primitives : List String) (op : Operation) :
    (simplify primitives op).value = op.simplified primitives := by
  unfold simplify
  rw [Logged.value_bind, Logged.value_pure, value_unwrap, annotate_eq]
  rfl

theorem transform_eq_ok_iff (primitives : List String) (op : Operation) (done : Logged Operation) :
    op.transform primitives = .ok done ↔
      ∃ path, Route.convert op.path.toList = .ok path ∧
        done = simplify primitives { op with path := String.ofList path } := by
  unfold transform Route.normalize
  rw [bind_eq_ok_iff]
  cases Route.convert op.path.toList with
  | error fault => simp
  | ok path => simp [pure, Except.pure, eq_comm]

/-! ## A second pass -/

/-- A type with an example is no container. -/
theorem parse?_of_returnExample? (type text : String) (h : returnExample? (some type) = some text) :
    ContainerType.parse? type = none := by
  unfold returnExample? at h
  split at h
  · next heq =>
    rw [Option.some.inj heq]
    decide
  · next heq =>
    rw [Option.some.inj heq]
    decide
  · cases h

/-- The element of the return type's container, if there is one, is no container itself, and its
example, if it has one, is noted already. -/
def Settled (op : Operation) : Prop :=
  ∀ c, op.container? = some c →
    ContainerType.parse? c.element = none ∧
    ∀ text, returnExample? (some c.element) = some text →
      op.vendorExtensions.get? returnExampleExtension = some (.str text)

theorem bareType_eq_iff (op : Operation) : op.bareType = op.returnType ↔ op.container? = none := by
  unfold bareType
  cases hc : op.container? with
  | none => simp
  | some c =>
    obtain ⟨type, htype, hparse⟩ := Option.bind_eq_some_iff.mp hc
    have hne := ContainerType.element_ne type c hparse
    simp [htype, hne]

theorem notedExtensions_eq_iff (op : Operation) : op.notedExtensions = op.vendorExtensions ↔
    ∀ text, returnExample? op.returnType = some text →
      op.vendorExtensions.get? returnExampleExtension = some (.str text) := by
  unfold notedExtensions
  cases returnExample? op.returnType with
  | none => simp
  | some text => simp [KeyMap.insert_eq_self_iff]

/-- A pass leaves the return type and the extensions of its result alone exactly where the operation
was settled before it. -/
theorem fixed_iff_settled (op once : Operation) (htype : once.returnType = op.bareType)
    (hext : once.vendorExtensions = op.notedExtensions) :
    once.bareType = once.returnType ∧ once.notedExtensions = once.vendorExtensions ↔
      op.Settled := by
  rw [bareType_eq_iff, notedExtensions_eq_iff, container?, htype, hext]
  unfold bareType Settled
  cases hc : op.container? with
  | some c =>
    obtain ⟨type, hop, hparse⟩ := Option.bind_eq_some_iff.mp hc
    have hplain : op.notedExtensions = op.vendorExtensions := by
      rw [notedExtensions_eq_iff, hop]
      intro text htext
      rw [parse?_of_returnExample? type text htext] at hparse
      cases hparse
    rw [hplain]
    simp
  | none =>
    simp only [reduceCtorEq, false_implies, implies_true, iff_true]
    refine ⟨hc, fun text htext => ?_⟩
    rw [notedExtensions, htext, KeyMap.get?_insert, if_pos rfl]

/-- Where a result is no container, what is noted of it stands. -/
theorem notedContainer_fixed (op once : Operation) (htype : once.returnType = op.bareType)
    (hcontainer : once.returnContainer = op.notedContainer) (hnone : once.container? = none) :
    once.notedContainer = once.returnContainer := by
  simp only [notedContainer, hnone]
  split
  · next hmissing =>
    rw [hcontainer, notedContainer]
    rw [htype, bareType] at hmissing
    cases hc : op.container? with
    | some c => simp [hc] at hmissing
    | none =>
      simp only [hc] at hmissing
      simp [hmissing]
  · rfl

theorem simplified_eq_self_iff (primitives : List String) (op : Operation)
    (hparams : op.params.substituteUploads = op.params)
    (hprimitive : op.returnTypeIsPrimitive = isPrimitive primitives op.returnType)
    (hcontainer : op.container? = none → op.notedContainer = op.returnContainer) :
    op.simplified primitives = op ↔
      op.bareType = op.returnType ∧ op.notedExtensions = op.vendorExtensions := by
  constructor
  · intro heq
    exact ⟨congrArg returnType heq, congrArg vendorExtensions heq⟩
  · rintro ⟨hbare, hnoted⟩
    have hkept := hcontainer ((bareType_eq_iff op).mp hbare)
    rw [simplified, hnoted, hkept, hparams, hbare, ← hprimitive]

/-- **A second transformation** succeeds and keeps the route, the parameters and all else that is
not derived from the return type; it keeps the whole operation exactly where the return type had
settled before the first one. -/
theorem transform_transform (primitives : List String) (op : Operation) (once : Logged Operation)
    (h : op.transform primitives = .ok once) :
    ∃ twice, once.value.transform primitives = .ok twice ∧
      twice.value =
        { once.value with
          vendorExtensions := twice.value.vendorExtensions
          returnType := twice.value.returnType
          returnContainer := twice.value.returnContainer
          returnTypeIsPrimitive := twice.value.returnTypeIsPrimitive } ∧
      (twice.value = once.value ↔ op.Settled) := by
  obtain ⟨path, hpath, rfl⟩ := (transform_eq_ok_iff primitives op once).mp h
  rw [value_simplify]
  generalize honce : ({ op with path := String.ofList path }).simplified primitives = once
  have hroute : once.path = String.ofList path := by rw [← honce]; rfl
  have htype : once.returnType = op.bareType := by rw [← honce]; rfl
  have hcontainer : once.returnContainer = op.notedContainer := by rw [← honce]; rfl
  have hext : once.vendorExtensions = op.notedExtensions := by rw [← honce]; rfl
  have hprimitive : once.returnTypeIsPrimitive = isPrimitive primitives once.returnType := by
    rw [← honce]; rfl
  have hparams : once.params.substituteUploads = once.params := by
    rw [← honce]
    exact ParameterLists.substituteUploads_substituteUploads op.params
  have hagain : Route.convert once.path.toList = .ok path := by
    rw [hroute, String.toList_ofList]
    exact Route.convert_convert _ _ hpath
  refine ⟨_, (transform_eq_ok_iff primitives once _).mpr ⟨path, hagain, rfl⟩, ?_⟩
  have hsame : ({ once with path := String.ofList path } : Operation) = once := by rw [← hroute]
  rw [hsame, value_simplify]
  refine ⟨?_, ?_⟩
  · simp only [simplified, hparams]
  · rw [← fixed_iff_settled op once htype hext]
    exact simplified_eq_self_iff primitives once hparams hprimitive
      (notedContainer_fixed op once htype hcontainer)

/-- A set of orders has settled: the second pass finds nothing to do. -/
theorem transform_transform_orders : ∃ once twice,
    ((new "getOrder" "GET" "/store/order/{order_id}").withReturnType "Set<Order>").transform
      defaultPrimitives = .ok once ∧
    once.value.path = "/store/order/:orderId" ∧ once.value.returnType = some "Order" ∧
    once.value.transform defaultPrimitives = .ok twice ∧ twice.value = once.value := by
  obtain ⟨twice, htwice, -, hfixed⟩ := transform_transform defaultPrimitives
    ((new "getOrder" "GET" "/store/order/{order_id}").withReturnType "Set<Order>") _ rfl
  refine ⟨_, twice, rfl, rfl, rfl, htwice, hfixed.mpr fun c hc => ?_⟩
  have hset : c = ⟨.set, none, "Order"⟩ := (Option.some.inj hc).symm
  have hplain : returnExample? (some "Order") = none := by decide
  rw [hset]
  exact ⟨by decide, fun text htext => nomatch hplain.symm.trans htext⟩

/-- Not every operation stays as it is: a list of lists loses a container with each pass. -/
theorem not_forall_transform_transform :
    ¬ ∀ (primitives : List String) (op : Operation) (once : Logged Operation),
      op.transform primitives = .ok once →
        ∃ twice, once.value.transform primitives = .ok twice ∧ twice.value = once.value := by
  intro h
  obtain ⟨twice, htwice, heq⟩ := h defaultPrimitives
    ((new "listPets" "GET" "/pets").withReturnType "List<List<Pet>>") _ rfl
  have htype : twice.value.returnType = some "Pet" := by
    cases htwice
    rfl
  rw [heq] at htype
  exact absurd htype (by decide)

end PlayScaffold.Operation
