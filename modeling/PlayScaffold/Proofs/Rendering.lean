import PlayScaffold.Proofs.KeyMap
import PlayScaffold.Proofs.Traversal
import PlayScaffold.Rendering

/-!
# Rendering with kept contexts

A rendering keeps the contexts of the classes that it has met and takes them again.  A context that
is kept is always the one that would be made anew (`Fresh`), so the files are those of bindings that
are rendered one by one, each with a context of its own:

    renderBundle b render = b.bindings.mapM (b.renderAlone render)         (renderBundle_eq_mapM)

The first binding that cannot be rendered decides the error, and how those behind it would have
been rendered has no influence (`renderBundle_one_by_one`).
-/

namespace PlayScaffold

open Template (Context)

namespace Bundle

section Alone

variable (b : Bundle) (render : String → Context → Except Error String)

/-! ## One binding by itself -/

def contextOf (binding : Binding) : Context :=
  match binding.apiClass with
  | none => b.globalContext
  | some c => b.classContext b.globalContext c

/-- Renders a binding with a context of its own. -/
def renderAlone (binding : Binding) : Except Error RenderedArtifact :=
  (fun content => ⟨binding.template, binding.destination, content⟩) <$>
    render binding.template (b.contextOf binding)

theorem renderAlone_eq_ok_iff (binding : Binding) (artifact : RenderedArtifact) :
    b.renderAlone render binding = .ok artifact ↔
      artifact.template = binding.template ∧ artifact.path = binding.destination ∧
        render binding.template (b.contextOf binding) = .ok artifact.content := by
  rw [renderAlone, map_eq_ok_iff]
  constructor
  · rintro ⟨content, hcontent, rfl⟩
    exact ⟨rfl, rfl, hcontent⟩
  · rintro ⟨htemplate, hpath, hcontent⟩
    refine ⟨artifact.content, hcontent, ?_⟩
    rw [← htemplate, ← hpath]

theorem exists_renderAlone_ok_iff (binding : Binding) :
    (∃ artifact, b.renderAlone render binding = .ok artifact) ↔
      ∃ text, render binding.template (b.contextOf binding) = .ok text := by
  rw [renderAlone]
  cases render binding.template (b.contextOf binding) <;> simp [Functor.map, Except.map]

theorem renderAlone_eq_error_iff (binding : Binding) (e : Error) :
    b.renderAlone render binding = .error e ↔
      render binding.template (b.contextOf binding) = .error e := by
  rw [renderAlone]
  cases render binding.template (b.contextOf binding) <;> simp [Functor.map, Except.map]

/-! ## Kept contexts -/

/-- Every context that is kept is the one that would be made anew. -/
def Fresh (made : KeyMap Context) : Prop :=
  ∀ c context, made.get? c = some context → context = b.classContext b.globalContext c

theorem fresh_empty : b.Fresh .empty := by
  intro c context h
  cases h

theorem fresh_insert (made : KeyMap Context) (h : b.Fresh made) (c : String) :
    b.Fresh (made.insert c (b.classContext b.globalContext c)) := by
  intro d context hd
  rw [KeyMap.get?_insert] at hd
  split at hd
  · next heq => rw [heq, Option.some.inj hd]
  · exact h d context hd

/-- What is kept is what the binding would see by itself, and stays fresh. -/
theorem keptContext_fresh (made : KeyMap Context) (h : b.Fresh made) (binding : Binding) :
    (b.keptContext b.globalContext made binding).1 = b.contextOf binding ∧
      b.Fresh (b.keptContext b.globalContext made binding).2 := by
  unfold keptContext contextOf
  cases binding.apiClass with
  | none => exact ⟨rfl, h⟩
  | some c =>
    cases hmade : made.get? c with
    | some context =>
      simp only [hmade]
      exact ⟨h c context hmade, h⟩
    | none =>
      simp only [hmade]
      exact ⟨trivial, b.fresh_insert made h c⟩

/-- With kept contexts a binding is rendered as it is by itself. -/
theorem renderNext_eq (soFar : Rendering) (h : b.Fresh soFar.classContexts) (binding : Binding) :
    ∃ made, b.Fresh made ∧
      b.renderNext b.globalContext render soFar binding =
        (fun artifact => ⟨made, soFar.artifacts ++ [artifact]⟩) <$>
          b.renderAlone render binding := by
  obtain ⟨hcontext, hfresh⟩ := b.keptContext_fresh soFar.classContexts h binding
  refine ⟨_, hfresh, ?_⟩
  rw [renderNext, renderAlone, ← hcontext]
  generalize render binding.template
    (b.keptContext b.globalContext soFar.classContexts binding).1 = result
  cases result <;> rfl

/-- The files so far and those of the bindings to come. -/
theorem foldlM_renderNext (bindings : List Binding) :
    ∀ soFar : Rendering, b.Fresh soFar.classContexts →
      Rendering.artifacts <$> bindings.foldlM (b.renderNext b.globalContext render) soFar =
        (soFar.artifacts ++ ·) <$> bindings.mapM (b.renderAlone render) := by
  -- what is carried from one binding to the next is that the kept contexts are fresh
  induction bindings with
  | nil =>
    intro soFar _
    simp
  | cons binding rest ih =>
    intro soFar h
    obtain ⟨made, hmade, hnext⟩ := b.renderNext_eq render soFar h binding
    rw [List.foldlM_cons, List.mapM_cons, hnext]
    cases b.renderAlone render binding with
    | error e => rfl
    | ok artifact =>
      have hrest := ih ⟨made, soFar.artifacts ++ [artifact]⟩ hmade
      show Rendering.artifacts <$> rest.foldlM (b.renderNext b.globalContext render)
          ⟨made, soFar.artifacts ++ [artifact]⟩ = _
      rw [hrest]
      cases rest.mapM (b.renderAlone render) <;> simp [Functor.map, Except.map, bind, Except.bind,
        pure, Except.pure]

end Alone

/-! ## Whole renderings -/

theorem renderBundle_eq_mapM (b : Bundle) (render : String → Context → Except Error String) :
    renderBundle b render = b.bindings.mapM (b.renderAlone render) := by
  have hloop := b.foldlM_renderNext render b.bindings {} b.fresh_empty
  have hbundle : renderBundle b render =
      Rendering.artifacts <$> b.bindings.foldlM (b.renderNext b.globalContext render) {} := by
    unfold renderBundle
    cases b.bindings.foldlM (b.renderNext b.globalContext render) {} <;> rfl
  rw [hbundle, hloop]
  cases b.bindings.mapM (b.renderAlone render) <;> rfl

/-- **A rendering renders each binding by itself**, in order: a file for each of them if all can be
rendered, and otherwise the error of the first one that cannot, whatever becomes of those behind
it. -/
theorem renderBundle_one_by_one (b : Bundle) (render : String → Context → Except Error String) :
    (∀ artifacts, renderBundle b render = .ok artifacts ↔
      List.Forall₂ (fun binding artifact => artifact.template = binding.template ∧
        artifact.path = binding.destination ∧
        render binding.template (b.contextOf binding) = .ok artifact.content)
        b.bindings artifacts) ∧
    ((∃ artifacts, renderBundle b render = .ok artifacts) ↔
      ∀ binding ∈ b.bindings, ∃ text,
        render binding.template (b.contextOf binding) = .ok text) ∧
    (∀ e, renderBundle b render = .error e ↔ ∃ before binding after,
      b.bindings = before ++ binding :: after ∧
      (∀ x ∈ before, ∃ text, render x.template (b.contextOf x) = .ok text) ∧
      render binding.template (b.contextOf binding) = .error e) ∧
    ∀ other before binding after e, b.bindings = before ++ binding :: after →
      render binding.template (b.contextOf binding) = .error e →
      (∀ x ∈ before ++ [binding],
        other x.template (b.contextOf x) = render x.template (b.contextOf x)) →
      renderBundle b other = renderBundle b render := by
  refine ⟨fun artifacts => ?_, ?_, fun e => ?_, ?_⟩
  · rw [renderBundle_eq_mapM, mapM_eq_ok_iff]
    simp only [renderAlone_eq_ok_iff]
  · rw [renderBundle_eq_mapM, exists_mapM_ok_iff]
    simp only [exists_renderAlone_ok_iff]
  · rw [renderBundle_eq_mapM, mapM_eq_error_iff]
    simp only [exists_renderAlone_ok_iff, renderAlone_eq_error_iff]
  · intro other before binding after e hsplit herror hsame
    rw [renderBundle_eq_mapM, renderBundle_eq_mapM, hsplit]
    refine mapM_congr_of_error _ _ before after binding e (fun x hx => ?_)
      ((b.renderAlone_eq_error_iff render binding e).mpr herror)
    rw [renderAlone, renderAlone, hsame x hx]

/-- Two files of a run and two of the class `Pet`. -/
def petFiles : Bundle where
  options := {}
  operations := [(Operation.new "listPets" "GET" "/pets").withBaseName "pet"]
  securitySchemes := []
  plan :=
    { supportingFiles := [⟨"README.tera", "", "README"⟩, ⟨"routes.tera", "conf", "routes"⟩]
      apiArtifacts := [.controller, .implementation]
      apiFolder := "app/controllers" }
  document := none

/-- Writes the template and the class that it sees; one template cannot be rendered. -/
def nameClass (broken template : String) (context : Context) : Except Error String :=
  if template = broken then .error (.template ("cannot render " ++ template))
  else .ok (template ++ "|" ++ (match context.get? "classname" with
    | some (.str c) => c
    | _ => "-"))

/-- The second file of the class sees its class as the first one does; where the first one cannot be
rendered, the second one does not count. -/
theorem renderBundle_one_by_one_pets :
    renderBundle petFiles (nameClass "") = .ok
      [⟨"README.tera", "README", "README.tera|-"⟩, ⟨"routes.tera", "conf/routes", "routes.tera|-"⟩,
        ⟨"newApiController.tera", "app/controllers/PetController.java",
          "newApiController.tera|Pet"⟩,
        ⟨"newApi.tera", "app/controllers/PetControllerImp.java", "newApi.tera|Pet"⟩] ∧
    renderBundle petFiles (nameClass "newApiController.tera") =
      .error (.template "cannot render newApiController.tera") ∧
    renderBundle petFiles (fun template context =>
        if template = "newApi.tera" then .error (.config "unused")
        else nameClass "newApiController.tera" template context) =
      renderBundle petFiles (nameClass "newApiController.tera") := by
  obtain ⟨hok, -, -, -⟩ := renderBundle_one_by_one petFiles (nameClass "")
  obtain ⟨-, -, herror, hlater⟩ :=
    renderBundle_one_by_one petFiles (nameClass "newApiController.tera")
  have hbindings : petFiles.bindings =
      [⟨"README.tera", "README", none⟩, ⟨"routes.tera", "conf/routes", none⟩] ++
        ⟨"newApiController.tera", "app/controllers/PetController.java", some "Pet"⟩ ::
          [⟨"newApi.tera", "app/controllers/PetControllerImp.java", some "Pet"⟩] := by decide
  refine ⟨(hok _).mpr ?_, (herror _).mpr ⟨_, _, _, hbindings, ?_, rfl⟩,
    hlater _ _ _ _ _ hbindings rfl ?_⟩
  · rw [hbindings]
    exact .cons ⟨rfl, rfl, rfl⟩ (.cons ⟨rfl, rfl, rfl⟩ (.cons ⟨rfl, rfl, rfl⟩
      (.cons ⟨rfl, rfl, rfl⟩ .nil)))
  · simp only [List.forall_mem_cons]
    exact ⟨⟨_, rfl⟩, ⟨_, rfl⟩, fun _ h => nomatch h⟩
  · simp only [List.cons_append, List.nil_append, List.forall_mem_cons]
    exact ⟨rfl, rfl, rfl, fun _ h => nomatch h⟩

end Bundle

end PlayScaffold
