import PlayScaffold.Proofs.Bundle
import PlayScaffold.Proofs.Copies

/-!
# A run in place

`Bundle.run` takes operations as values; `Session.generate` edits them where they stand, one slot
after the other, over one store of records.  On slots that are apart both do the same: they fail
with the same error, or the slots show the operations of the bundle and the same warnings have been
noted.

    match Bundle.run options primitives ⟨operations, schemes, document⟩ with
    | .error e => ∃ st', generate primitives slots schemes st = .error e st'
    | .ok done => ∃ st', generate primitives slots schemes st = .ok done.value.securitySchemes st' ∧
        List.Forall₂ st'.value.Shows slots done.value.operations ∧
        st'.warnings = st.warnings ++ done.warnings                  (generate_eq_run)

What a pass reports depends on the fields of an operation only.  Errors and warnings therefore agree
even where slots share records (`generate_reports`).
-/

namespace PlayScaffold

/-! ## What a pass reports -/

/-- The warnings or the error of a pass. -/
def report (r : Except Error (Logged Operation)) : Except Error (List Warning) :=
  (·.warnings) <$> r

namespace Operation

theorem warnings_unwrap (op : Operation) : op.unwrap.warnings = op.fields.unwrap.warnings := by
  simp only [unwrap, fields]
  split
  · rfl
  · split
    · rfl
    · split <;> rfl

theorem warnings_simplify (primitives : List String) (op : Operation) :
    (simplify primitives op).warnings = (simplify primitives op.fields).warnings := by
  show op.annotate.unwrap.warnings ++ [] = op.fields.annotate.unwrap.warnings ++ []
  rw [warnings_unwrap op.annotate, fields_annotate]

theorem report_transform (primitives : List String) (op : Operation) :
    report (op.transform primitives) = report (op.fields.transform primitives) := by
  show (·.warnings) <$> (Route.normalize op.operationId op.path >>= fun path =>
      pure (simplify primitives { op with path })) =
    (·.warnings) <$> (Route.normalize op.operationId op.path >>= fun path =>
      pure (simplify primitives { op.fields with path }))
  cases Route.normalize op.operationId op.path with
  | error e => rfl
  | ok path => exact congrArg Except.ok (warnings_simplify primitives { op with path })

end Operation

namespace Step

/-- The step does in place what the pass does. -/
structure Does (step : Step) (pass : Operation → Except Error (Logged Operation)) : Prop where
  act : ∀ st : Logged Operation, step.act st =
    match pass st.value with
    | .ok done => .ok () ⟨done.value, st.warnings ++ done.warnings⟩
    | .error e => .error e st
  report : ∀ op, report (pass op) = report (pass op.fields)

theorem does_transform (primitives : List String) :
    (Step.transform primitives).Does (Operation.transform primitives) := by
  refine ⟨fun st => ?_, Operation.report_transform primitives⟩
  show Operation.transformInPlace primitives st = _
  rw [Operation.transformInPlace_eq, Operation.transform]
  cases Route.normalize st.value.operationId st.value.path <;> rfl

theorem does_resolve (schemes : List DecoratedScheme) :
    (Step.resolve schemes).Does fun op => .ok (Operation.resolve schemes op) :=
  ⟨fun _ => rfl, fun _ => rfl⟩

variable {step : Step} {pass : Operation → Except Error (Logged Operation)}

theorem Does.result (h : step.Does pass) (op : Operation) (done : Logged Operation)
    (hdone : pass op = .ok done) : step.result op = done.value := by
  rw [Step.result, h.act, hdone]
  rfl

/-- Passes report the same for the same fields. -/
theorem Does.report_eq (h : step.Does pass) (op other : Operation)
    (hfields : op.fields = other.fields) : PlayScaffold.report (pass op) =
      PlayScaffold.report (pass other) := by
  rw [h.report op, h.report other, hfields]

theorem fields_result (step : Step) (op other : Operation) (h : op.fields = other.fields) :
    (step.result op).fields = (step.result other).fields := by
  rw [result_eq step op, result_eq step other, h]
  rfl

end Step

namespace Session

/-! ## One slot -/

/-- The slot holds an operation with these fields. -/
def HasFields (s : Session) (k : Nat) (op : Operation) : Prop :=
  ∃ found, s.operation? k = some found ∧ found.fields = op.fields

theorem Shows.hasFields {s : Session} {k : Nat} {op : Operation} (h : s.Shows k op) :
    s.HasFields k op := by
  obtain ⟨found, hfound, halike⟩ := h
  exact ⟨found, hfound, halike.1.symm⟩

theorem HasFields.changed {s t : Session} {j k : Nat} {op : Operation} (h : s.HasFields j op)
    (hchanged : Changed k s t) (hj : j ≠ k) : t.HasFields j op := by
  obtain ⟨found, hfound, hfields⟩ := h
  have hrel := hchanged.others j hj
  rw [hfound] at hrel
  obtain ⟨after, hafter, hsame⟩ := eq_some_of_rel hrel
  exact ⟨after, hafter, hsame.fields.trans hfields⟩

/-- Slots that are not changed hold their fields, even if they share records with those that are. -/
theorem ChangedAt.hasFields {slots : List Nat} {s t : Session} (h : ChangedAt slots s t) (j : Nat)
    (hj : j ∉ slots) (op : Operation) (hop : s.HasFields j op) : t.HasFields j op := by
  induction h with
  | refl => exact hop
  | tail _ hchanged ih =>
    obtain ⟨k, hk, hchanged⟩ := hchanged
    refine ih.changed hchanged ?_
    rintro rfl
    exact hj hk

theorem perform_of_act (k : Nat) (step : Step) (st : Logged Session) (op : Operation)
    (hop : st.value.operation? k = some op)
    (done : EStateM.Result Error (Logged Operation) Unit)
    (hdone : step.act ⟨op, st.warnings⟩ = done) :
    ∃ h, perform k step st = st.value.finish k done h := by
  subst hdone
  exact perform_of_some k step st op hop

theorem value_perform (k : Nat) (step : Step) (st : Logged Session) :
    (InPlace.stateOf (perform k step st)).value = st.value.after (.on k step) := by
  cases hop : st.value.operation? k with
  | none =>
    show _ = (InPlace.stateOf (perform k step ⟨st.value, []⟩)).value
    rw [perform_of_none k step st hop, perform_of_none k step ⟨st.value, []⟩ hop]
    rfl
  | some op =>
    obtain ⟨h, hput⟩ := stateOf_perform k step st op hop
    obtain ⟨_, hafter⟩ := stateOf_perform k step ⟨st.value, []⟩ op hop
    exact hput.trans hafter.symm

variable {step : Step} {pass : Operation → Except Error (Logged Operation)}

/-- On a slot a step reports what the pass does on an operation with the same fields. -/
theorem perform_reports (h : step.Does pass) (k : Nat) (st : Logged Session) (op : Operation)
    (hop : st.value.HasFields k op) :
    match pass op with
    | .error e => ∃ st', perform k step st = .error e st'
    | .ok done => ∃ st', perform k step st = .ok () st' ∧ st'.value.HasFields k done.value ∧
        st'.warnings = st.warnings ++ done.warnings := by
  obtain ⟨found, hfound, hfields⟩ := hop
  have hreport := h.report_eq found op hfields
  have hact := h.act ⟨found, st.warnings⟩
  cases hfinal : pass found with
  | error e =>
    simp only [hfinal] at hact hreport
    obtain ⟨_, hperform⟩ := perform_of_act k step st found hfound _ hact
    cases hpass : pass op with
    | ok done => rw [hpass] at hreport; cases hreport
    | error e' =>
      rw [hpass] at hreport
      obtain rfl : e = e' := Except.error.inj hreport
      exact ⟨_, hperform⟩
  | ok done =>
    simp only [hfinal] at hact hreport
    obtain ⟨hle, hperform⟩ := perform_of_act k step st found hfound _ hact
    cases hpass : pass op with
    | error e => rw [hpass] at hreport; cases hreport
    | ok done' =>
      rw [hpass] at hreport
      have hwarnings : done.warnings = done'.warnings := Except.ok.inj hreport
      have hself := operation?_put_self st.value k done.value hle
        (st.value.lt_of_operation? k found hfound)
      refine ⟨_, hperform, ⟨done.value, hself, ?_⟩, by rw [← hwarnings]⟩
      rw [← h.result found done hfinal, ← h.result op done' hpass]
      exact step.fields_result found op hfields

/-! ## Slots in turn -/

/-- The slots in turn report what the operations in turn do. -/
theorem forM_perform_reports (h : step.Does pass) (slots : List Nat) :
    ∀ (operations : List Operation) (st : Logged Session), slots.Nodup →
      List.Forall₂ st.value.HasFields slots operations →
      match operations.mapM pass with
      | .error e => ∃ st', (slots.forM fun k => perform k step) st = .error e st'
      | .ok done => ∃ st', (slots.forM fun k => perform k step) st = .ok () st' ∧
          List.Forall₂ st'.value.HasFields slots (done.map (·.value)) ∧
          st'.warnings = st.warnings ++ done.flatMap (·.warnings) := by
  -- the first slot is not among the others, which hold their fields meanwhile
  induction slots with
  | nil =>
    intro operations st _ hops
    cases hops
    exact ⟨st, rfl, List.Forall₂.nil, (List.append_nil _).symm⟩
  | cons k rest ih =>
    intro operations st hnodup hops
    obtain ⟨hk, hrest⟩ := List.nodup_cons.mp hnodup
    cases hops with
    | @cons _ op _ others hop hothers =>
      have hfirst := perform_reports h k st op hop
      rw [List.mapM_cons]
      cases hpass : pass op with
      | error e =>
        rw [hpass] at hfirst
        obtain ⟨st₁, hperform⟩ := hfirst
        exact ⟨st₁, InPlace.bind_of_error _ _ st st₁ e hperform⟩
      | ok done =>
        rw [hpass] at hfirst
        obtain ⟨st₁, hperform, hdone, hwarnings⟩ := hfirst
        have hothers₁ : List.Forall₂ st₁.value.HasFields rest others := by
          have hlisted : List.Forall₂ (fun j o => j ∈ rest ∧ st.value.HasFields j o) rest others :=
            (List.forall₂_and_left rest others).mpr ⟨fun _ hj => hj, hothers⟩
          have htouches := touches_perform [k] k step List.mem_cons_self st
          rw [hperform] at htouches
          refine hlisted.imp fun j o hjo => htouches.hasFields j ?_ o hjo.2
          rw [List.mem_singleton]
          rintro rfl
          exact hk hjo.1
        have hlater := ih others st₁ hrest hothers₁
        have hbind := InPlace.bind_of_ok (perform k step)
          (fun _ => rest.forM fun k => perform k step) st st₁ () hperform
        cases hmap : others.mapM pass with
        | error e =>
          rw [hmap] at hlater
          obtain ⟨st₂, hst₂⟩ := hlater
          exact ⟨st₂, hbind.trans hst₂⟩
        | ok dones =>
          rw [hmap] at hlater
          obtain ⟨st₂, hst₂, hfields₂, hwarnings₂⟩ := hlater
          have htouches := touches_forM rest (fun k => perform k step)
            (fun j hj => touches_perform rest j step hj) st₁
          rw [hst₂] at htouches
          refine ⟨st₂, hbind.trans hst₂,
            List.Forall₂.cons (htouches.hasFields k hk done.value hdone) hfields₂, ?_⟩
          rw [hwarnings₂, hwarnings, List.flatMap_cons, List.append_assoc]

theorem afterAll_append (s : Session) (first later : List Command) :
    s.afterAll (first ++ later) = (s.afterAll first).afterAll later := List.foldl_append

/-- Steps in turn that all succeed are commands one after the other. -/
theorem value_forM_perform (step : Step) (slots : List Nat) : ∀ st st' : Logged Session,
    (slots.forM fun k => perform k step) st = .ok () st' →
      st'.value = st.value.afterAll (slots.map (.on · step)) := by
  induction slots with
  | nil =>
    intro st st' h
    cases h
    rfl
  | cons k rest ih =>
    intro st st' h
    have hvalue := value_perform k step st
    cases hperform : perform k step st with
    | error e st₁ =>
      have := InPlace.bind_of_error _ (fun _ => rest.forM fun k => perform k step) st st₁ e hperform
      cases this.symm.trans h
    | ok _ st₁ =>
      have := InPlace.bind_of_ok _ (fun _ => rest.forM fun k => perform k step) st st₁ () hperform
      rw [hperform] at hvalue
      rw [ih st₁ st' (this.symm.trans h)]
      exact congrArg (·.afterAll (rest.map (.on · step))) hvalue

/-- On slots that are apart each operation is the result of its own step. -/
theorem forall₂_shows_afterAll (h : step.Does pass) (slots : List Nat)
    (operations : List Operation) (done : List (Logged Operation)) (s : Session)
    (hnodup : slots.Nodup) (hs : s.Separate) (hops : List.Forall₂ s.Shows slots operations)
    (hdone : List.Forall₂ (fun op d => pass op = .ok d) operations done) :
    List.Forall₂ (s.afterAll (slots.map (.on · step))).Shows slots (done.map (·.value)) := by
  rw [List.forall₂_map_right_iff]
  refine forall₂_through hops hdone fun k hk op d hop hd => ?_
  have hown : (slots.map (Command.on · step)).filter (·.slot = k) = [.on k step] := by
    have hone : slots.filter (· = k) = [k] := by
      rw [List.filter_eq, List.count_eq_one_of_mem hnodup hk]
      rfl
    rw [List.filter_map]
    show (slots.filter (· = k)).map (Command.on · step) = _
    rw [hone]
    rfl
  have hshows := shows_afterAll k (slots.map (.on · step)) s op hs hop
  rw [hown] at hshows
  rw [← h.result op d hd]
  exact hshows

/-! ## Runs -/

theorem forM_resolve_reports (schemes : List DecoratedScheme) (slots : List Nat)
    (operations : List Operation) (st : Logged Session) (hnodup : slots.Nodup)
    (hops : List.Forall₂ st.value.HasFields slots operations) :
    ∃ st', (slots.forM fun k => perform k (.resolve schemes)) st = .ok () st' ∧
      st'.warnings = st.warnings ++
        operations.flatMap fun op => (Operation.resolve schemes op).warnings := by
  have hreports := forM_perform_reports (Step.does_resolve schemes) slots operations st hnodup hops
  have hmap : (operations.mapM fun op => (.ok (Operation.resolve schemes op) : Except Error _)) =
      .ok (operations.map (Operation.resolve schemes)) := List.mapM_pure
  rw [hmap] at hreports
  obtain ⟨st', hst', -, hwarnings⟩ := hreports
  refine ⟨st', hst', ?_⟩
  rw [hwarnings, List.flatMap_map]

end Session

namespace Bundle

theorem warnings_secure (operations : List (Logged Operation)) (schemes : List SecurityScheme) :
    (secure operations schemes).warnings =
      operations.flatMap (·.warnings) ++ ((schemes.mapM DecoratedScheme.decorate).warnings ++
        operations.flatMap fun op =>
          (Operation.resolve (decoratedSchemes schemes) op.value).warnings) := by
  show (operations.mapM id).warnings ++ ((schemes.mapM DecoratedScheme.decorate).warnings ++
    (((operations.mapM id).value.mapM
      (Operation.resolve (schemes.mapM DecoratedScheme.decorate).value)).warnings ++ [])) = _
  simp only [Logged.warnings_mapM, Logged.value_mapM, List.append_nil, List.flatMap_map]
  rfl

/-- The first pass fails for the whole run. -/
theorem run_of_error (options : Options) (primitives : List String) (model : ApiModel) (e : Error)
    (h : model.operations.mapM (Operation.transform primitives) = .error e) :
    run options primitives model = .error e := by
  rw [run, h]
  rfl

/-- After the first pass nothing fails. -/
theorem run_of_ok (options : Options) (primitives : List String) (model : ApiModel)
    (transformed : List (Logged Operation))
    (h : model.operations.mapM (Operation.transform primitives) = .ok transformed) :
    ∃ done, run options primitives model = .ok done ∧
      done.value.securitySchemes = decoratedSchemes model.securitySchemes ∧
      done.value.operations = transformed.map (fun op =>
        (Operation.resolve (decoratedSchemes model.securitySchemes) op.value).value) ∧
      done.warnings = (secure transformed model.securitySchemes).warnings := by
  have hvalue := value_secure transformed model.securitySchemes
  rw [run, h]
  refine ⟨_, rfl, congrArg Prod.snd hvalue, congrArg Prod.fst hvalue, ?_⟩
  exact List.append_nil _

end Bundle

namespace Session

/-- The commands of a run in place. -/
def passes (primitives : List String) (slots : List Nat) (schemes : List DecoratedScheme) :
    List Command :=
  slots.map (.on · (.transform primitives)) ++ slots.map (.on · (.resolve schemes))

/-- A run in place fails and warns as a run does.  Records may be shared: no report depends on
them. -/
theorem generate_reports (options : Options) (primitives : List String) (model : ApiModel)
    (slots : List Nat) (st : Logged Session) (hnodup : slots.Nodup)
    (hops : List.Forall₂ st.value.HasFields slots model.operations) :
    match Bundle.run options primitives model with
    | .error e => ∃ st', generate primitives slots model.securitySchemes st = .error e st'
    | .ok done => ∃ st', generate primitives slots model.securitySchemes st =
          .ok done.value.securitySchemes st' ∧
        st'.value = st.value.afterAll (passes primitives slots done.value.securitySchemes) ∧
        st'.warnings = st.warnings ++ done.warnings := by
  have hfirst := forM_perform_reports (Step.does_transform primitives) slots model.operations st
    hnodup hops
  cases htransformed : model.operations.mapM (Operation.transform primitives) with
  | error e =>
    rw [htransformed] at hfirst
    obtain ⟨st₁, hst₁⟩ := hfirst
    rw [Bundle.run_of_error options primitives model e htransformed]
    exact ⟨st₁, InPlace.bind_of_error _ _ st st₁ e hst₁⟩
  | ok transformed =>
    rw [htransformed] at hfirst
    obtain ⟨st₁, hst₁, hfields₁, hwarnings₁⟩ := hfirst
    obtain ⟨done, hdone, hschemes, -, hwarnings⟩ :=
      Bundle.run_of_ok options primitives model transformed htransformed
    rw [hdone]
    let decorated := model.securitySchemes.mapM DecoratedScheme.decorate
    have hdecorated : done.value.securitySchemes = decorated.value := by
      rw [hschemes]
      exact (Logged.value_mapM _ _).symm
    let st₂ : Logged Session := ⟨st₁.value, st₁.warnings ++ decorated.warnings⟩
    obtain ⟨st₃, hst₃, hwarnings₃⟩ :=
      forM_resolve_reports decorated.value slots _ st₂ hnodup hfields₁
    have hgenerate : generate primitives slots model.securitySchemes st =
        .ok decorated.value st₃ := by
      rw [generate, InPlace.bind_of_ok _ _ st st₁ () hst₁,
        InPlace.bind_of_ok (InPlace.log decorated) _ st₁ st₂ decorated.value rfl]
      exact InPlace.bind_of_ok _ _ st₂ st₃ () hst₃
    refine ⟨st₃, hdecorated ▸ hgenerate, ?_, ?_⟩
    · rw [hdecorated, passes, afterAll_append, ← value_forM_perform _ slots st st₁ hst₁]
      exact value_forM_perform _ slots st₂ st₃ hst₃
    · rw [hwarnings₃, hwarnings, Bundle.warnings_secure, List.flatMap_map]
      show st₁.warnings ++ decorated.warnings ++ _ = _
      rw [hwarnings₁, ← hdecorated, hschemes]
      simp only [List.append_assoc, decorated]

/-- **A run in place does what a run does.**  On slots that are apart both fail with the same error,
or the slots show the operations of the bundle and the same warnings have been noted. -/
theorem generate_eq_run (options : Options) (primitives : List String) (model : ApiModel)
    (slots : List Nat) (st : Logged Session) (hnodup : slots.Nodup) (hs : st.value.Separate)
    (hops : List.Forall₂ st.value.Shows slots model.operations) :
    match Bundle.run options primitives model with
    | .error e => ∃ st', generate primitives slots model.securitySchemes st = .error e st'
    | .ok done => ∃ st', generate primitives slots model.securitySchemes st =
          .ok done.value.securitySchemes st' ∧
        List.Forall₂ st'.value.Shows slots done.value.operations ∧
        st'.warnings = st.warnings ++ done.warnings := by
  have hreports := generate_reports options primitives model slots st hnodup
    (hops.imp fun _ _ => Shows.hasFields)
  cases htransformed : model.operations.mapM (Operation.transform primitives) with
  | error e =>
    rwa [Bundle.run_of_error options primitives model e htransformed] at hreports ⊢
  | ok transformed =>
    obtain ⟨done, hdone, hschemes, hoperations, -⟩ :=
      Bundle.run_of_ok options primitives model transformed htransformed
    rw [hdone] at hreports ⊢
    obtain ⟨st', hst', hvalue, hwarnings⟩ := hreports
    refine ⟨st', hst', ?_, hwarnings⟩
    have hshows := forall₂_shows_afterAll (Step.does_transform primitives) slots _ transformed
      st.value hnodup hs hops ((mapM_eq_ok_iff _ _ _).mp htransformed)
    have hresolved := forall₂_shows_afterAll (Step.does_resolve done.value.securitySchemes) slots _
      _ _ hnodup (separate_afterAll _ st.value hs) hshows ((mapM_eq_ok_iff _ _ _).mp List.mapM_pure)
    rw [List.map_map, List.map_map] at hresolved
    rw [hvalue, passes, afterAll_append, hoperations, ← hschemes]
    exact hresolved

end Session

end PlayScaffold
